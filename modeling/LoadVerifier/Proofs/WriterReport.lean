/-
This file proves what it means that a writer reports well, whatever may have happened to it: calls
that were refused or broke, workers that died, requests to stop. The store is its own, and makes
writes atomic.

Such a writer was never asked to stop, or the report would say so; so no worker sat on a crash until
the end either, because reporting a crash asks everybody to stop. As long as neither happens, no key
is lost and workers leave only when the range is used up. No key failed, so every key of the range
was completed: over its row the record was laid, and all other rows are as they were.

The other way round, a writer reports well when only its workers take steps, no call is refused and
no key is lost.
-/
import LoadVerifier.Proofs.WriterCutShort

namespace LoadVerifier.WriterLife

open Pool (InOrder Moved)

variable {Storage : Type} {contents : Storage → Contents} {regular : Storage → Prop}
  {plan : WritePlan} {initial : Contents} {life next : WriterLife Storage} {worker : Nat}

/-! ### A writer that reports well -/

/-- As long as nobody was asked to stop and nobody sits on a crash, no key is lost and everybody is
in order. -/
def Unbroken (life : WriterLife Storage) : Prop :=
  life.writer.shared.stopRequested = false →
    (∀ worker crash, life.writer.position? worker ≠ some (.crashed crash)) →
      life.ledger.lost = [] ∧ ∀ worker position, life.writer.position? worker = some position →
        InOrder life.writer.shared position

theorem stopRequested_of_pass {shared after : Shared} {before position : Position WriterTask}
    (pass : Pass shared before position after) (stopped : shared.stopRequested = true) :
    after.stopRequested = true := by
  cases pass <;> first | exact stopped | rfl

theorem stopRequested_of_report {shared after : Shared} {position : Position WriterTask}
    {crash : Crash} (pass : Pass shared (.crashed crash) position after) :
    after.stopRequested = true := by
  cases pass
  rfl

variable [Store Storage]

theorem Change.stopRequested (change : Change life worker next)
    (stopped : life.writer.shared.stopRequested = true) :
    next.writer.shared.stopRequested = true := by
  cases change with
  | passed writer before after moved pass state => exact stopRequested_of_pass pass stopped
  | _ =>
    rename_i shared state
    rw [shared]
    exact stopped

/-- A worker that sits on a crash asks everybody to stop. -/
theorem Change.stopRequested_of_crashed (change : Change life worker next) (crash : Crash)
    (found : life.writer.position? worker = some (.crashed crash)) :
    next.writer.shared.stopRequested = true := by
  cases change with
  | passed writer before after moved pass state =>
    cases moved.position_eq.symm.trans found
    exact stopRequested_of_report pass
  | claimed writer cursor bounds record moved => cases moved.position_eq.symm.trans found
  | barren writer cursor other moved => cases moved.position_eq.symm.trans found
  | stored writer record call rest moved => cases moved.position_eq.symm.trans found
  | refused writer record call rest failure moved => cases moved.position_eq.symm.trans found
  | broken writer record call rest other moved => cases moved.position_eq.symm.trans found
  | failed writer key reason moved => cases moved.position_eq.symm.trans found
  | completed writer record written after mark moved => cases moved.position_eq.symm.trans found
  | rejected writer record other moved => cases moved.position_eq.symm.trans found
  | counted writer record moved => cases moved.position_eq.symm.trans found

theorem Change.unbroken (change : Change life worker next)
    (known : life.writer.shared.cursor.isSome) (unbroken : life.Unbroken) : next.Unbroken := by
  intro running calm
  obtain ⟨_, _, moved⟩ := change.moved
  have wasRunning : life.writer.shared.stopRequested = false := by
    rw [Bool.eq_false_iff]
    intro stopped
    exact Bool.noConfusion (running.symm.trans (change.stopRequested stopped))
  have wasCalm : ∀ other crash, life.writer.position? other ≠ some (.crashed crash) := by
    intro other crash found
    by_cases same : worker = other
    · subst same
      exact Bool.noConfusion (running.symm.trans (change.stopRequested_of_crashed crash found))
    · exact calm other crash ((moved.stayed other same).trans found)
  obtain ⟨lost, inOrder⟩ := unbroken wasRunning wasCalm
  rcases change.inOrder_or_crashes known wasRunning lost inOrder with
    ⟨_, stillLost, stillInOrder⟩ | ⟨crash, crashes⟩
  · exact ⟨stillLost, stillInOrder⟩
  · exact absurd crashes (calm worker crash)

/-- As long as no key is lost, nobody was asked to stop and everybody is in order. -/
def Unhindered (life : WriterLife Storage) : Prop :=
  life.ledger.lost = [] → life.writer.shared.stopRequested = false ∧
    ∀ worker position, life.writer.position? worker = some position →
      InOrder life.writer.shared position

/-- Lost keys stay lost. -/
theorem Change.lost_prefix (change : Change life worker next) :
    life.ledger.lost <+: next.ledger.lost := by
  cases change with
  | barren | broken | rejected => exact List.prefix_append _ _
  | _ => exact List.prefix_rfl

theorem Change.unhindered (change : Change life worker next)
    (known : life.writer.shared.cursor.isSome) (unhindered : life.Unhindered) :
    next.Unhindered := by
  intro lost
  have wasLost := List.prefix_nil.mp (lost ▸ change.lost_prefix)
  obtain ⟨running, inOrder⟩ := unhindered wasLost
  rcases change.inOrder_or_crashes known running wasLost inOrder with
    ⟨stillRunning, _, stillInOrder⟩ | ⟨crash, crashes⟩
  · exact ⟨stillRunning, stillInOrder⟩
  · obtain ⟨key, grown, _⟩ := change.crash_cases known crash crashes
    rw [lost, wasLost] at grown
    cases grown

/-- A writer that was started as planned, on a store that nobody else changes. -/
structure Alone (contents : Storage → Contents) (regular : Storage → Prop) (plan : WritePlan)
    (initial : Contents) (life : WriterLife Storage) : Prop where
  faithful : life.Faithful plan
  traced : life.Traced contents regular initial
  unbroken : life.Unbroken
  counted : Pool.Counted life.writer
  some_worker : 0 < Pool.workerCount life.writer

omit [Store Storage] in
theorem alone_of_starts (threads : Int) (writer : Writer) (starts : plan.Starts threads writer)
    (store : Storage) (isRegular : regular store) :
    (⟨writer, store, {}⟩ : WriterLife Storage).Alone contents regular plan (contents store) ∧
      (⟨writer, store, {}⟩ : WriterLife Storage).Unhindered := by
  obtain ⟨undisturbed, counted, some_worker⟩ :
      Undisturbed contents regular plan (contents store) ⟨writer, store, {}⟩ ∧ _ ∧ _ :=
    undisturbed_of_starts threads writer store starts isRegular
  have traced : (⟨writer, store, {}⟩ : WriterLife Storage).Traced contents regular
      (contents store) :=
    ⟨.going plan undisturbed.faithful, isRegular, fun _ => rfl,
      fun _ _ _ _ member => nomatch member⟩
  exact ⟨⟨undisturbed.faithful, traced, fun _ _ => ⟨rfl, undisturbed.inOrder⟩, counted,
    some_worker⟩, fun _ => ⟨undisturbed.running, undisturbed.inOrder⟩⟩

/-- Nothing that happens to a writer changes this. -/
theorem Alone.step (alone : life.Alone contents regular plan initial)
    (atomic : AtomicWrites Storage contents regular) (event : WriterEvent Storage)
    (own : event.own = true) (happened : life.step event = some next) :
    next.Alone contents regular plan initial := by
  have faithful := (alone.faithful.step event next happened).1
  have traced := alone.traced.step atomic event own happened
  obtain ⟨cursor, known, _⟩ := alone.faithful.accounted.claimed
  have started : life.writer.started = true := by rw [Pool.started, known]; rfl
  cases event with
  | configure multiPut minColumns maxColumns minSize maxSize =>
    cases happened
    rw [settle_configure_of_started started]
    exact alone
  | begin range threads =>
    cases happened
    rw [settle_begin_of_started started]
    exact alone
  | track =>
    obtain ⟨written, tracked, _⟩ := alone.faithful.accounted.tracked
    rw [WriterLife.step, tracked, if_neg fun both => Bool.false_ne_true both.2] at happened
    cases happened
  | spawn threads now =>
    have manned := Pool.isSome_roster_of_some_worker alone.some_worker
    rw [WriterLife.step, if_neg fun both => by
      rw [Option.isNone_iff_eq_none.mp both.2] at manned; cases manned] at happened
    cases happened
  | stop =>
    cases happened
    exact ⟨faithful, traced, fun running => Bool.noConfusion running,
      ⟨alone.counted.1, alone.counted.2⟩, alone.some_worker⟩
  | work worker =>
    have change := change_of_work life next worker happened
    obtain ⟨_, _, moved⟩ := change.moved
    exact ⟨faithful, traced, change.unbroken (by rw [known]; rfl) alone.unbroken,
      counted_of_work happened alone.counted, moved.workerCount_eq ▸ alone.some_worker⟩
  | die worker crash =>
    obtain ⟨task, died⟩ := died_of_die worker crash next happened
    exact ⟨faithful, traced, fun _ calm => absurd died.moved.arrived (calm worker crash),
      alone.counted.of_moved died.moved rfl died.active_eq died.finished_eq,
      died.moved.workerCount_eq ▸ alone.some_worker⟩
  | outside store => cases own

/-- So it is the same after every schedule. -/
theorem Alone.replay (alone : life.Alone contents regular plan initial)
    (atomic : AtomicWrites Storage contents regular) (schedule : List (WriterEvent Storage))
    (own : ∀ event ∈ schedule, event.own = true) (later : WriterLife Storage)
    (ran : LoadVerifier.replay WriterLife.step life schedule = some later) :
    later.Alone contents regular plan initial :=
  replay_invariant_of_allowed (fun event => event.own = true) _
    (fun _ event _ own alone happened => alone.step atomic event own happened) life later schedule
    own alone ran

/-- A writer is unhindered after every schedule in which only its workers take steps. -/
theorem Alone.unhindered (alone : life.Alone contents regular plan initial)
    (atomic : AtomicWrites Storage contents regular) (unhindered : life.Unhindered)
    (schedule : List (WriterEvent Storage))
    (working : ∀ event ∈ schedule, ∃ worker, event = .work worker) (later : WriterLife Storage)
    (ran : LoadVerifier.replay WriterLife.step life schedule = some later) : later.Unhindered := by
  refine (replay_invariant_of_allowed (fun event => ∃ worker, event = .work worker)
    (fun state => state.Alone contents regular plan initial ∧ state.Unhindered) ?_ life later
    schedule working ⟨alone, unhindered⟩ ran).2
  rintro state _ next ⟨worker, rfl⟩ ⟨alone, unhindered⟩ happened
  obtain ⟨cursor, known, _⟩ := alone.faithful.accounted.claimed
  exact ⟨alone.step atomic _ rfl happened,
    (change_of_work state next worker happened).unhindered (by rw [known]; rfl) unhindered⟩

omit [Store Storage]

/-- A writer that is unhindered, and of which no call was refused and no key is lost, reports well
when it is finished. -/
theorem Alone.reports_well (alone : life.Alone contents regular plan initial)
    (unhindered : life.Unhindered) (refused : life.ledger.refused = [])
    (lost : life.ledger.lost = []) (finished : Pool.finished life.writer = true) :
    ∃ result, life.writer.wait = some (.ok result) ∧ result.ok = true := by
  obtain ⟨running, inOrder⟩ := unhindered lost
  refine ⟨life.writer.result, ?_, ?_⟩
  · exact wait_eq_of_inOrder alone.counted finished inOrder
  · have failed : life.writer.state.failedKeys.toList = [] := by
      refine List.eq_nil_iff_forall_not_mem.mpr fun key noted => ?_
      have member := (alone.faithful.accounted.mem_failedKeys key).mp
        (Std.TreeSet.mem_toList.mp noted)
      obtain ⟨_, call, _, _, _, wasRefused⟩ := alone.faithful.failed key member
      rw [refused] at wasRefused
      cases wasRefused
    rw [WriteResult.ok, Writer.result, failed, running]
    rfl

/-- A writer that reports well has claimed its whole range and completed what it claimed. -/
theorem Alone.completed_of_ok (alone : life.Alone contents regular plan initial)
    (result : WriteResult) (waited : life.writer.wait = some (.ok result))
    (well : result.ok = true) :
    life.ledger.claimed = Int.range plan.range.start plan.range.limit ∧
      ∀ key ∈ life.ledger.claimed, key ∈ life.ledger.completed := by
  obtain ⟨joined, rfl⟩ := Writer.wait_eq_ok life.writer result waited
  have finished := alone.counted.finished_of_join Writer.poolName alone.some_worker _ joined
  rw [WriteResult.ok, Bool.and_eq_true, Bool.not_eq_true', List.isEmpty_iff] at well
  obtain ⟨unfailed, running⟩ := well
  have calm : ∀ worker crash, life.writer.position? worker ≠ some (.crashed crash) := by
    intro worker crash found
    obtain ⟨_, gone⟩ := alone.counted.left_of_finished finished worker _ found
    cases gone
  obtain ⟨lost, inOrder⟩ := alone.unbroken running calm
  obtain ⟨claimed, accounts⟩ := alone.faithful.accounts_of_finished lost inOrder alone.counted
    alone.some_worker finished
  have failed : life.ledger.failed = [] := by
    refine List.eq_nil_iff_forall_not_mem.mpr fun key member => ?_
    have noted : key ∈ life.writer.state.failedKeys.toList := Std.TreeSet.mem_toList.mpr
      ((alone.faithful.accounted.mem_failedKeys key).mpr member)
    exact absurd noted (List.eq_nil_iff_forall_not_mem.mp unfailed key)
  rw [failed, Multiset.coe_nil, zero_add] at accounts
  exact ⟨claimed, fun key => (Multiset.coe_eq_coe.mp accounts).mem_iff.mp⟩

/-- Over the rows of its range it has laid the records, and all others are as they were. -/
theorem Alone.contents_of_ok (alone : life.Alone contents regular plan initial)
    (result : WriteResult) (waited : life.writer.wait = some (.ok result))
    (well : result.ok = true) (key : Int) :
    (∀ record, plan.range.start ≤ key → key < plan.range.limit →
        generate key plan.bounds = .ok record →
          contents life.store key = some (overlay (initial key) record.columns)) ∧
      (key < plan.range.start → contents life.store key = initial key) := by
  obtain ⟨claimed, completed⟩ := alone.completed_of_ok result waited well
  rw [alone.traced.contents_eq]
  refine ⟨fun record low high generated => ?_, fun below => ?_⟩
  · have member : key ∈ life.ledger.claimed := claimed ▸ Int.mem_range_iff.mpr ⟨low, high⟩
    obtain ⟨other, otherGenerated, stored⟩ := alone.faithful.completed key (completed key member)
    cases generated.symm.trans otherGenerated
    rw [stored, afterCalls_callsFor _ _ _ (generate_cells_ne_nil key plan.bounds record generated)]
  · have outside : key ∉ life.ledger.claimed := by
      rw [claimed, Int.mem_range_iff]
      omega
    rw [alone.faithful.unclaimed key outside]
    rfl

end LoadVerifier.WriterLife
