/-
This file follows the accounts of a writer through a life of any kind, up to a crash. `Happened`
says once what an event can do: a step of a worker, the death of one, the arrival of the workers,
or something that is no affair of the workers.

A worker that has crashed shows it for ever. So when nobody shows a crash in the end, no key was
lost at any moment and the counters were in agreement with the ledger all along. Then every claimed
key has failed or was written in full, and the counts and the watermark follow, wherever the writer
was when it was asked to stop.
-/
import LoadVerifier.Proofs.PoolCrash
import LoadVerifier.Proofs.WatermarkSafety
import LoadVerifier.Proofs.WriterResult

namespace LoadVerifier

namespace WriterLife

open Pool (Moved Spoiled)

variable {Storage : Type} {life next : WriterLife Storage} {worker : Nat} {plan : WritePlan}

/-! ### What an event can do -/

/-- An event that is no affair of the workers leaves them where they are, and takes back no request
to stop. -/
structure Aside (life next : WriterLife Storage) : Prop where
  roster_eq : next.writer.roster = life.writer.roster
  ledger_eq : next.ledger = life.ledger
  numKeys_eq : next.writer.shared.numKeys = life.writer.shared.numKeys
  numColumns_eq : next.writer.shared.numColumns = life.writer.shared.numColumns
  stopRequested : life.writer.shared.stopRequested = true →
    next.writer.shared.stopRequested = true

theorem Aside.total_eq {Weight : Type} [AddCommMonoid Weight] (aside : Aside life next)
    (weight : Position WriterTask → Weight) :
    next.writer.total weight = life.writer.total weight := by
  have positions : next.writer.position? = life.writer.position? := by
    funext worker
    rw [Pool.position?, Pool.position?, aside.roster_eq]
  have workers : Pool.workerCount next.writer = Pool.workerCount life.writer := by
    rw [Pool.workerCount, Pool.workerCount, aside.roster_eq]
  rw [Pool.total, Pool.total, workers]
  exact Finset.sum_congr rfl fun worker _ => by rw [Pool.weightOf, Pool.weightOf, positions]

theorem aside_settle_configure (multiPut : Bool) (minColumns maxColumns minSize maxSize : Int) :
    Aside life
      (life.settle (life.writer.configure multiPut minColumns maxColumns minSize maxSize)) := by
  cases configured : life.writer.configure multiPut minColumns maxColumns minSize maxSize with
  | error error => exact ⟨rfl, rfl, rfl, rfl, id⟩
  | ok writer =>
    obtain ⟨bounds, _, rfl⟩ := Writer.configure_eq_ok _ _ _ _ _ _ _ configured
    exact ⟨rfl, rfl, rfl, rfl, id⟩

theorem aside_settle_begin (range : KeyRange) (threads : Int) :
    Aside life (life.settle (life.writer.begin? range threads)) := by
  cases begun : life.writer.begin? range threads with
  | error error => exact ⟨rfl, rfl, rfl, rfl, id⟩
  | ok writer =>
    obtain ⟨_, _, rfl⟩ := Writer.begin?_eq_ok _ _ _ _ begun
    exact ⟨rfl, rfl, rfl, rfl, id⟩

theorem aside_track : Aside life { life with writer := life.writer.track } := by
  rw [Writer.track]
  split <;> exact ⟨rfl, rfl, rfl, rfl, id⟩

variable [Store Storage]

/-- What can happen to a writer at an event. -/
inductive Happened (life next : WriterLife Storage) : WriterEvent Storage → Prop
  | worked (worker : Nat) (worked : life.work worker = some next) :
      Happened life next (.work worker)
  | died (worker : Nat) (crash : Crash) (task : WriterTask)
      (died : Died life worker crash task next) : Happened life next (.die worker crash)
  | spawned (threads : Int) (now : Float) (tracked : life.writer.state.written.isSome)
      (unstarted : life.writer.roster = none)
      (equal : next = { life with writer := life.writer.spawn .checkStop threads now }) :
      Happened life next (.spawn threads now)
  | aside (event : WriterEvent Storage) (idle : ∀ worker, event ≠ .work worker)
      (aside : Aside life next) : Happened life next event

theorem happened_of_step (event : WriterEvent Storage) (happened : life.step event = some next) :
    Happened life next event := by
  cases event with
  | configure multiPut minColumns maxColumns minSize maxSize =>
    cases happened
    exact .aside _ (by simp) (aside_settle_configure _ _ _ _ _)
  | begin range threads =>
    cases happened
    exact .aside _ (by simp) (aside_settle_begin _ _)
  | track =>
    rw [step] at happened
    split at happened
    · cases happened
      exact .aside _ (by simp) aside_track
    · cases happened
  | spawn threads now =>
    rw [step] at happened
    split at happened
    · rename_i both
      cases happened
      exact .spawned threads now both.1 (Option.isNone_iff_eq_none.mp both.2) rfl
    · cases happened
  | stop =>
    cases happened
    exact .aside _ (by simp) ⟨rfl, rfl, rfl, rfl, fun _ => rfl⟩
  | work worker => exact .worked worker happened
  | die worker crash =>
    obtain ⟨task, died⟩ := died_of_die worker crash next happened
    exact .died worker crash task died
  | outside store =>
    cases happened
    exact .aside _ (by simp) ⟨rfl, rfl, rfl, rfl, id⟩

/-! ### Accounts without a crash -/

/-- A writer before it has workers; a writer that has workers and has lost no key; or a writer that
has lost one in a crash. -/
inductive Course (life : WriterLife Storage) : Prop
  | idle (roster_eq : life.writer.roster = none) (ledger_eq : life.ledger = {})
      (numKeys_eq : life.writer.shared.numKeys = 0)
      (numColumns_eq : life.writer.shared.numColumns = 0)
  | sound (plan : WritePlan) (faithful : life.Faithful plan) (tallied : life.Tallied plan)
      (lost_eq : life.ledger.lost = [])
  | spoiled (spoiled : Spoiled life.writer)

/-- A key is lost only in a crash. -/
theorem Change.lost_or_crashes (change : Change life worker next) :
    next.ledger.lost = life.ledger.lost ∨ Spoiled next.writer := by
  cases change with
  | barren writer cursor crash moved => exact Or.inr ⟨worker, _, moved.arrived, rfl⟩
  | broken writer record call rest crash moved => exact Or.inr ⟨worker, _, moved.arrived, rfl⟩
  | rejected writer record crash moved => exact Or.inr ⟨worker, _, moved.arrived, rfl⟩
  | _ => exact Or.inl rfl

/-- The workers that have left are counted, if there are any workers at all. -/
def Manned (writer : Writer) : Prop :=
  Pool.Counted writer ∧ 0 < Pool.workerCount writer ∨
    Pool.workerCount writer = 0 ∧ Pool.finished writer = false

theorem spoiled_of_work (worked : life.work worker = some next)
    (spoiled : Spoiled life.writer) : Spoiled next.writer :=
  (stepped_of_work worked).spoiled spoiled

omit [Store Storage] in
theorem Aside.manned (aside : Aside life next) (manned : Manned life.writer) :
    Manned next.writer := by
  have workers : Pool.workerCount next.writer = Pool.workerCount life.writer := by
    rw [Pool.workerCount, Pool.workerCount, aside.roster_eq]
  have finished : Pool.finished next.writer = Pool.finished life.writer := by
    rw [Pool.finished, Pool.finished, aside.roster_eq]
  have active : Pool.active next.writer = Pool.active life.writer := by
    rw [Pool.active, Pool.active, aside.roster_eq]
  rw [Manned, workers, finished]
  rcases manned with ⟨counted, some_worker⟩ | empty
  · refine Or.inl ⟨⟨?_, ?_⟩, some_worker⟩
    · rw [active, aside.total_eq, counted.active_eq]
    · rw [finished, active, aside.roster_eq]
      exact counted.finished_iff
  · exact Or.inr empty

theorem Happened.manned {event : WriterEvent Storage} (happened : Happened life next event)
    (manned : Manned life.writer) : Manned next.writer := by
  -- Where there is no worker nobody moves.
  have occupied : ∀ {worker before after}, Moved life.writer next.writer worker before after →
      Pool.workerCount life.writer ≠ 0 := fun moved => Nat.ne_of_gt
    (Nat.zero_lt_of_lt (Pool.lt_workerCount_of_position _ _ _ moved.position_eq))
  cases happened with
  | worked worker worked =>
    obtain ⟨_, _, moved⟩ := (change_of_work life next worker worked).moved
    rcases manned with ⟨counted, some_worker⟩ | ⟨none, _⟩
    · exact Or.inl ⟨counted_of_work worked counted, moved.workerCount_eq ▸ some_worker⟩
    · exact absurd none (occupied moved)
  | died worker crash task died =>
    rcases manned with ⟨counted, some_worker⟩ | ⟨none, _⟩
    · exact Or.inl ⟨counted.of_moved died.moved rfl died.active_eq died.finished_eq,
        died.moved.workerCount_eq ▸ some_worker⟩
    · exact absurd none (occupied died.moved)
  | spawned threads now tracked unstarted equal =>
    subst equal
    by_cases possible : 1 ≤ threads
    · refine Or.inl ⟨Pool.counted_spawn _ _ _ _ possible, ?_⟩
      rw [Pool.workerCount_spawn]
      omega
    · refine Or.inr ⟨?_, rfl⟩
      rw [Pool.workerCount_spawn]
      omega
  | aside event idle aside => exact aside.manned manned

omit [Store Storage] in
theorem tallied_of_idle (unstarted : life.writer.roster = none) (empty : life.ledger = {})
    (numKeys : life.writer.shared.numKeys = 0) (numColumns : life.writer.shared.numColumns = 0) :
    life.Tallied plan := by
  refine ⟨?_, ?_, ?_, ?_⟩
  · rw [empty, numKeys]
    rfl
  · rw [empty, numColumns]
    rfl
  · rw [empty, total_of_roster_eq_none uncountedAt life.writer unstarted]
    rfl
  · rw [empty]
    exact fun _ member => absurd member List.not_mem_nil

omit [Store Storage] in
theorem Tallied.spawn (tallied : life.Tallied plan) (unstarted : life.writer.roster = none)
    (threads : Int) (now : Float) :
    { life with writer := life.writer.spawn .checkStop threads now }.Tallied plan := by
  have conserved := tallied.conserved
  rw [total_of_roster_eq_none uncountedAt life.writer unstarted,
    ← nsmul_zero threads.toNat] at conserved
  refine ⟨tallied.numKeys_eq, tallied.numColumns_eq, conserved.trans ?_, tallied.generated⟩
  exact congrArg (_ + ·) (Pool.total_spawn uncountedAt life.writer .checkStop threads now).symm

omit [Store Storage] in
theorem Tallied.aside (tallied : life.Tallied plan) (aside : Aside life next) :
    next.Tallied plan := by
  refine ⟨?_, ?_, ?_, ?_⟩
  · rw [aside.numKeys_eq, aside.ledger_eq, tallied.numKeys_eq]
  · rw [aside.numColumns_eq, aside.ledger_eq, tallied.numColumns_eq]
  · rw [aside.ledger_eq, aside.total_eq, tallied.conserved]
  · rw [aside.ledger_eq]
    exact tallied.generated

/-- Every event keeps a writer on its course. -/
theorem Course.step (course : Course life) (stage : Stage life) (event : WriterEvent Storage)
    (stepped : life.step event = some next) : Course next := by
  have unoccupied : life.writer.roster = none → ∀ {worker before after},
      ¬Moved life.writer next.writer worker before after := fun unstarted _ _ _ moved => by
    have manned := moved.isSome_roster.1
    rw [unstarted] at manned
    cases manned
  have happened := happened_of_step event stepped
  cases course with
  | idle unstarted empty numKeys numColumns =>
    cases happened with
    | worked worker worked =>
      obtain ⟨_, _, moved⟩ := (change_of_work life next worker worked).moved
      exact absurd moved (unoccupied unstarted)
    | died worker crash task died => exact absurd died.moved (unoccupied unstarted)
    | spawned threads now tracked _ equal =>
      subst equal
      cases stage with
      | fresh unused => rw [unused.written_eq] at tracked; cases tracked
      | begun unused => rw [unused.written_eq] at tracked; cases tracked
      | going plan faithful =>
        have tallied : life.Tallied plan := tallied_of_idle unstarted empty numKeys numColumns
        exact .sound plan (faithful.spawn unstarted threads now)
          (tallied.spawn unstarted threads now) (congrArg WriteLedger.lost empty)
    | aside event idle aside =>
      exact .idle (aside.roster_eq.trans unstarted) (aside.ledger_eq.trans empty)
        (aside.numKeys_eq.trans numKeys) (aside.numColumns_eq.trans numColumns)
  | sound plan faithful tallied lost =>
    have stillFaithful := (faithful.step event next stepped).1
    cases happened with
    | worked worker worked =>
      have change := change_of_work life next worker worked
      rcases change.lost_or_crashes with same | crashes
      · exact .sound plan stillFaithful (change.tallied faithful tallied) (same.trans lost)
      · exact .spoiled crashes
    | died worker crash task died => exact .spoiled ⟨worker, _, died.moved.arrived, rfl⟩
    | spawned threads now tracked unstarted equal =>
      subst equal
      exact .sound plan stillFaithful (tallied.spawn unstarted threads now) lost
    | aside event idle aside =>
      exact .sound plan stillFaithful (tallied.aside aside)
        ((congrArg WriteLedger.lost aside.ledger_eq).trans lost)
  | spoiled spoiled =>
    refine .spoiled ?_
    cases happened with
    | worked worker worked => exact spoiled_of_work worked spoiled
    | died worker crash task died =>
      exact died.moved.spoiled (fun crashed => nomatch crashed) spoiled
    | spawned threads now tracked unstarted equal =>
      obtain ⟨worker, position, found, _⟩ := spoiled
      rw [Pool.position?, unstarted] at found
      cases found
    | aside event idle aside =>
      obtain ⟨worker, position, found, crashed⟩ := spoiled
      refine ⟨worker, position, ?_, crashed⟩
      rw [Pool.position?, aside.roster_eq]
      exact found

/-- So a new writer stays on its course along every schedule. -/
theorem course_of_replay (store : Storage) (schedule : List (WriterEvent Storage))
    (ran : replay step (new store) schedule = some life) :
    Course life ∧ Manned life.writer := by
  refine (replay_invariant
    (fun state => Stage state ∧ Course state ∧ Manned state.writer) ?_ _ life schedule
    ⟨stage_new store, .idle rfl rfl rfl rfl, Or.inr ⟨rfl, rfl⟩⟩ ran).2
  rintro state event next ⟨stage, course, manned⟩ stepped
  exact ⟨(stage.step event next stepped).1, course.step stage event stepped,
    (happened_of_step event stepped).manned manned⟩

omit [Store Storage]

/-! ### What became of the claimed keys -/

theorem Accounted.claimed_eq {range : KeyRange} (accounted : life.Accounted range) :
    life.writer.range? = some range ∧ 0 ≤ life.writer.keysClaimed ∧
      life.ledger.claimed = Int.range range.start (range.start + life.writer.keysClaimed) := by
  obtain ⟨cursor, known, ranged, claimed⟩ := accounted.claimed
  have forward := cursor.start_le_next
  have count : life.writer.keysClaimed = cursor.next - cursor.range.start := by
    rw [Pool.keysClaimed, known]
    rfl
  refine ⟨by rw [Pool.range?, known, Option.map_some, ranged], by omega, ?_⟩
  rw [claimed, count, ← ranged, add_sub_cancel]

/-- The failed keys are noted once each. -/
theorem Accounted.perm_failedKeys {range : KeyRange} (accounted : life.Accounted range) :
    life.writer.state.failedKeys.toList.Perm life.ledger.failed := by
  have noted : life.writer.state.failedKeys.toList.Nodup :=
    Std.TreeSet.ordered_toList.imp fun less => ne_of_lt (Std.compare_eq_lt.mp less)
  have parts := (Multiset.nodup_add.mp accounted.nodup_parts).1
  have failed : life.ledger.failed.Nodup :=
    (Multiset.nodup_add.mp (Multiset.nodup_add.mp parts).1).1
  rw [List.perm_ext_iff_of_nodup noted failed]
  exact fun key => Std.TreeSet.mem_toList.trans (accounted.mem_failedKeys key)

section Finished

variable (faithful : life.Faithful plan) (lost : life.ledger.lost = [])
  (counted : Pool.Counted life.writer) (finished : Pool.finished life.writer = true)

include faithful lost counted finished

/-- A key that was claimed has failed, or all its store calls returned. -/
theorem Faithful.ends (key : Int) (claimed : key ∈ life.ledger.claimed) :
    key ∈ life.writer.state.failedKeys ∧ (∃ call, (key, call) ∈ life.ledger.refused) ∨
      plan.Wrote life.ledger key := by
  have settled := faithful.accounted.settled_of_finished lost counted finished
  rw [← Multiset.mem_coe, settled, Multiset.mem_add] at claimed
  refine claimed.imp (fun failed => ⟨?_, ?_⟩) (faithful.completed key)
  · exact (faithful.accounted.mem_failedKeys key).mpr failed
  · obtain ⟨_, call, _, _, _, refused⟩ := faithful.failed key failed
    exact ⟨call, refused⟩

/-- The keys that were counted and the keys that failed are together those that were claimed. -/
theorem Faithful.keysWritten_add_failed (tallied : life.Tallied plan) :
    (life.writer.shared.numKeys : Int) + life.writer.state.failedKeys.toList.length =
      life.writer.keysClaimed := by
  obtain ⟨_, forward, claimed⟩ := faithful.accounted.claimed_eq
  have settled := congrArg Multiset.card
    (faithful.accounted.settled_of_finished lost counted finished)
  have counts := congrArg Multiset.card tallied.conserved
  rw [counted.total_of_finished finished uncountedAt fun _ => rfl, add_zero, Multiset.coe_card,
    Multiset.coe_card, List.length_map] at counts
  rw [Multiset.card_add, Multiset.coe_card, Multiset.coe_card, Multiset.coe_card, claimed,
    length_range] at settled
  rw [tallied.numKeys_eq, faithful.accounted.perm_failedKeys.length_eq]
  omega

theorem Faithful.watermark_of_finished :
    life.writer.watermark = life.writer.state.failedKeys.toList.min?.getD
      (plan.range.start + life.writer.keysClaimed) - 1 := by
  obtain ⟨_, forward, claimed⟩ := faithful.accounted.claimed_eq
  refine faithful.accounted.watermark_eq_of_settled _ (by omega) fun key => ?_
  rw [← Int.mem_range_iff, ← claimed, ← Multiset.mem_coe,
    faithful.accounted.settled_of_finished lost counted finished, Multiset.mem_add]
  rfl

end Finished

end WriterLife

end LoadVerifier
