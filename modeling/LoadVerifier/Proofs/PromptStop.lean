/-
This file proves that a request to stop is obeyed soon, and that a writer loses nothing by it.

A worker looks at the stop flag and then claims a key, in two steps. So a worker that looked just
before the flag was set still claims one key. The place between the two steps is the only one from
which a key is claimed, and once the flag is set nobody gets there any more; nobody takes the
request back either. That holds of writers and of readers in every state, whoever asked them to
stop: somebody outside, a worker that aborts the reader, or one that reports its crash.
-/
import LoadVerifier.Proofs.AbortOverrun
import LoadVerifier.Proofs.WriterCourse
import LoadVerifier.Proofs.WriterReport

namespace LoadVerifier

namespace WriterLife

open Pool (Moved)

variable {Storage : Type} [Store Storage] {life next : WriterLife Storage} {worker : Nat}

/-! ### The claims of a worker -/

omit [Store Storage] in
/-- The keys that a worker claims at an event: what the ledger has more of them afterwards. -/
def claimsAt (worker : Nat) (life next : WriterLife Storage) : WriterEvent Storage → List Int
  | .work other =>
    if other = worker then next.ledger.claimed.drop life.ledger.claimed.length else []
  | .configure .. | .begin .. | .track | .spawn .. | .stop | .die .. | .outside _ => []

/-- The keys that a worker claims along a schedule, in order. -/
def claimsAlong (worker : Nat) (life : WriterLife Storage) :
    List (WriterEvent Storage) → List Int
  | [] => []
  | event :: rest =>
    match life.step event with
    | none => []
    | some next => claimsAt worker life next event ++ claimsAlong worker next rest

/-- One for a worker that has looked at the stop flag and claims next. -/
def claimDue : Position WriterTask → Nat
  | .working .claim => 1
  | .working .checkStop | .working (.write _ _) | .working (.fail _ _) | .working (.complete _)
  | .working (.count _) | .crashed _ | .leaving _ | .left _ => 0

theorem Change.claimed_grows (change : Change life worker next) :
    life.ledger.claimed <+: next.ledger.claimed := by
  cases change with
  | claimed | barren => exact List.prefix_append _ _
  | _ => exact List.prefix_rfl

omit [Store Storage] in
theorem claimDue_of_pass {shared after : Shared} {before position : Position WriterTask}
    (pass : Pass shared before position after) (stopped : shared.stopRequested = true) :
    claimDue position ≤ claimDue before := by
  cases pass with
  | goOn running => exact absurd (stopped.symm.trans running) Bool.noConfusion
  | _ => exact Nat.zero_le _

omit [Store Storage] in
theorem claimDue_afterCall (record : Record) (rest : List Columns) :
    claimDue (.working (afterCall record rest)) = 0 := by
  rw [afterCall]
  split <;> rfl

/-- Once everybody was asked to stop, a worker that claims a key was about to, and is not any more
afterwards. -/
theorem Change.claims_of_stopped (change : Change life worker next)
    (stopped : life.writer.shared.stopRequested = true) :
    ∃ before after, Moved life.writer next.writer worker before after ∧
      next.ledger.claimed.length + claimDue after ≤
        life.ledger.claimed.length + claimDue before := by
  cases change with
  | passed writer before after moved pass state =>
    exact ⟨before, after, moved, Nat.add_le_add_left (claimDue_of_pass pass stopped) _⟩
  | claimed writer cursor bounds record moved =>
    refine ⟨_, _, moved, ?_⟩
    rw [WriteLedger.noteClaim, List.length_append]
    exact Nat.le_refl _
  | barren writer cursor crash moved =>
    refine ⟨_, _, moved, ?_⟩
    rw [WriteLedger.noteClaim, List.length_append]
    exact Nat.le_refl _
  | stored writer record call rest moved =>
    refine ⟨_, _, moved, ?_⟩
    rw [claimDue_afterCall]
    exact Nat.le_refl _
  | _ =>
    have moved := ‹Moved life.writer _ worker _ _›
    exact ⟨_, _, moved, Nat.le_refl _⟩

/-- Once everybody was asked to stop, what a worker claims at an event it was about to claim. -/
theorem Happened.claims_of_stopped {event : WriterEvent Storage}
    (happened : Happened life next event) (watched : Nat)
    (stopped : life.writer.shared.stopRequested = true) :
    next.writer.shared.stopRequested = true ∧
      (claimsAt watched life next event).length + Pool.weightOf claimDue next.writer watched ≤
        Pool.weightOf claimDue life.writer watched := by
  cases happened with
  | worked worker worked =>
    have change := change_of_work life next worker worked
    refine ⟨change.stopRequested stopped, ?_⟩
    obtain ⟨before, after, moved, fewer⟩ := change.claims_of_stopped stopped
    have grown := change.claimed_grows.length_le
    rw [claimsAt]
    by_cases same : worker = watched
    · subst same
      rw [if_pos rfl, List.length_drop, Pool.weightOf_of_position _ _ _ _ moved.arrived,
        Pool.weightOf_of_position _ _ _ _ moved.position_eq]
      omega
    · rw [if_neg same, Pool.weightOf, Pool.weightOf, moved.stayed watched same, List.length_nil,
        Nat.zero_add]
  | died worker crash task died =>
    refine ⟨died.shared_eq ▸ stopped, ?_⟩
    rw [claimsAt, List.length_nil, Nat.zero_add]
    by_cases same : worker = watched
    · subst same
      rw [Pool.weightOf_of_position _ _ _ _ died.moved.arrived]
      exact Nat.zero_le _
    · rw [Pool.weightOf, Pool.weightOf, died.moved.stayed watched same]
  | spawned threads now tracked unstarted equal =>
    subst equal
    refine ⟨stopped, ?_⟩
    rw [claimsAt, List.length_nil, Nat.zero_add, Pool.weightOf, Pool.position?_spawn]
    split <;> exact Nat.zero_le _
  | aside event idle aside =>
    refine ⟨aside.stopRequested stopped, ?_⟩
    have nothing : claimsAt watched life next event = [] := by
      cases event with
      | work worker => exact absurd rfl (idle worker)
      | _ => rfl
    rw [nothing, List.length_nil, Nat.zero_add, Pool.weightOf, Pool.weightOf, Pool.position?,
      Pool.position?, aside.roster_eq]

theorem claimDue_le_one (pool : Writer) (worker : Nat) :
    Pool.weightOf claimDue pool worker ≤ 1 := by
  rw [Pool.weightOf]
  cases pool.position? worker with
  | none => exact Nat.zero_le 1
  | some position =>
    show claimDue position ≤ 1
    unfold claimDue
    split <;> simp

/-- Along a schedule on which everybody was asked to stop, a worker claims no more than it was
about to claim. -/
theorem length_claimsAlong_le (watched : Nat) (schedule : List (WriterEvent Storage))
    (life later : WriterLife Storage) (stopped : life.writer.shared.stopRequested = true)
    (ran : replay step life schedule = some later) :
    (claimsAlong watched life schedule).length ≤ Pool.weightOf claimDue life.writer watched := by
  induction schedule generalizing life with
  | nil => exact Nat.zero_le _
  | cons event rest inductionHypothesis =>
    rw [replay] at ran
    obtain ⟨next, happened, continued⟩ := Option.bind_eq_some_iff.mp ran
    obtain ⟨stillStopped, fewer⟩ :=
      (happened_of_step event happened).claims_of_stopped watched stopped
    have further := inductionHypothesis next stillStopped continued
    rw [claimsAlong, happened]
    simp only [List.length_append]
    omega

/-- A key that is claimed along a schedule is claimed by one of the workers. -/
theorem exists_claimsAlong (schedule : List (WriterEvent Storage))
    (life later : WriterLife Storage) (ran : replay step life schedule = some later) (key : Int)
    (claimed : key ∈ later.ledger.claimed) :
    key ∈ life.ledger.claimed ∨ ∃ worker, key ∈ claimsAlong worker life schedule := by
  induction schedule generalizing life with
  | nil =>
    cases ran
    exact Or.inl claimed
  | cons event rest inductionHypothesis =>
    rw [replay] at ran
    obtain ⟨next, happened, continued⟩ := Option.bind_eq_some_iff.mp ran
    rcases inductionHypothesis next continued with earlier | ⟨worker, later⟩
    · cases happened_of_step event happened with
      | worked worker worked =>
        obtain ⟨new, equal⟩ := (change_of_work life next worker worked).claimed_grows
        rw [← equal] at earlier
        refine (List.mem_append.mp earlier).imp id fun member => ⟨worker, ?_⟩
        rw [claimsAlong, happened]
        refine List.mem_append_left _ ?_
        rw [claimsAt, if_pos rfl, ← equal, List.drop_left]
        exact member
      | died worker crash task died =>
        rw [died.ledger_eq] at earlier
        exact Or.inl earlier
      | spawned threads now tracked unstarted equal =>
        rw [equal] at earlier
        exact Or.inl earlier
      | aside event idle aside => exact Or.inl (aside.ledger_eq ▸ earlier)
    · refine Or.inr ⟨worker, ?_⟩
      rw [claimsAlong, happened]
      exact List.mem_append_right _ later
end WriterLife

namespace ReaderAudit

open LoadVerifier.Random
open Pool (Moved)

variable {Storage Source : Type} {audit next : ReaderAudit Storage Source} {worker : Nat}

/-! ### The claims of readers -/

/-- One for a worker that has looked at the stop flag and claims next. -/
def claimDue : ReaderTask → Nat
  | .claim _ => 1
  | _ => 0

variable [Store Storage]

theorem Change.claims_of_stopped (change : Change audit worker next)
    (stopped : audit.reader.shared.stopRequested = true) :
    ∃ before after, Moved audit.reader next.reader worker before after ∧
      (next.account.claimsOf worker).length + atTask claimDue after ≤
        (audit.account.claimsOf worker).length + atTask claimDue before := by
  cases change with
  | wandered reader before after wanders moved shared state =>
    refine ⟨before, after, moved, Nat.add_le_add_left ?_ _⟩
    cases wanders with
    | goOn stream running => exact absurd (stopped.symm.trans running) Bool.noConfusion
    | _ => exact Nat.zero_le _
  | claimed reader stream cursor known left moved shared state =>
    refine ⟨_, _, moved, ?_⟩
    have due : atTask claimDue (.working (if audit.world.source.isSome then
        .look stream cursor.next Reader.minDelay
        else Reader.readTask stream cursor.next audit.reader.state)) = 0 := by
      split <;> rfl
    rw [due, ReadAccount.claimsOf, ReadAccount.claimsOf, List.filter_append, List.filter_singleton,
      List.map_append, List.length_append]
    simp [atTask, claimDue]
  | waited reader before after key source waits linked moved shared state =>
    refine ⟨_, _, moved, ?_⟩
    cases waits <;> exact Nat.le_refl _
  | countedRow reader stream key verify row moved shared state =>
    refine ⟨_, _, moved, Nat.add_le_add_left ?_ _⟩
    exact judge_cases stream key verify row audit.reader.state.bounds
      (motive := fun _ move => atTask claimDue (Pool.positionAfter move) ≤ 0)
      (Nat.le_refl 0) (Nat.le_refl 0) (Nat.le_refl 0) (fun _ => Nat.le_refl 0)
      fun _ => Nat.le_refl 0
  | erred reader stream key problems moved shared state =>
    refine ⟨_, _, moved, Nat.add_le_add_left ?_ _⟩
    split <;> exact Nat.zero_le _
  | _ =>
    have moved := ‹Moved audit.reader _ worker _ _›
    exact ⟨_, _, moved, Nat.le_refl _⟩

/-- Along a schedule on which everybody was asked to stop, a worker claims no more than it was
about to claim. -/
theorem length_claimsOf_le [WatermarkSource Source] (watched : Nat)
    (schedule : List (AuditEvent Storage Source)) (audit later : ReaderAudit Storage Source)
    (stopped : audit.reader.shared.stopRequested = true)
    (ran : replay step audit schedule = some later) :
    (later.account.claimsOf watched).length ≤ (audit.account.claimsOf watched).length +
      Pool.weightOf (atTask claimDue) audit.reader watched := by
  suffices kept : later.reader.shared.stopRequested = true ∧
      (later.account.claimsOf watched).length +
          Pool.weightOf (atTask claimDue) later.reader watched ≤
        (audit.account.claimsOf watched).length +
          Pool.weightOf (atTask claimDue) audit.reader watched by
    omega
  refine replay_invariant (fun state => state.reader.shared.stopRequested = true ∧
    (state.account.claimsOf watched).length +
        Pool.weightOf (atTask claimDue) state.reader watched ≤ _) ?_ audit later schedule
    ⟨stopped, Nat.le_refl _⟩ ran
  rintro state event next ⟨stopped, within⟩ happened
  cases event with
  | work worker =>
    have change := change_of_work state next worker happened
    obtain ⟨before, after, moved, fewer⟩ := change.claims_of_stopped stopped
    refine ⟨change.stopRequested stopped, le_trans ?_ within⟩
    by_cases same : worker = watched
    · subst same
      rw [Pool.weightOf_of_position _ _ _ _ moved.arrived,
        Pool.weightOf_of_position _ _ _ _ moved.position_eq]
      exact fewer
    · rw [change.claimsOf_of_ne watched same, Pool.weightOf, Pool.weightOf,
        moved.stayed watched same]
  | stop =>
    cases happened
    exact ⟨rfl, within⟩
  | outside store source =>
    cases happened
    exact ⟨stopped, within⟩

omit [Store Storage] in
theorem claimDue_le_one (reader : Reader) (worker : Nat) :
    Pool.weightOf (atTask claimDue) reader worker ≤ 1 := by
  rw [Pool.weightOf]
  cases reader.position? worker with
  | none => exact Nat.zero_le 1
  | some position =>
    show atTask claimDue position ≤ 1
    cases position with
    | working task => cases task <;> simp [atTask, claimDue]
    | _ => exact Nat.zero_le 1

end ReaderAudit

/-! ### Stopping -/

section Stopping

open WriterLife (new claimsAlong)

variable {Storage Source : Type} [Store Storage] [WatermarkSource Source]

/-- Stopping is prompt and loses nothing. From the moment at which the stop flag of a pool is set,
by whomever, each worker claims at most one further key. And when the workers of a writer have left
and none has crashed, each claimed key has failed or was written in full: the calls for it are those
of its record, and each cell of the record is in one that returned. The claimed keys are those from
the start of the range on without a gap; each of them is reported once, as written or as failed; and
the watermark is just below the first failed key, or at the last claimed one. -/
theorem stop_is_prompt :
    (∀ (life later : WriterLife Storage) (schedule : List (WriterEvent Storage)),
      life.writer.shared.stopRequested = true →
      replay WriterLife.step life schedule = some later →
        (∀ worker, (claimsAlong worker life schedule).length ≤ 1) ∧
          ∀ key ∈ later.ledger.claimed,
            key ∈ life.ledger.claimed ∨ ∃ worker, key ∈ claimsAlong worker life schedule) ∧
    (∀ (audit later : ReaderAudit Storage Source) (schedule : List (AuditEvent Storage Source)),
      audit.reader.shared.stopRequested = true →
      replay ReaderAudit.step audit schedule = some later →
        ∀ worker, (later.account.claimsOf worker).length ≤
          (audit.account.claimsOf worker).length + 1) ∧
    ∀ (store : Storage) (schedule : List (WriterEvent Storage)) (life : WriterLife Storage),
      replay WriterLife.step (new store) schedule = some life →
      Pool.finished life.writer = true →
      (∀ worker crash, life.writer.position? worker ≠ some (.left (some crash))) →
        ∃ range result, life.writer.range? = some range ∧ life.writer.wait = some (.ok result) ∧
          result.keysWritten + result.failedKeys.length = life.writer.keysClaimed ∧
          life.ledger.claimed = Int.range range.start (range.start + life.writer.keysClaimed) ∧
          result.watermark =
            result.failedKeys.min?.getD (range.start + life.writer.keysClaimed) - 1 ∧
          ∀ key ∈ life.ledger.claimed,
            key ∈ result.failedKeys ∧ (∃ call, (key, call) ∈ life.ledger.refused) ∨
            ∃ bounds record, life.writer.state.bounds = some bounds ∧
              generate key bounds = .ok record ∧
              life.ledger.storedFor key = Writer.callsFor life.writer.state.multiPut record ∧
              ∀ cell ∈ record.columns.cells,
                ∃ call, (key, call) ∈ life.ledger.stored ∧ cell ∈ call.cells := by
  refine ⟨fun life later schedule stopped ran => ⟨fun worker => ?_, ?_⟩,
    fun audit later schedule stopped ran worker => ?_,
    fun store schedule life ran finished sound => ?_⟩
  · exact (WriterLife.length_claimsAlong_le worker schedule life later stopped ran).trans
      (WriterLife.claimDue_le_one life.writer worker)
  · exact WriterLife.exists_claimsAlong schedule life later ran
  · exact (ReaderAudit.length_claimsOf_le worker schedule audit later stopped ran).trans
      (Nat.add_le_add_left (ReaderAudit.claimDue_le_one audit.reader worker) _)
  · obtain ⟨course, manned⟩ := WriterLife.course_of_replay store schedule ran
    obtain ⟨counted, _⟩ := manned.resolve_right fun ⟨_, unfinished⟩ =>
      Bool.noConfusion (finished.symm.trans unfinished)
    cases course with
    | idle unstarted =>
      rw [Pool.finished, unstarted] at finished
      cases finished
    | spoiled spoiled =>
      obtain ⟨worker, crash, found⟩ := spoiled.exists_left counted finished
      exact absurd found (sound worker crash)
    | sound plan faithful tallied lost =>
      obtain ⟨ranged, _, claimed⟩ := faithful.accounted.claimed_eq
      refine ⟨plan.range, life.writer.result, ranged, ?_, ?_, claimed, ?_, fun key member => ?_⟩
      · rw [Writer.wait, counted.join_eq_ok _ finished sound]
        rfl
      · exact faithful.keysWritten_add_failed lost counted finished tallied
      · exact faithful.watermark_of_finished lost counted finished
      · refine (faithful.ends lost counted finished key member).imp
          (fun failed => ⟨Std.TreeSet.mem_toList.mpr failed.1, failed.2⟩) ?_
        rintro ⟨record, generated, stored⟩
        refine ⟨plan.bounds, record, faithful.bounds_eq, generated,
          stored.trans (congrArg (Writer.callsFor · record) faithful.multiPut_eq.symm),
          fun cell among => ?_⟩
        obtain ⟨call, isCall, holds⟩ :=
          WriterLife.mem_callsFor_of_mem plan.multiPut record cell among
        exact ⟨call, (life.ledger.mem_storedFor_iff key call).mp (stored ▸ isCall), holds⟩

/-- Two writers have both looked at the stop flag when it is set. -/
def writersAtClaim : List (WriterEvent FaultyStore) :=
  [.configure true 1 2 1 4, .begin .three 2, .track, .spawn 2 0.0, .work 0, .work 1, .stop]

/-- Both go on until they have left; the store refuses the key of the second one. -/
def writersLeave : List (WriterEvent FaultyStore) :=
  (List.replicate 6 0 ++ List.replicate 5 1).map WriterEvent.work

/-- Two readers have both looked at the stop flag when it is set. -/
def readersAtClaim : List (AuditEvent FaultyStore ScriptedSource) :=
  [.work 0, .work 0, .work 1, .work 1, .stop]

/-- Both claim a key, and the first one goes on until it has left. -/
def readersClaim : List (AuditEvent FaultyStore ScriptedSource) :=
  (1 :: List.replicate 9 0).map AuditEvent.work

theorem stop_is_prompt_between_look_and_claim :
    (∃ life later : WriterLife FaultyStore,
      replay WriterLife.step (new WriterLife.oneFailing) writersAtClaim = some life ∧
        life.writer.shared.stopRequested = true ∧
        replay WriterLife.step life writersLeave = some later ∧
        claimsAlong 1 life writersLeave = [1] ∧
        (∀ worker, (claimsAlong worker life writersLeave).length ≤ 1) ∧
        Pool.finished later.writer = true ∧
        (∀ worker crash, later.writer.position? worker ≠ some (.left (some crash))) ∧
        later.writer.keysClaimed = 2 ∧
        ∃ result, later.writer.wait = some (.ok result) ∧ result.failedKeys = [1] ∧
          result.keysWritten + result.failedKeys.length = 2 ∧ result.watermark = 0) ∧
    ∃ audit later : ReaderAudit FaultyStore ScriptedSource,
      replay ReaderAudit.step ReaderAudit.twoUnlinked readersAtClaim = some audit ∧
        audit.reader.shared.stopRequested = true ∧
        replay ReaderAudit.step audit readersClaim = some later ∧
        later.account.claimsOf 0 = [1] ∧
        ∀ worker, (later.account.claimsOf worker).length ≤
          (audit.account.claimsOf worker).length + 1 := by
  obtain ⟨ofWriters, ofReaders, ofFinished⟩ :=
    @stop_is_prompt FaultyStore ScriptedSource _ _
  refine ⟨?_, ?_⟩
  · have stopped : (replay WriterLife.step (new WriterLife.oneFailing) writersAtClaim).map
        (fun life => (life.writer.shared.stopRequested, claimsAlong 1 life writersLeave)) =
          some (true, [1]) := by
      decide +kernel
    have ended : (replay WriterLife.step (new WriterLife.oneFailing)
        (writersAtClaim ++ writersLeave)).map (fun life =>
          (Pool.finished life.writer, (List.range life.writer.workerCount).all fun worker =>
            ((life.writer.position? worker).bind Roster.leftCrash?).isNone,
            life.writer.keysClaimed, life.writer.state.failedKeys.toList)) =
              some (true, true, 2, [1]) := by
      decide +kernel
    obtain ⟨life, came, seen⟩ := Option.map_eq_some_iff.mp stopped
    rw [replay_append, came, Option.bind_some] at ended
    obtain ⟨later, went, seenLater⟩ := Option.map_eq_some_iff.mp ended
    rw [Prod.mk.injEq] at seen
    rw [Prod.mk.injEq, Prod.mk.injEq, Prod.mk.injEq] at seenLater
    obtain ⟨finished, uncrashed, count, failed⟩ := seenLater
    have sound := Pool.not_crashed_of_all later.writer uncrashed
    have ran : replay WriterLife.step (new WriterLife.oneFailing)
        (writersAtClaim ++ writersLeave) = some later := by
      rw [replay_append, came, Option.bind_some, went]
    obtain ⟨range, result, ranged, waited, written, _, mark, _⟩ :=
      ofFinished _ _ later ran finished sound
    have failedEq : result.failedKeys = [1] := by
      rw [(Writer.wait_eq_ok later.writer result waited).2]
      exact failed
    refine ⟨life, later, came, seen.1, went, seen.2, (ofWriters life later _ seen.1 went).1,
      finished, sound, count, result, waited, failedEq, written.trans count, ?_⟩
    rw [mark, failedEq]
    rfl
  · have known : (replay ReaderAudit.step ReaderAudit.twoUnlinked readersAtClaim).map
        (fun audit => audit.reader.shared.stopRequested) = some true := by
      decide +kernel
    have after : (replay ReaderAudit.step ReaderAudit.twoUnlinked
        (readersAtClaim ++ readersClaim)).map (fun audit => audit.account.claimsOf 0) =
          some [1] := by
      decide +kernel
    obtain ⟨audit, came, stopped⟩ := Option.map_eq_some_iff.mp known
    rw [replay_append, came, Option.bind_some] at after
    obtain ⟨later, went, claims⟩ := Option.map_eq_some_iff.mp after
    exact ⟨audit, later, came, stopped, went, claims, ofReaders audit later _ stopped went⟩

end Stopping

end LoadVerifier
