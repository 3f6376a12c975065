/-
This file proves that carrying out a run is one way to let its actors take their turns. Whenever the
main thread waits, the workers of the writer go one after another, and then those of the reader. A
worker goes until it has left, because it is allowed more steps than it can take: the keys that are
not claimed yet, whoever claims them, and the rest of its own task bound them. So every wait ends,
and the main thread goes on to its end. Whatever holds after every schedule without an interrupt
holds of the run that is carried out.
-/
import LoadVerifier.LoadTest.Execute
import LoadVerifier.Proofs.RunOnAnyStore

namespace LoadVerifier

/-! ### Repeated steps and turns -/

section Repeated

variable {State : Type} {step : State → Option State} {motive : State → Prop}

theorem iterate_invariant
    (kept : ∀ state next, motive state → step state = some next → motive next) (fuel : Nat)
    (state : State) (isHeld : motive state) : motive (iterate step fuel state) := by
  induction fuel generalizing state with
  | zero => exact isHeld
  | succ fuel inductionHypothesis =>
    rw [iterate]
    split
    · exact isHeld
    · rename_i next stepped
      exact inductionHypothesis next (kept state next isHeld stepped)

/-- When every step lowers a measure, no more steps are needed than the measure says. -/
theorem iterate_stuck (measure : State → Nat)
    (kept : ∀ state next, motive state → step state = some next → motive next)
    (lowered : ∀ state next, motive state → step state = some next → measure next < measure state)
    (fuel : Nat) (state : State) (isHeld : motive state) (enough : measure state ≤ fuel) :
    step (iterate step fuel state) = none := by
  induction fuel generalizing state with
  | zero =>
    rw [iterate, Option.eq_none_iff_forall_ne_some]
    intro next stepped
    have less := lowered state next isHeld stepped
    omega
  | succ fuel inductionHypothesis =>
    rw [iterate]
    split
    · assumption
    · rename_i next stepped
      have less := lowered state next isHeld stepped
      exact inductionHypothesis next (kept state next isHeld stepped) (by omega)

/-- When everybody gets done in his turn, and nobody who is done is undone, all are done in the
end. -/
theorem foldl_range_done {turn : State → Nat → State} {done : State → Nat → Prop}
    (kept : ∀ state worker, motive state → motive (turn state worker))
    (does : ∀ state worker, motive state → done (turn state worker) worker)
    (stays : ∀ state worker other, motive state → done state other →
      done (turn state worker) other)
    (start : State) (isHeld : motive start) (count : Nat) :
    motive ((List.range count).foldl turn start) ∧
      ∀ worker < count, done ((List.range count).foldl turn start) worker := by
  induction count with
  | zero => exact ⟨isHeld, fun worker inside => absurd inside (Nat.not_lt_zero worker)⟩
  | succ count inductionHypothesis =>
    obtain ⟨stillHeld, allDone⟩ := inductionHypothesis
    rw [List.range_succ, List.foldl_append, List.foldl_cons, List.foldl_nil]
    refine ⟨kept _ count stillHeld, fun worker inside => ?_⟩
    rcases Nat.lt_succ_iff_lt_or_eq.mp inside with before | rfl
    · exact stays _ count worker stillHeld (allDone worker before)
    · exact does _ worker stillHeld

end Repeated

/-! ### What a single worker can still do -/

/-- The keys of a range that are not claimed yet are keys of the range. -/
theorem ReaderAudit.unclaimed_le_size (shared : Shared) (cursor : Cursor)
    (known : shared.cursor = some cursor) : unclaimed shared ≤ cursor.range.size := by
  have after := cursor.start_le_next
  rw [unclaimed, known, Option.map_some, Option.getD_some, KeyRange.size]
  omega

namespace WriterLife

open ReaderAudit (unclaimed_le_size)

variable {Storage : Type} {plan : WritePlan} {life next : WriterLife Storage} {worker : Nat}

/-- The steps that a worker takes at most if nobody else takes one. -/
def owed (plan : WritePlan) (writer : Writer) (worker : Nat) : Nat :=
  (plan.bounds.maxColumns + 5) * ReaderAudit.unclaimed writer.shared +
    Pool.weightOf stepsLeft writer worker

theorem Change.owed_lt [Store Storage] (change : Change life worker next)
    (faithful : life.Faithful plan) :
    owed plan next.writer worker < owed plan life.writer worker := by
  -- The potential of the whole pool falls, and only the share of this worker is different.
  have less := change.potential_lt faithful
  obtain ⟨before, after, moved⟩ := change.moved
  have balance := moved.total_add stepsLeft
  rw [potential, potential] at less
  rw [owed, owed, Pool.weightOf_of_position stepsLeft _ worker _ moved.arrived,
    Pool.weightOf_of_position stepsLeft _ worker _ moved.position_eq]
  omega

/-- The task of a worker is at most to store all columns of a record. -/
theorem Faithful.stepsLeft_le (faithful : life.Faithful plan) (position : Position WriterTask)
    (found : life.writer.position? worker = some position) :
    stepsLeft position ≤ plan.bounds.maxColumns + 6 := by
  cases position with
  | working task =>
    cases task with
    | write record calls =>
      obtain ⟨generated, split⟩ := faithful.fits worker _ found
      have most := length_callsFor_le plan.multiPut _ _ _ generated
      rw [← split, List.length_append] at most
      show calls.length + 6 ≤ _
      omega
    | checkStop | claim | fail | complete | count => simp [stepsLeft]
  | crashed crash => simp [stepsLeft]
  | leaving crash => simp [stepsLeft]
  | left crash => simp [stepsLeft]

theorem Faithful.owed_le (faithful : life.Faithful plan) (worker : Nat) :
    owed plan life.writer worker ≤ (plan.range.size + 2) * (plan.bounds.maxColumns + 20) := by
  obtain ⟨cursor, known, range, _⟩ := faithful.accounted.claimed
  have keys : ReaderAudit.unclaimed life.writer.shared ≤ plan.range.size :=
    range ▸ unclaimed_le_size life.writer.shared cursor known
  have own : Pool.weightOf stepsLeft life.writer worker ≤ plan.bounds.maxColumns + 6 := by
    rw [Pool.weightOf]
    cases found : life.writer.position? worker with
    | none => exact Nat.zero_le _
    | some position => exact faithful.stepsLeft_le position found
  have product : (plan.bounds.maxColumns + 5) * ReaderAudit.unclaimed life.writer.shared ≤
      (plan.bounds.maxColumns + 20) * plan.range.size := Nat.mul_le_mul (by omega) keys
  rw [owed, Nat.add_mul plan.range.size, Nat.mul_comm plan.range.size]
  omega

end WriterLife

namespace ReaderAudit

variable {Storage Source : Type} {audit next : ReaderAudit Storage Source} {worker : Nat}

/-- The steps that a worker takes at most if nobody else takes one and there is no unfinished
writer. -/
def owed (reader : Reader) (worker : Nat) : Nat :=
  11 * unclaimed reader.shared + Pool.weightOf stepsLeft reader worker

theorem owed_lt_of_work [Store Storage] [WatermarkSource Source]
    (worked : audit.work worker = some next) (known : audit.reader.shared.cursor.isSome)
    (settled : Settled audit.world) : owed next.reader worker < owed audit.reader worker := by
  have less := linkedPotential_lt_of_work worked known settled
  obtain ⟨before, after, moved⟩ := (change_of_work _ _ worker worked).moved
  have balance := moved.total_add stepsLeft
  rw [linkedPotential, linkedPotential] at less
  rw [owed, owed, Pool.weightOf_of_position stepsLeft _ worker _ moved.arrived,
    Pool.weightOf_of_position stepsLeft _ worker _ moved.position_eq]
  omega

theorem stepsLeft_le (position : Position ReaderTask) : stepsLeft position ≤ 13 := by
  cases position with
  | working task => cases task <;> exact Nat.le_of_ble_eq_true rfl
  | _ => exact Nat.le_of_ble_eq_true rfl

theorem Kept.owed_le {plan : ReadPlan} (kept : Kept plan audit) (worker : Nat) :
    owed audit.reader worker ≤ (plan.range.size + 2) * (plan.bounds.maxColumns + 20) := by
  obtain ⟨cursor, known, range, _⟩ := kept.claimed
  have keys : unclaimed audit.reader.shared ≤ plan.range.size :=
    range ▸ unclaimed_le_size audit.reader.shared cursor known
  have own : Pool.weightOf stepsLeft audit.reader worker ≤ 13 := by
    rw [Pool.weightOf]
    cases audit.reader.position? worker with
    | none => exact Nat.zero_le _
    | some position => exact stepsLeft_le position
  have product : 11 * unclaimed audit.reader.shared ≤
      (plan.bounds.maxColumns + 20) * plan.range.size := Nat.mul_le_mul (by omega) keys
  rw [owed, Nat.add_mul plan.range.size, Nat.mul_comm plan.range.size]
  omega

end ReaderAudit

/-! ### The states of a run that is carried out -/

namespace RunState

variable {Storage : Type} [Store Storage] {options : Options} {store : Storage}
  {state next : RunState Storage} {actor : Actor} {worker : Nat}

/-- A state that a schedule without an interrupt leads to. -/
structure Reached (options : Options) (store : Storage) (state : RunState Storage) : Prop where
  uninterrupted : state.interrupt = none
  scheduled : ∃ schedule life, (∀ event ∈ schedule, event.1 ≠ .interrupt) ∧
    replay RunLife.step { run := Run.ready options store } schedule = some life ∧
      RunLife.Underway (.any Storage options False) options life ∧ life.run = state.run

/-- A step of an actor is one of the run in its life. -/
theorem Reached.act (reached : Reached options store state) (possible : options.Possible)
    (acted : state.act actor = some next) (allowed : actor ≠ .interrupt) :
    Reached options store next ∧ ∃ life later,
      RunLife.Underway (.any Storage options False) options life ∧ life.run = state.run ∧
        life.step (actor, 0.0) = some later ∧ later.run = next.run := by
  obtain ⟨schedule, life, uninterrupted, ran, underway, same⟩ := reached.scheduled
  obtain ⟨⟨run, lines⟩, moved, rfl⟩ := Option.map_eq_some_iff.mp acted
  have stepped : life.step (actor, 0.0) =
      some ⟨run, life.notedLedger actor, life.notedAccount actor⟩ :=
    Option.map_eq_some_iff.mpr ⟨(run, lines), same ▸ moved, rfl⟩
  have later := underway.step Conduct.any_kept possible (actor, 0.0)
    (fun interrupt => absurd interrupt allowed) stepped
  refine ⟨⟨reached.uninterrupted, schedule ++ [(actor, 0.0)], _, ?_, ?_, later, rfl⟩,
    life, _, underway, same, stepped, rfl⟩
  · exact List.forall_mem_append.mpr ⟨uninterrupted, List.forall_mem_singleton.mpr allowed⟩
  · rw [replay_append, ran, Option.bind_some, replay, stepped]
    rfl

/-- A step of a worker of the writer is one in the life of the writer. -/
theorem Reached.act_writer (reached : Reached options store state) (possible : options.Possible)
    (acted : state.act (.writer worker) = some next) :
    Reached options store next ∧ next.run.phase = state.run.phase ∧ ∃ life writer after,
      RunLife.Underway (.any Storage options False) options life ∧ life.run = state.run ∧
        life.run.writer = some writer ∧ (life.writing writer).work worker = some after ∧
          next.run.writer = some after.writer := by
  obtain ⟨stillReached, life, later, underway, before, stepped, same⟩ :=
    reached.act possible acted nofun
  obtain ⟨writer, after, known, worked, rfl⟩ := RunLife.step_writer stepped
  exact ⟨stillReached, by rw [← same, ← before]; rfl, life, writer, after, underway, before, known,
    worked, by rw [← same]; rfl⟩

/-- A step of a worker of the reader is one under audit. -/
theorem Reached.act_reader (reached : Reached options store state) (possible : options.Possible)
    (acted : state.act (.reader worker) = some next) :
    Reached options store next ∧ next.run.phase = state.run.phase ∧
      next.run.writer = state.run.writer ∧ ∃ life reader after,
        RunLife.Underway (.any Storage options False) options life ∧ life.run = state.run ∧
          life.run.reader = some reader ∧ (life.reading reader).work worker = some after ∧
            next.run.reader = some after.reader := by
  obtain ⟨stillReached, life, later, underway, before, stepped, same⟩ :=
    reached.act possible acted nofun
  obtain ⟨reader, after, known, worked, rfl⟩ := RunLife.step_reader stepped
  exact ⟨stillReached, by rw [← same, ← before]; rfl, by rw [← same, ← before]; rfl, life, reader,
    after, underway, before, known, worked, by rw [← same]; rfl⟩

/-! ### One crew after the other -/

/-- The workers of one pool while they take their turns: the states in which they do, and what each
of them can still do. -/
structure Crew {State Task : Type} (actor : Nat → Actor)
    (pool? : RunState Storage → Option (Pool State Task)) (holds : RunState Storage → Prop)
    (owed : Pool State Task → Nat → Nat) : Prop where
  stays : ∀ state worker next, holds state → state.act (actor worker) = some next → holds next
  steps : ∀ state worker next, holds state → state.act (actor worker) = some next →
    ∃ pool later, pool? state = some pool ∧ pool? next = some later ∧ pool.Worked later ∧
      owed later worker < owed pool worker
  enough : ∀ state worker pool, holds state → pool? state = some pool → pool.roster.isSome →
    owed pool worker ≤ state.fuel
  stuck : ∀ state worker pool, holds state → pool? state = some pool →
    state.act (actor worker) = none → pool.Gone worker
  counted : ∀ state pool, holds state → pool? state = some pool → pool.roster.isSome →
    pool.Counted ∧ 0 < pool.workerCount

section Crew

variable {State Task : Type} {actor : Nat → Actor}
  {pool? : RunState Storage → Option (Pool State Task)} {holds : RunState Storage → Prop}
  {owed : Pool State Task → Nat → Nat}

/-- The pool has its workers, and that many. -/
def Staffed (pool? : Option (Pool State Task)) (count : Nat) : Prop :=
  ∃ pool, pool? = some pool ∧ pool.roster.isSome ∧ pool.workerCount = count

/-- Whoever there is in the pool of this number is gone. -/
def HasLeft (pool? : Option (Pool State Task)) (worker : Nat) : Prop :=
  ∀ pool, pool? = some pool → pool.Gone worker

theorem Crew.act (crew : Crew actor pool? holds owed) {count : Nat} (isHeld : holds state)
    (staffed : Staffed (pool? state) count) (acted : state.act (actor worker) = some next) :
    (holds next ∧ Staffed (pool? next) count) ∧
      ∀ other, HasLeft (pool? state) other → HasLeft (pool? next) other := by
  obtain ⟨pool, known, _, rfl⟩ := staffed
  obtain ⟨before, later, isBefore, isLater, worked, _⟩ :=
    crew.steps state worker next isHeld acted
  cases known.symm.trans isBefore
  refine ⟨⟨crew.stays state worker next isHeld acted, later, isLater, worked.staffed,
    worked.workerCount_eq⟩, fun other gone pool found => ?_⟩
  cases isLater.symm.trans found
  exact worked.gone other (gone _ known)

/-- A worker that goes as long as it can has left then. -/
theorem Crew.exhaust (crew : Crew actor pool? holds owed) {count : Nat} (isHeld : holds state)
    (staffed : Staffed (pool? state) count) (worker : Nat) :
    (holds (state.exhaust (actor worker)) ∧ Staffed (pool? (state.exhaust (actor worker))) count) ∧
      HasLeft (pool? (state.exhaust (actor worker))) worker := by
  have stays : ∀ state next, holds state ∧ Staffed (pool? state) count →
      state.act (actor worker) = some next → holds next ∧ Staffed (pool? next) count :=
    fun state next both acted => (crew.act both.1 both.2 acted).1
  have kept := iterate_invariant stays state.fuel state ⟨isHeld, staffed⟩
  refine ⟨kept, fun later found => crew.stuck _ worker later kept.1 found ?_⟩
  refine iterate_stuck (fun state => (pool? state).elim 0 (owed · worker)) stays
    (fun state next both acted => ?_) state.fuel state ⟨isHeld, staffed⟩ ?_
  · obtain ⟨pool, later, before, after, _, less⟩ := crew.steps state worker next both.1 acted
    rw [before, after]
    exact less
  · obtain ⟨pool, known, isStaffed, _⟩ := staffed
    rw [known]
    exact crew.enough state worker pool isHeld known isStaffed

/-- Nobody who has left comes back while others take their turns. -/
theorem Crew.hasLeft_exhaust (crew : Crew actor pool? holds owed) {count : Nat}
    (isHeld : holds state) (staffed : Staffed (pool? state) count) (worker other : Nat)
    (left : HasLeft (pool? state) other) :
    HasLeft (pool? (state.exhaust (actor worker))) other := by
  refine (iterate_invariant (motive := fun state =>
    (holds state ∧ Staffed (pool? state) count) ∧ HasLeft (pool? state) other)
    (fun state next both acted => ?_) state.fuel state ⟨⟨isHeld, staffed⟩, left⟩).2
  obtain ⟨stillHeld, stays⟩ := crew.act both.1.1 both.1.2 acted
  exact ⟨stillHeld, stays other both.2⟩

/-- When every worker has had its turn, a pool that has workers is finished. -/
theorem Crew.finished (crew : Crew actor pool? holds owed) (isHeld : holds state) :
    let ended := (List.range (workers (pool? state))).foldl
      (fun state worker => state.exhaust (actor worker)) state
    holds ended ∧ ∀ pool, pool? ended = some pool → pool.roster.isSome → pool.finished = true := by
  by_cases some_staffed : ∃ pool, pool? state = some pool ∧ pool.roster.isSome
  · obtain ⟨pool, known, isStaffed⟩ := some_staffed
    obtain ⟨⟨stillHeld, later, isLater, laterStaffed, count⟩, gone⟩ := foldl_range_done
      (motive := fun state => holds state ∧ Staffed (pool? state) (workers (some pool)))
      (fun _ worker both => (crew.exhaust both.1 both.2 worker).1)
      (fun _ worker both => (crew.exhaust both.1 both.2 worker).2)
      (fun _ worker other both => crew.hasLeft_exhaust both.1 both.2 worker other)
      state ⟨isHeld, pool, known, isStaffed, rfl⟩ (workers (some pool))
    rw [known]
    refine ⟨stillHeld, fun other found _ => ?_⟩
    cases isLater.symm.trans found
    obtain ⟨counted, some_worker⟩ := crew.counted _ later stillHeld isLater laterStaffed
    exact counted.finished_of_gone some_worker fun worker inside =>
      gone worker (count ▸ inside) later isLater
  · -- Before its start a pool has no workers, so nobody takes a turn.
    have nobody : workers (pool? state) = 0 := by
      cases known : pool? state with
      | none => rfl
      | some pool =>
        have unstaffed : pool.roster = none := Option.not_isSome_iff_eq_none.mp fun isStaffed =>
          some_staffed ⟨pool, known, isStaffed⟩
        rw [workers, Option.bind_some, unstaffed]
        rfl
    rw [nobody]
    exact ⟨isHeld, fun pool known isStaffed => absurd ⟨pool, known, isStaffed⟩ some_staffed⟩

end Crew

/-! ### The two crews of a run -/

/-- What a worker of a run that is carried out is allowed depends on the options alone. -/
theorem Reached.fuel_eq (reached : Reached options store state) :
    state.fuel = (options.range.size + 2) * (options.bounds.maxColumns + 20) := by
  obtain ⟨_, life, _, _, underway, same⟩ := reached.scheduled
  rw [fuel, ← same, underway.options_eq]

theorem gone_of_writerStep_eq_none {run : Run Storage} {writer : Writer}
    (known : run.writer = some writer) (stuck : run.writerStep worker = none) :
    Pool.Gone writer worker := by
  refine Pool.gone_of_step_eq_none Writer.poolName
    (Writer.advance : Advance WriterState WriterTask Storage) writer run.store worker ?_
  cases stepped : writer.step run.store worker with
  | none => exact stepped
  | some turn =>
    simp only [Run.writerStep, known, stepped, bind, Option.bind, pure, reduceCtorEq] at stuck

theorem gone_of_readerStep_eq_none {run : Run Storage} {reader : Reader}
    (known : run.reader = some reader) (stuck : run.readerStep worker = none) :
    Pool.Gone reader worker := by
  refine Pool.gone_of_step_eq_none Reader.poolName
    (Reader.advance : Advance ReaderState ReaderTask (ReaderWorld Storage Writer)) reader
    ⟨run.store, run.writer⟩ worker ?_
  cases stepped : reader.step (⟨run.store, run.writer⟩ : ReaderWorld Storage Writer) worker with
  | none => exact stepped
  | some turn =>
    simp only [Run.readerStep, known, stepped, bind, Option.bind, pure, reduceCtorEq] at stuck

/-- The workers of the writer, at any phase of the main thread. -/
theorem crew_of_writers (possible : options.Possible) (phase : Phase) :
    Crew .writer (fun state : RunState Storage => state.run.writer)
      (fun state => Reached options store state ∧ state.run.phase = phase)
      (WriterLife.owed options.writePlan) where
  stays state worker next isHeld acted := by
    obtain ⟨stillReached, samePhase, _⟩ := isHeld.1.act_writer possible acted
    exact ⟨stillReached, samePhase.trans isHeld.2⟩
  steps state worker next isHeld acted := by
    obtain ⟨_, _, life, writer, after, underway, same, known, worked, later⟩ :=
      isHeld.1.act_writer possible acted
    have stepped := WriterLife.stepped_of_work worked
    have kept : (life.writing writer).Kept options.writePlan :=
      underway.writer_goes_of_staffed writer known stepped.isSome_roster
    exact ⟨writer, after.writer, same ▸ known, later, stepped.worked,
      (WriterLife.change_of_work _ _ worker worked).owed_lt kept.faithful⟩
  enough state worker writer isHeld known staffed := by
    obtain ⟨_, life, _, _, underway, same⟩ := isHeld.1.scheduled
    have kept : (life.writing writer).Kept options.writePlan :=
      underway.writer_goes_of_staffed writer (same ▸ known) staffed
    rw [isHeld.1.fuel_eq]
    exact kept.faithful.owed_le worker
  stuck state worker writer _ known stuck :=
    gone_of_writerStep_eq_none known (Option.map_eq_none_iff.mp stuck)
  counted state writer isHeld known staffed := by
    obtain ⟨_, life, _, _, underway, same⟩ := isHeld.1.scheduled
    have kept : (life.writing writer).Kept options.writePlan :=
      underway.writer_goes_of_staffed writer (same ▸ known) staffed
    exact ⟨kept.counted, kept.some_worker⟩

/-- The workers of the reader, while the main thread waits for it: the writer is finished then. -/
theorem crew_of_readers (possible : options.Possible) :
    Crew .reader (fun state : RunState Storage => state.run.reader)
      (fun state => Reached options store state ∧ state.run.phase = .awaitRead)
      ReaderAudit.owed where
  stays state worker next isHeld acted := by
    obtain ⟨stillReached, samePhase, _⟩ := isHeld.1.act_reader possible acted
    exact ⟨stillReached, samePhase.trans isHeld.2⟩
  steps state worker next isHeld acted := by
    obtain ⟨_, _, _, life, reader, after, underway, same, known, worked, later⟩ :=
      isHeld.1.act_reader possible acted
    have stepped := ReaderAudit.stepped_of_work worked
    have kept : ReaderAudit.Kept options.readPlan (life.reading reader) :=
      underway.reader_goes_of_staffed reader known stepped.isSome_roster
    obtain ⟨cursor, isCursor, _⟩ := kept.claimed
    have settled : ReaderAudit.Settled (life.reading reader).world :=
      underway.settled reader .closing known (by rw [same, isHeld.2]; exact .running)
    exact ⟨reader, after.reader, same ▸ known, later, stepped.worked,
      ReaderAudit.owed_lt_of_work worked (Option.isSome_of_eq_some isCursor) settled⟩
  enough state worker reader isHeld known staffed := by
    obtain ⟨_, life, _, _, underway, same⟩ := isHeld.1.scheduled
    have kept : ReaderAudit.Kept options.readPlan (life.reading reader) :=
      underway.reader_goes_of_staffed reader (same ▸ known) staffed
    rw [isHeld.1.fuel_eq]
    exact kept.owed_le worker
  stuck state worker reader _ known stuck :=
    gone_of_readerStep_eq_none known (Option.map_eq_none_iff.mp stuck)
  counted state reader isHeld known staffed := by
    obtain ⟨_, life, _, _, underway, same⟩ := isHeld.1.scheduled
    have kept : ReaderAudit.Kept options.readPlan (life.reading reader) :=
      underway.reader_goes_of_staffed reader (same ▸ known) staffed
    exact ⟨kept.counted, kept.some_worker⟩

/-- The turns of the workers of the reader leave the main thread and the writer as they are. -/
theorem Reached.readers_keep (reached : Reached options store state)
    (possible : options.Possible) (workers : List Nat) :
    let ended := workers.foldl (fun state worker => state.exhaust (.reader worker)) state
    Reached options store ended ∧ ended.run.phase = state.run.phase ∧
      ended.run.writer = state.run.writer := by
  refine List.foldlRecOn workers _ (motive := fun ended => Reached options store ended ∧
    ended.run.phase = state.run.phase ∧ ended.run.writer = state.run.writer) ⟨reached, rfl, rfl⟩
    fun middle isHeld worker _ => ?_
  refine iterate_invariant (motive := fun ended => Reached options store ended ∧
    ended.run.phase = state.run.phase ∧ ended.run.writer = state.run.writer)
    (fun before next both acted => ?_) _ middle isHeld
  obtain ⟨stillReached, phase, writer, _⟩ := both.1.act_reader possible acted
  exact ⟨stillReached, phase.trans both.2.1, writer.trans both.2.2⟩

/-- When everybody has had his turn, nobody is left whom the main thread could wait for. -/
theorem Reached.drain (reached : Reached options store state) (possible : options.Possible) :
    Reached options store state.drain ∧ state.drain.run.phase = state.run.phase ∧
      (∀ writer, state.drain.run.writer = some writer → writer.roster.isSome →
        Pool.finished writer = true) ∧
      (state.run.phase = .awaitRead → ∀ reader, state.drain.run.reader = some reader →
        reader.roster.isSome → Pool.finished reader = true) := by
  obtain ⟨⟨writtenReached, writtenPhase⟩, writerEnds⟩ :=
    (crew_of_writers possible state.run.phase).finished ⟨reached, rfl⟩
  obtain ⟨endedReached, endedPhase, sameWriter⟩ := writtenReached.readers_keep possible _
  refine ⟨endedReached, endedPhase.trans writtenPhase, fun writer known => ?_, fun atPhase => ?_⟩
  · exact writerEnds writer (sameWriter.symm.trans known)
  · exact ((crew_of_readers possible).finished ⟨writtenReached, writtenPhase.trans atPhase⟩).2

/-! ### The main thread -/

/-- A main thread that waits for nobody goes on. -/
theorem Reached.main (reached : Reached options store state) (possible : options.Possible)
    (unended : state.run.phase.isOver = false)
    (unwaiting : ∀ life, RunLife.Underway (.any Storage options False) options life →
      life.run = state.run → ¬life.WaitsForWriter ∧ ¬life.WaitsForReader) :
    ∃ next, state.act .main = some next ∧ Reached options store next ∧
      next.run.phase.stepsLeft < state.run.phase.stepsLeft := by
  obtain ⟨_, life, _, _, underway, same⟩ := reached.scheduled
  obtain ⟨forWriter, forReader⟩ := unwaiting life underway same
  have moves : (state.run.mainStep 0.0).isSome := by
    rw [← same] at unended ⊢
    exact (underway.moves_or_waits Conduct.any_kept unended 0.0).resolve_right
      fun waits => waits.elim forWriter forReader
  obtain ⟨⟨run, lines⟩, moved⟩ := Option.isSome_iff_exists.mp moves
  have acted : state.act .main = some { state with run, lines := lines.reverse ++ state.lines } :=
    Option.map_eq_some_iff.mpr ⟨(run, lines), moved, rfl⟩
  exact ⟨_, acted, (reached.act possible acted nofun).1,
    RunLife.stepsLeft_lt_of_mainMove (Run.mainMove_of_mainStep moved)⟩

/-- A pool that the main thread waits for is finished when everybody has had his turn. -/
theorem Reached.unwaiting_of_drain (reached : Reached options store state)
    (possible : options.Possible) (life : RunLife Storage)
    (underway : RunLife.Underway (.any Storage options False) options life)
    (same : life.run = state.drain.run) : ¬life.WaitsForWriter ∧ ¬life.WaitsForReader := by
  obtain ⟨_, samePhase, writerEnds, readerEnds⟩ := reached.drain possible
  constructor
  · rintro ⟨writer, phase, known, awaits, unfinished⟩
    have kept : (life.writing writer).Kept options.writePlan :=
      underway.goes_of_awaitsWriter writer phase awaits known
    have staffed := Pool.isSome_roster_of_some_worker kept.some_worker
    exact Bool.noConfusion (unfinished.symm.trans (writerEnds writer (same ▸ known) staffed))
  · rintro ⟨reader, phase, known, awaits, unfinished⟩
    have kept : ReaderAudit.Kept options.readPlan (life.reading reader) :=
      (underway.goes_of_awaitsReader reader phase awaits known).1
    have staffed := Pool.isSome_roster_of_some_worker kept.some_worker
    -- The other wait for a reader comes only after an interrupt.
    have atPhase : state.run.phase = .awaitRead := by
      have interrupted := underway.interrupted
      rw [same, samePhase] at awaits interrupted
      generalize state.run.phase = before at awaits interrupted
      cases awaits with
      | running => rfl
      | stopped => exact (interrupted rfl).elim
    exact Bool.noConfusion
      (unfinished.symm.trans (readerEnds atPhase reader (same ▸ known) staffed))

/-- As long as the main thread is not over, it goes on after whatever it waits for. -/
theorem Reached.goesOn (reached : Reached options store state) (possible : options.Possible)
    (unended : state.run.phase.isOver = false) :
    ∃ later, state.next = some later ∧ Reached options store later ∧
      later.run.phase.stepsLeft < state.run.phase.stepsLeft := by
  have uninterrupted : ¬state.isInterrupted = true := by
    rw [isInterrupted, reached.uninterrupted]
    exact Bool.noConfusion
  rw [RunState.next, if_neg uninterrupted]
  obtain ⟨drained, samePhase, _⟩ := reached.drain possible
  split
  · rw [← samePhase] at unended ⊢
    exact drained.main possible unended fun life => reached.unwaiting_of_drain possible life
  · rename_i unwaiting
    refine reached.main possible unended fun life _ same => ?_
    rw [← same] at unwaiting
    refine ⟨?_, ?_⟩
    · rintro ⟨writer, phase, _, awaits, _⟩
      generalize life.run.phase = before at awaits unwaiting
      cases awaits <;> exact unwaiting rfl
    · rintro ⟨reader, phase, _, awaits, _⟩
      generalize life.run.phase = before at awaits unwaiting
      cases awaits <;> exact unwaiting rfl

/-- Nothing follows the end of the main thread. -/
theorem Reached.next_of_isOver (reached : Reached options store state)
    (isOver : state.run.phase.isOver = true) : state.next = none := by
  have uninterrupted : ¬state.isInterrupted = true := by
    rw [isInterrupted, reached.uninterrupted]
    exact Bool.noConfusion
  have ended : ∀ phase : Phase, phase.isOver = true →
      isWaiting phase = false ∧ phase.stepsLeft = 0 := by
    intro phase isOver
    cases phase with
    | reported report => exact ⟨rfl, rfl⟩
    | raised failure => exact ⟨rfl, rfl⟩
    | _ => cases isOver
  obtain ⟨unwaiting, noSteps⟩ := ended state.run.phase isOver
  rw [RunState.next, if_neg uninterrupted, unwaiting, if_neg Bool.false_ne_true,
    Option.eq_none_iff_forall_ne_some]
  intro later acted
  obtain ⟨⟨run, lines⟩, moved, _⟩ := Option.map_eq_some_iff.mp acted
  have forward := RunLife.stepsLeft_lt_of_mainMove (Run.mainMove_of_mainStep moved)
  rw [noSteps] at forward
  exact Nat.not_lt_zero _ forward

/-- The main thread comes to its end in as many steps as it is allowed. -/
theorem Reached.iterate_next (reached : Reached options store state) (possible : options.Possible)
    (atStart : state.run.phase.stepsLeft ≤ mainSteps) :
    Reached options store (iterate RunState.next mainSteps state) ∧
      (iterate RunState.next mainSteps state).run.phase.isOver = true := by
  have goesOn : ∀ state next : RunState Storage, Reached options store state →
      state.next = some next → Reached options store next ∧
        next.run.phase.stepsLeft < state.run.phase.stepsLeft := by
    intro state next reached stepped
    cases ended : state.run.phase.isOver with
    | true => cases (reached.next_of_isOver ended).symm.trans stepped
    | false =>
      obtain ⟨later, isNext, stillReached, less⟩ := reached.goesOn possible ended
      cases isNext.symm.trans stepped
      exact ⟨stillReached, less⟩
  have kept := iterate_invariant (fun state next isHeld stepped =>
    (goesOn state next isHeld stepped).1) mainSteps state reached
  have stuck := iterate_stuck (·.run.phase.stepsLeft)
    (fun state next isHeld stepped => (goesOn state next isHeld stepped).1)
    (fun state next isHeld stepped => (goesOn state next isHeld stepped).2) mainSteps state reached
    atStart
  refine ⟨kept, ?_⟩
  by_contra unended
  obtain ⟨later, isNext, _⟩ := kept.goesOn possible (Bool.eq_false_iff.mpr unended)
  cases stuck.symm.trans isNext

end RunState

/-- A run that is carried out takes a schedule without an interrupt to the end of the main thread,
whatever the store does. Its result and its store are those that the schedule leads to. -/
theorem execute_follows_schedule {Storage : Type} [Store Storage] (options : Options)
    (possible : options.Possible) (store : Storage) :
    ∃ schedule life, (∀ event ∈ schedule, event.1 ≠ .interrupt) ∧
      replay RunLife.step { run := Run.ready options store } schedule = some life ∧
        life.run.phase.isOver = true ∧
          (execute options store none).result = life.run.result ∧
            (execute options store none).store = life.run.store := by
  obtain ⟨lines, prepared⟩ := Run.prepare_eq_ok options possible store
  have started : RunState.Reached options store ⟨Run.ready options store, none, lines.reverse⟩ :=
    ⟨rfl, [], _, fun event member => absurd member List.not_mem_nil, rfl,
      RunLife.underway_ready _ store trivial, rfl⟩
  obtain ⟨reached, isOver⟩ := started.iterate_next possible (Nat.le_of_ble_eq_true rfl)
  obtain ⟨drained, samePhase, _⟩ := reached.drain possible
  obtain ⟨schedule, life, uninterrupted, ran, _, same⟩ := drained.scheduled
  refine ⟨schedule, life, uninterrupted, ran, by rw [same, samePhase]; exact isOver, ?_, ?_⟩
  · rw [execute, prepared, same]
  · rw [execute, prepared, same]

end LoadVerifier
