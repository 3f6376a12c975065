/-
This file says what a run leaves behind when its main thread ends. It reports only when every
worker of every started pool has left. When it fails it waits for nobody any more, and so it can
leave a pool at work in two ways: it was refused the start of the reader, and has not waited for the
writer it had started before; or it raises a crash of the writer, which it has waited for, and has
not waited for the reader. A crash of the reader is raised when nobody is left.

All this holds on any store and for any settings, and an interrupt may come at any moment at which
one is caught.
-/
import LoadVerifier.Proofs.ExitCode
import LoadVerifier.Proofs.RunOnAnyStore

namespace LoadVerifier

open Pool (FailsWith)

/-- The pool was started, and some worker has not left yet. -/
def Pool.AtWork {State Task : Type} (pool : Pool State Task) : Prop :=
  pool.started = true ∧ pool.finished = false

instance {State Task : Type} (pool : Pool State Task) : Decidable pool.AtWork :=
  inferInstanceAs (Decidable (_ ∧ _))

theorem Pool.not_atWork_of_finished {State Task : Type} {pool : Pool State Task}
    (finished : pool.finished = true) : ¬pool.AtWork :=
  fun atWork => Bool.noConfusion (atWork.2.symm.trans finished)

theorem Pool.not_atWork_of_unstarted {State Task : Type} {pool : Pool State Task}
    (unstarted : pool.started = false) : ¬pool.AtWork :=
  fun atWork => Bool.noConfusion (unstarted.symm.trans atWork.1)

/-- When the result of a pass was taken, its pool is not at work. -/
theorem RunPass.Standing.not_atWork {State Task Result : Type}
    {pass : RunPass State Task Result} {phase : Phase} {pool? : Option (Pool State Task)}
    {result : Option Result} (standing : pass.Standing phase pool? result)
    (late : pass.isBefore phase = false) (after : pass.isAfter phase = true)
    (pool : Pool State Task) (known : pool? = some pool) : ¬pool.AtWork := by
  subst known
  intro atWork
  exact Pool.not_atWork_of_finished (standing.taken_of_after late after atWork.1).1 atWork

namespace RunLife

variable {Storage : Type} {conduct : Conduct Storage} {options : Options} {life : RunLife Storage}

/-- Nobody is at work when a report is made. -/
theorem Underway.idle_of_reported (underway : Underway conduct options life) (report : Report)
    (reported : life.run.phase = .reported report) :
    (∀ writer, life.run.writer = some writer → ¬Pool.AtWork writer) ∧
      ∀ reader, life.run.reader = some reader → ¬Pool.AtWork reader := by
  have writing := underway.writer
  have reading := underway.reader
  rw [reported] at writing reading
  exact ⟨writing.not_atWork rfl rfl, reading.not_atWork rfl rfl⟩

/-- Who may be at work when a run has failed, and of what. -/
structure LeftAtWork (options : Options) (run : Run Storage) (failure : Failure) : Prop where
  /-- The writer, when the reader was refused its number of workers. -/
  writer : ∀ writer, run.writer = some writer → Pool.AtWork writer →
    ∃ spec, options.read = some spec ∧ ¬(1 ≤ spec.threads ∧ spec.threads ≤ maxThreads) ∧
      failure = .config (.threadsOutOfRange Reader.poolName spec.threads)
  /-- The reader, when the writer is finished and its first crash is raised. -/
  reader : ∀ reader, run.reader = some reader → Pool.AtWork reader →
    ∃ writer, run.writer = some writer ∧ FailsWith writer failure

theorem Pursued.leftAtWork (pursued : Pursued conduct options life) (failure : Failure)
    (failed : life.run.phase = .raised failure) : LeftAtWork options life.run failure := by
  cases pursued with
  | underway underway =>
    cases underway.raised failure failed with
    | writer writer known fails =>
      refine ⟨fun other same atWork => ?_, fun reader _ _ => ⟨writer, known, fails⟩⟩
      cases known.symm.trans same
      exact absurd atWork (Pool.not_atWork_of_finished fails.1)
    | reader reader known fails settled =>
      refine ⟨fun writer same atWork => ?_, fun other same atWork => ?_⟩
      · exact absurd atWork (Pool.not_atWork_of_finished (settled writer same))
      · cases known.symm.trans same
        exact absurd atWork (Pool.not_atWork_of_finished fails.1)
  | writerRefused spec asked impossible raised writer reader =>
    exact ⟨fun pool known atWork =>
        absurd atWork (Pool.not_atWork_of_unstarted (writer pool known).1),
      fun pool known atWork =>
        absurd atWork (Pool.not_atWork_of_unstarted (reader pool known).1)⟩
  | readerRefused spec asked impossible raised reader =>
    cases failed.symm.trans raised
    exact ⟨fun _ _ _ => ⟨spec, asked, impossible, rfl⟩, fun pool known atWork =>
      absurd atWork (Pool.not_atWork_of_unstarted (reader pool known).1)⟩

/-- Only a failure leaves a pool at work. On every schedule, and on every store, a run that could be
prepared has no pool at work when it has reported. When it has failed, the writer may be at work
only if the reader was refused its number of workers, and the reader only if the failure is the
first crash of the writer, all of whose workers have left. -/
theorem only_failures_leave_pools_at_work [Store Storage] (options : Options) (store : Storage)
    (run : Run Storage) (lines : List Line)
    (prepared : Run.prepare options store = .ok (run, lines)) (schedule : List RunEvent)
    (life : RunLife Storage)
    (ran : replay RunLife.step { run } schedule = some life) :
    (∀ report, life.run.phase = .reported report →
      (∀ writer, life.run.writer = some writer → ¬Pool.AtWork writer) ∧
        ∀ reader, life.run.reader = some reader → ¬Pool.AtWork reader) ∧
    ∀ failure, life.run.phase = .raised failure → LeftAtWork options life.run failure := by
  have pursued : Pursued (.any Storage options True) options life :=
    pursued_of_replay Conduct.any_kept store trivial run lines prepared schedule
      (fun _ _ _ => trivial) ran
  exact ⟨fun report reported =>
      (pursued.underway_of_reported report reported).idle_of_reported report reported,
    pursued.leftAtWork⟩

/-- The failure that has ended a run. -/
def failure? (life : RunLife Storage) : Option Failure :=
  match life.run.phase with
  | .raised failure => some failure
  | _ => none

theorem raised_of_failure? (life : RunLife Storage) (failure : Failure)
    (failed : life.failure? = some failure) : life.run.phase = .raised failure := by
  unfold failure? at failed
  split at failed
  · rename_i reason raised
    cases failed
    exact raised
  · cases failed

theorem exists_atWork {State Task : Type} (pool? : Option (Pool State Task))
    (some_atWork : pool?.any (fun pool => decide pool.AtWork) = true) :
    ∃ pool, pool? = some pool ∧ pool.AtWork := by
  cases pool? with
  | none => cases some_atWork
  | some pool => exact ⟨pool, rfl, of_decide_eq_true some_atWork⟩

/-- Three keys are to be written, and read by nobody. -/
def noReaders : Options :=
  { threeKeys with read := some { verifyPercent := 100, threads := 0 }, some_pass := by decide }

/-- The main thread starts the writer and then tries to start the reader. -/
def bothStarts : List RunEvent := (List.replicate 4 Actor.main).map fun actor => (actor, 0.0)

theorem only_failures_leave_pools_at_work_of_success_and_refusal :
    (∃ life : RunLife FaultyStore,
      replay RunLife.step { run := Run.ready threeKeys {} } (oneAfterTheOther 18 25) = some life ∧
        (∀ writer, life.run.writer = some writer → ¬Pool.AtWork writer) ∧
          ∀ reader, life.run.reader = some reader → ¬Pool.AtWork reader) ∧
      ∃ (life : RunLife FaultyStore) (writer : Writer) (spec : ReadSpec),
        replay RunLife.step { run := Run.ready noReaders {} } bothStarts = some life ∧
          life.run.writer = some writer ∧ Pool.AtWork writer ∧ noReaders.read = some spec ∧
            ¬(1 ≤ spec.threads ∧ spec.threads ≤ maxThreads) := by
  constructor
  · obtain ⟨lines, prepared⟩ :=
      (Run.prepare_eq_ok_iff threeKeys ({} : FaultyStore) _).mpr ⟨threeKeys_readable, rfl⟩
    obtain ⟨life, report, ran, reported, _⟩ := threeKeys_succeeds
    exact ⟨life, ran, (only_failures_leave_pools_at_work threeKeys {} _ lines prepared _ life
      ran).1 report reported⟩
  · obtain ⟨lines, prepared⟩ := (Run.prepare_eq_ok_iff noReaders ({} : FaultyStore) _).mpr
      ⟨fun _ => ⟨by decide, by decide, by decide, by decide⟩, rfl⟩
    have ended : (replay RunLife.step
        ({ run := Run.ready noReaders {} } : RunLife FaultyStore) bothStarts).map
          (fun life =>
            (life.failure?, life.run.writer.any fun writer => decide (Pool.AtWork writer))) =
              some (some (.config (.threadsOutOfRange Reader.poolName 0)), true) := by
      decide +kernel
    obtain ⟨life, ran, seen⟩ := Option.map_eq_some_iff.mp ended
    obtain ⟨failed, some_atWork⟩ := Prod.mk.inj seen
    obtain ⟨writer, known, atWork⟩ := exists_atWork _ some_atWork
    have left := (only_failures_leave_pools_at_work noReaders {} _ lines prepared bothStarts life
      ran).2 _ (raised_of_failure? life _ failed)
    obtain ⟨spec, asked, impossible, _⟩ := left.writer writer known atWork
    exact ⟨life, writer, spec, ran, known, atWork, asked, impossible⟩

/-- A store that breaks on the first key. -/
def firstBroken : FaultyStore := { faults := { broken := [0] } }

/-- The only writer crashes on its first call and leaves, and the main thread finds that out. -/
def writerCrashes : List RunEvent :=
  (List.replicate 4 Actor.main ++ List.replicate 5 (Actor.writer 0) ++ [Actor.main]).map
    fun actor => (actor, 0.0)

/-- A run raises the crash of its writer when its reader has not even begun to work. -/
theorem crash_leaves_reader_at_work :
    ∃ run lines life reader, Run.prepare threeKeys firstBroken = .ok (run, lines) ∧
      replay RunLife.step { run } writerCrashes = some life ∧
        life.run.phase = .raised (.crash (.store "boom 0")) ∧
          life.run.reader = some reader ∧ Pool.AtWork reader := by
  obtain ⟨lines, prepared⟩ :=
    (Run.prepare_eq_ok_iff threeKeys firstBroken _).mpr ⟨threeKeys_readable, rfl⟩
  have ended : (replay RunLife.step
      ({ run := Run.ready threeKeys firstBroken } : RunLife FaultyStore) writerCrashes).map
        (fun life =>
          (life.failure?, life.run.reader.any fun reader => decide (Pool.AtWork reader))) =
            some (some (.crash (.store "boom 0")), true) := by
    decide +kernel
  obtain ⟨life, ran, seen⟩ := Option.map_eq_some_iff.mp ended
  obtain ⟨failed, some_atWork⟩ := Prod.mk.inj seen
  obtain ⟨reader, known, atWork⟩ := exists_atWork _ some_atWork
  exact ⟨_, lines, life, reader, prepared, ran, raised_of_failure? life _ failed, known, atWork⟩

end RunLife

end LoadVerifier
