/-
This file follows a run on a store that does what it likes: its calls may be refused or break, keys
of the range may have no record, and the threads take their turns in any order. A started writer
keeps its ledger all the same, and a started reader its account.

The settings of a run that could be prepared are within the limits, but for the numbers of workers,
which are checked only when the pools are started. A run that is refused a start is over: its main
thread takes no step any more, and the pool that was refused has no workers.
-/
import LoadVerifier.Proofs.RunEnd

namespace LoadVerifier

variable {Storage : Type} {options : Options} {mayInterrupt : Prop}

/-! ### Whatever the store does -/

/-- Anything may happen to the store. -/
def Conduct.any (Storage : Type) (options : Options) (mayInterrupt : Prop) : Conduct Storage where
  regular _ := True
  writing life := life.Kept options.writePlan
  reading audit := ReaderAudit.Kept options.readPlan audit
  mayInterrupt := mayInterrupt

theorem Conduct.any_kept [Store Storage] : (Conduct.any Storage options mayInterrupt).Kept options
    where
  writer_starts threads writer store starts _ :=
    WriterLife.kept_of_starts threads writer starts store
  writer_works _ _ _ kept _ worked := ⟨WriterLife.Kept.work kept worked, trivial⟩
  writer_stops _ _ kept := WriterLife.Kept.stop kept
  writer_outside _ store kept := WriterLife.Kept.outside kept store
  writer_faithful _ kept := kept.faithful
  writer_counted _ kept := kept.counted
  writer_staffed _ kept := kept.some_worker
  reader_starts threads reader world starts _ :=
    ReaderAudit.kept_of_starts options.readPlan threads reader starts world
  reader_works _ worker _ kept _ worked :=
    ⟨ReaderAudit.Kept.step kept (.work worker) worked, trivial⟩
  reader_stops _ _ kept := ReaderAudit.Kept.step kept .stop rfl
  reader_outside _ world kept := ReaderAudit.Kept.outside kept world
  reader_kept _ kept := kept

namespace RunLife

variable {conduct : Conduct Storage} {life next : RunLife Storage} {now : Float}

/-! ### Refused starts -/

/-- A run is under way, or it is over because a pool was refused its start. -/
inductive Pursued (conduct : Conduct Storage) (options : Options) (life : RunLife Storage) : Prop
  | underway (underway : Underway conduct options life)
  | writerRefused (spec : WriteSpec) (asked : options.write = some spec)
      (impossible : ¬(1 ≤ spec.threads ∧ spec.threads ≤ maxThreads))
      (raised : life.run.phase =
        .raised (.config (.threadsOutOfRange Writer.poolName spec.threads)))
      (writer : ∀ writer, life.run.writer = some writer →
        writer.started = false ∧ writer.roster = none)
      (reader : ∀ reader, life.run.reader = some reader →
        reader.started = false ∧ reader.roster = none)
  | readerRefused (spec : ReadSpec) (asked : options.read = some spec)
      (impossible : ¬(1 ≤ spec.threads ∧ spec.threads ≤ maxThreads))
      (raised : life.run.phase =
        .raised (.config (.threadsOutOfRange Reader.poolName spec.threads)))
      (reader : ∀ reader, life.run.reader = some reader →
        reader.started = false ∧ reader.roster = none)

/-- A main thread that has failed takes no step, and is not interrupted. -/
theorem not_mainMove_of_raised {run : Run Storage} {failure : Failure}
    (raised : life.run.phase = .raised failure) : ¬life.run.MainMove now run := by
  intro move
  have forward := stepsLeft_lt_of_mainMove move
  rw [raised] at forward
  exact Nat.not_lt_zero _ forward

/-- A pool that is not started yet has no range and no workers. -/
theorem Underway.writer_unstarted (underway : Underway conduct options life)
    (before : life.run.phase.isBeforeWriter = true) (writer : Writer)
    (known : life.run.writer = some writer) : writer.started = false ∧ writer.roster = none := by
  have standing := underway.writer
  rw [known] at standing
  exact (conduct.writerPass options life).unstarted writer (standing.ready_of_before before)

/-- A pool that is not started yet has no range and no workers. -/
theorem Underway.reader_unstarted (underway : Underway conduct options life)
    (before : life.run.phase.isBeforeReader = true) (reader : Reader)
    (known : life.run.reader = some reader) : reader.started = false ∧ reader.roster = none := by
  have standing := underway.reader
  rw [known] at standing
  exact (conduct.readerPass options life).unstarted reader (standing.ready_of_before before)

/-- A refused start ends a run that was under way. -/
theorem Underway.pursued_of_refused (underway : Underway conduct options life) (run : Run Storage)
    (refused : Refused life.run run) : Pursued conduct options { life with run } := by
  cases refused with
  | writer spec atStart asked impossible =>
    exact .writerRefused spec (underway.options_eq ▸ asked) impossible rfl
      (underway.writer_unstarted (by rw [atStart]; rfl))
      (underway.reader_unstarted (by rw [atStart]; rfl))
  | reader spec atStart asked impossible =>
    exact .readerRefused spec (underway.options_eq ▸ asked) impossible rfl
      (underway.reader_unstarted (by rw [atStart]; rfl))

/-- A run that has reported was under way up to there. -/
theorem Pursued.underway_of_reported (pursued : Pursued conduct options life) (report : Report)
    (reported : life.run.phase = .reported report) : Underway conduct options life := by
  cases pursued with
  | underway underway => exact underway
  | writerRefused spec asked impossible raised => cases reported.symm.trans raised
  | readerRefused spec asked impossible raised => cases reported.symm.trans raised

section Steps

variable [Store Storage]

/-- Only the workers of a pool that has some take steps after the main thread has failed. -/
theorem step_of_raised {failure : Failure} (raised : life.run.phase = .raised failure)
    (event : RunEvent) (stepped : life.step event = some next) :
    (∃ writer after worker, life.run.writer = some writer ∧ writer.roster.isSome ∧
        (life.writing writer).work worker = some after ∧ next = life.withWriter after) ∨
      ∃ reader after worker, life.run.reader = some reader ∧ reader.roster.isSome ∧
        (life.reading reader).work worker = some after ∧ next = life.withReader after := by
  obtain ⟨actor, now⟩ := event
  cases actor with
  | main =>
    obtain ⟨run, move, _⟩ := step_main stepped
    exact absurd move (not_mainMove_of_raised raised)
  | writer worker =>
    obtain ⟨writer, after, known, worked, equal⟩ := step_writer stepped
    have staffed := (WriterLife.stepped_of_work worked).isSome_roster
    exact Or.inl ⟨writer, after, worker, known, staffed, worked, equal⟩
  | reader worker =>
    obtain ⟨reader, after, known, worked, equal⟩ := step_reader stepped
    have staffed := (ReaderAudit.stepped_of_work worked).isSome_roster
    exact Or.inr ⟨reader, after, worker, known, staffed, worked, equal⟩
  | interrupt =>
    obtain ⟨allowed, _⟩ := step_interrupt stepped
    rw [raised] at allowed
    cases allowed

/-- Every step of a run that is pursued leaves one that is. -/
theorem Pursued.step (kept : conduct.Kept options) (readable : options.Readable)
    (pursued : Pursued conduct options life) (event : RunEvent)
    (allowed : event.1 = .interrupt → conduct.mayInterrupt)
    (stepped : life.step event = some next) : Pursued conduct options next := by
  cases pursued with
  | underway underway =>
    by_cases isMain : event.1 = .main
    · obtain ⟨actor, now⟩ := event
      subst isMain
      obtain ⟨run, move, rfl⟩ := step_main stepped
      rcases underway.main_or_refused kept readable run move with still | refused
      · exact .underway still
      · exact underway.pursued_of_refused run refused
    · exact .underway (underway.step_of_other kept event isMain allowed stepped)
  | writerRefused spec asked impossible raised writer reader =>
    -- Neither pool has workers, so nothing can happen any more.
    rcases step_of_raised raised event stepped with
      ⟨pool, after, worker, known, staffed, _⟩ | ⟨pool, after, worker, known, staffed, _⟩
    · rw [(writer pool known).2] at staffed
      cases staffed
    · rw [(reader pool known).2] at staffed
      cases staffed
  | readerRefused spec asked impossible raised reader =>
    -- The writer was started before the refusal, and its workers go on.
    rcases step_of_raised raised event stepped with
      ⟨pool, after, worker, known, staffed, worked, rfl⟩ | ⟨pool, after, worker, known, staffed, _⟩
    · exact .readerRefused spec asked impossible raised reader
    · rw [(reader pool known).2] at staffed
      cases staffed

/-- A run that could be prepared is pursued on every schedule; where there may be no interrupt, on
every schedule without one. -/
theorem pursued_of_replay (kept : conduct.Kept options) (store : Storage)
    (isRegular : conduct.regular store) (run : Run Storage) (lines : List Line)
    (prepared : Run.prepare options store = .ok (run, lines)) (schedule : List RunEvent)
    (allowed : ∀ event ∈ schedule, event.1 = .interrupt → conduct.mayInterrupt)
    (ran : replay RunLife.step { run } schedule = some life) : Pursued conduct options life := by
  obtain ⟨readable, rfl⟩ := (Run.prepare_eq_ok_iff options store run).mp ⟨lines, prepared⟩
  exact replay_invariant_of_allowed (fun event => event.1 = .interrupt → conduct.mayInterrupt)
    (Pursued conduct options)
    (fun _ event _ isAllowed pursued stepped =>
      pursued.step kept readable event isAllowed stepped)
    _ life schedule allowed (.underway (underway_ready conduct store isRegular)) ran

end Steps

end RunLife

end LoadVerifier
