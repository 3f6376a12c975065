/-
This file follows a run through every schedule. At each moment the run stands in a known way with
its two passes; a pool that was started has whatever property it is known to have from its start on;
and the run fails only when a worker of some pool has crashed.

What is known of a started pool depends on the store and on the question, so it is a parameter: a
`Conduct` says it for the writer and for the reader, and may be any property that a pool has when it
starts and that nothing takes away.
-/
import LoadVerifier.Proofs.RunStanding

namespace LoadVerifier

open Pool (FailsWith Spoiled)

/-! ### What is known of started pools -/

/-- What is known of the store, of a started writer and of a started reader; and whether there may
be an interrupt. -/
structure Conduct (Storage : Type) where
  regular : Storage → Prop
  writing : WriterLife Storage → Prop
  reading : ReaderAudit Storage Writer → Prop
  mayInterrupt : Prop

namespace Conduct

variable {Storage : Type}

/-- The pools have the property from their start on, and nothing takes it away. -/
structure Kept [Store Storage] (conduct : Conduct Storage) (options : Options) : Prop where
  writer_starts : ∀ threads writer store, options.writePlan.Starts threads writer →
    conduct.regular store → conduct.writing ⟨writer, store, {}⟩
  writer_works : ∀ life worker next, conduct.writing life → conduct.regular life.store →
    life.work worker = some next → conduct.writing next ∧ conduct.regular next.store
  writer_stops : conduct.mayInterrupt → ∀ life, conduct.writing life →
    conduct.writing { life with writer := life.writer.stop }
  writer_outside : ∀ life store, conduct.writing life → conduct.writing { life with store }
  writer_faithful : ∀ life, conduct.writing life → life.Faithful options.writePlan
  writer_counted : ∀ life, conduct.writing life → Pool.Counted life.writer
  writer_staffed : ∀ life, conduct.writing life → 0 < Pool.workerCount life.writer
  reader_starts : ∀ threads reader world, options.readPlan.Starts threads reader →
    conduct.regular world.store → conduct.reading ⟨reader, world, {}⟩
  reader_works : ∀ audit worker next, conduct.reading audit → conduct.regular audit.world.store →
    audit.work worker = some next → conduct.reading next ∧ conduct.regular next.world.store
  reader_stops : conduct.mayInterrupt → ∀ audit, conduct.reading audit →
    conduct.reading { audit with reader := audit.reader.stop }
  reader_outside : ∀ audit world, conduct.reading audit → conduct.reading { audit with world }
  reader_kept : ∀ audit, conduct.reading audit → ReaderAudit.Kept options.readPlan audit

/-- The write pass of a run. -/
def writerPass (conduct : Conduct Storage) (options : Options) (life : RunLife Storage) :
    RunPass WriterState WriterTask WriteResult where
  ready? := options.write.map fun _ => options.writePlan.ready
  unstarted pool ready := by
    obtain ⟨_, _, rfl⟩ := Option.map_eq_some_iff.mp ready
    exact ⟨rfl, rfl⟩
  untouched := life.ledger = {}
  going writer := conduct.writing (life.writing writer)
  resultOf := Writer.result
  isBefore := Phase.isBeforeWriter
  isAfter := Phase.isAfterWriter
  mayInterrupt := conduct.mayInterrupt

/-- The read pass of a run. The reader starts after the writer. -/
def readerPass (conduct : Conduct Storage) (options : Options) (life : RunLife Storage) :
    RunPass ReaderState ReaderTask ReadResult where
  ready? := options.read.map fun _ => options.readPlan.ready
  unstarted pool ready := by
    obtain ⟨_, _, rfl⟩ := Option.map_eq_some_iff.mp ready
    exact ⟨rfl, rfl⟩
  untouched := life.account = {}
  going reader := conduct.reading (life.reading reader) ∧
    ∀ writer, life.run.writer = some writer → writer.started = true
  resultOf := Reader.result
  isBefore := Phase.isBeforeReader
  isAfter := Phase.isAfterReader
  mayInterrupt := conduct.mayInterrupt

end Conduct

namespace RunLife

variable {Storage : Type} {conduct : Conduct Storage} {options : Options}
  {life next : RunLife Storage} {now : Float} {worker : Nat}

/-- Which wait has failed: that for the writer; or that for the reader, when there was no writer to
wait for any more. -/
inductive FailedWait (run : Run Storage) (failure : Failure) : Prop
  | writer (writer : Writer) (known : run.writer = some writer) (fails : FailsWith writer failure)
  | reader (reader : Reader) (known : run.reader = some reader) (fails : FailsWith reader failure)
      (settled : ∀ writer, run.writer = some writer → Pool.finished writer = true)

/-- How a run stands, with both of its passes. -/
structure Underway (conduct : Conduct Storage) (options : Options) (life : RunLife Storage) :
    Prop where
  options_eq : life.run.options = options
  regular : conduct.regular life.run.store
  writer : (conduct.writerPass options life).Standing life.run.phase life.run.writer
    life.run.writeResult
  reader : (conduct.readerPass options life).Standing life.run.phase life.run.reader
    life.run.readResult
  interrupted : life.run.phase.isInterrupted = true → conduct.mayInterrupt
  reported : ∀ report, life.run.phase = .reported report → report = life.run.report
  raised : ∀ failure, life.run.phase = .raised failure → FailedWait life.run failure

/-! ### Started pools -/

section Started

variable [Store Storage] (kept : conduct.Kept options)

include kept

theorem started_of_writing (writing : WriterLife Storage) (goes : conduct.writing writing) :
    writing.writer.started = true := by
  obtain ⟨cursor, known, _⟩ := (kept.writer_faithful writing goes).accounted.claimed
  rw [Pool.started, known]
  rfl

theorem started_of_reading (audit : ReaderAudit Storage Writer) (goes : conduct.reading audit) :
    audit.reader.started = true := by
  obtain ⟨cursor, known, _⟩ := (kept.reader_kept audit goes).claimed
  rw [Pool.started, known]
  rfl

/-- A wait for a started writer that fails finds a crash. -/
theorem failsWith_of_writer_wait (writer : Writer) (goes : conduct.writing (life.writing writer))
    (failure : Failure) (waited : writer.wait = some (.error failure)) :
    FailsWith writer failure := by
  obtain ⟨joined, waits, equal⟩ := Option.map_eq_some_iff.mp waited
  cases joined with
  | ok value => cases equal
  | error other =>
    cases equal
    exact (kept.writer_counted _ goes).failsWith_of_join _ (kept.writer_staffed _ goes) failure
      waits

/-- A wait for a started reader that fails finds a crash. -/
theorem failsWith_of_reader_wait (reader : Reader) (goes : conduct.reading (life.reading reader))
    (failure : Failure) (waited : reader.wait = some (.error failure)) :
    FailsWith reader failure := by
  have isKept := kept.reader_kept _ goes
  obtain ⟨joined, waits, equal⟩ := Option.map_eq_some_iff.mp waited
  cases joined with
  | ok value => cases equal
  | error other =>
    cases equal
    exact isKept.counted.failsWith_of_join _ isKept.some_worker failure waits

end Started

/-! ### The main thread goes on -/

section GoesOn

variable {before later : Phase} {writeResult : Option WriteResult} {readResult : Option ReadResult}

theorem writer_goesOn [Store Storage] (kept : conduct.Kept options)
    (options_eq : life.run.options = options)
    (standing : (conduct.writerPass options life).Standing before life.run.writer writeResult)
    (goes : life.run.GoesOn before later) :
    (conduct.writerPass options life).Standing later life.run.writer writeResult := by
  cases goes with
  | writeAnnounced => exact standing.goesOn _ Or.inl id id Or.inl
  | nothingToWrite unasked =>
    exact standing.goesOn _ (fun _ => Or.inr unasked) (fun _ => rfl) id Or.inl
  | writeSkipped unasked =>
    have none : life.run.writer = none := unasked.elim id fun none =>
      standing.eq_none_of_unasked (by
        show Option.map _ options.write = _
        rw [← options_eq, none]
        rfl)
    exact standing.goesOn _ (fun _ => Or.inr none) (fun _ => rfl) id Or.inl
  | readAnnounced => exact standing.goesOn _ Or.inl id id Or.inl
  | nothingToRead => exact standing.goesOn _ Or.inl id id Or.inl
  | readSkipped => exact standing.goesOn _ Or.inl id id Or.inl
  | noWriter unasked =>
    refine standing.goesOn _ Or.inl id id fun _ => Or.inr fun writer known => ?_
    cases unasked.symm.trans known
  | noReader => exact standing.goesOn _ Or.inl id (fun _ => rfl) Or.inl
  | writerUnstarted unstarted =>
    refine standing.goesOn _ Or.inl id id fun _ => Or.inr fun writer known goes => ?_
    exact Bool.noConfusion ((unstarted writer known).symm.trans (started_of_writing kept _ goes))
  | readerUnstarted => exact standing.goesOn _ Or.inl id id Or.inl

theorem reader_goesOn [Store Storage] (kept : conduct.Kept options)
    (options_eq : life.run.options = options)
    (standing : (conduct.readerPass options life).Standing before life.run.reader readResult)
    (goes : life.run.GoesOn before later) :
    (conduct.readerPass options life).Standing later life.run.reader readResult := by
  cases goes with
  | writeAnnounced => exact standing.goesOn _ Or.inl id id Or.inl
  | nothingToWrite => exact standing.goesOn _ Or.inl id id Or.inl
  | writeSkipped => exact standing.goesOn _ Or.inl id id Or.inl
  | readAnnounced => exact standing.goesOn _ Or.inl id id Or.inl
  | nothingToRead unasked =>
    exact standing.goesOn _ (fun _ => Or.inr unasked) (fun _ => rfl) id Or.inl
  | readSkipped unasked =>
    have none : life.run.reader = none := unasked.elim id fun none =>
      standing.eq_none_of_unasked (by
        show Option.map _ options.read = _
        rw [← options_eq, none]
        rfl)
    exact standing.goesOn _ (fun _ => Or.inr none) (fun _ => rfl) id Or.inl
  | noWriter => exact standing.goesOn _ Or.inl id id Or.inl
  | noReader unasked =>
    refine standing.goesOn _ Or.inl id (fun _ => rfl) fun _ => Or.inr fun reader known => ?_
    cases unasked.symm.trans known
  | writerUnstarted => exact standing.goesOn _ Or.inl id id Or.inl
  | readerUnstarted unstarted =>
    refine standing.goesOn _ Or.inl id id fun _ => Or.inr fun reader known goes => ?_
    exact Bool.noConfusion ((unstarted reader known).symm.trans (started_of_reading kept _ goes.1))

end GoesOn

/-! ### Every step keeps the run standing -/

section Steps

variable [Store Storage] (kept : conduct.Kept options) (possible : options.Possible)

include kept

omit [Store Storage] kept in
/-- The main thread goes on to no end, and does not deal with an interrupt that did not come. -/
theorem phase_of_goesOn {before later : Phase} (goes : life.run.GoesOn before later) :
    (later.isInterrupted = true → before.isInterrupted = true) ∧
      (∀ report, later ≠ .reported report) ∧ ∀ failure, later ≠ .raised failure := by
  cases goes with
  | readerUnstarted => exact ⟨nofun, fun _ => nofun, fun _ => nofun⟩
  | _ => exact ⟨id, fun _ => nofun, fun _ => nofun⟩

theorem Underway.goesOn (underway : Underway conduct options life) (phase : Phase)
    (goes : life.run.GoesOn life.run.phase phase) :
    Underway conduct options { life with run := { life.run with phase } } := by
  have writer := writer_goesOn kept underway.options_eq underway.writer goes
  have reader := reader_goesOn kept underway.options_eq underway.reader goes
  obtain ⟨interrupted, unreported, unraised⟩ := phase_of_goesOn goes
  exact {
    options_eq := underway.options_eq
    regular := underway.regular
    writer
    reader
    interrupted := fun isInterrupted => underway.interrupted (interrupted isInterrupted)
    reported := fun report equal => absurd equal (unreported report)
    raised := fun failure equal => absurd equal (unraised failure) }

omit [Store Storage] kept in
/-- A possible number of workers is given to the writer. -/
theorem Underway.startWriter_eq (underway : Underway conduct options life) (writer : Writer)
    (spec : WriteSpec) (atStart : life.run.phase = .startWrite)
    (known : life.run.writer = some writer)
    (threads : 1 ≤ spec.threads ∧ spec.threads ≤ maxThreads) :
    life.run.startWriter writer spec now = { life.run with
      writer := some (options.writePlan.idle.spawn .checkStop spec.threads now)
      phase := .announceRead } := by
  have standing := underway.writer
  rw [atStart, known] at standing
  have started : writer.start life.run.options.range spec.threads now =
      .ok (options.writePlan.idle.spawn .checkStop spec.threads now) := by
    obtain ⟨_, _, rfl⟩ := Option.map_eq_some_iff.mp (standing.ready_of_before rfl)
    rw [underway.options_eq]
    exact options.writePlan.start_ready spec.threads now threads
  rw [Run.startWriter, started]

theorem Underway.startsWriter (underway : Underway conduct options life) (writer : Writer)
    (spec : WriteSpec) (atStart : life.run.phase = .startWrite)
    (known : life.run.writer = some writer)
    (threads : 1 ≤ spec.threads ∧ spec.threads ≤ maxThreads) :
    Underway conduct options { life with run := life.run.startWriter writer spec now } := by
  have standing := underway.writer
  have reading := underway.reader
  rw [atStart, known] at standing
  rw [atStart] at reading
  rw [underway.startWriter_eq writer spec atStart known threads]
  exact {
    options_eq := underway.options_eq
    regular := underway.regular
    writer := standing.starts rfl .announceRead rfl rfl _ _ fun _ untouched => by
      show conduct.writing ⟨_, _, life.ledger⟩
      rw [show life.ledger = {} from untouched]
      exact kept.writer_starts spec.threads _ _
        (options.writePlan.starts_idle spec.threads now threads) underway.regular
    reader := reading.early rfl .announceRead rfl _
    interrupted := nofun
    reported := fun _ => nofun
    raised := fun _ => nofun }

omit [Store Storage] kept in
/-- A possible number of workers is given to the reader. -/
theorem Underway.startReader_eq (underway : Underway conduct options life) (reader : Reader)
    (spec : ReadSpec) (atStart : life.run.phase = .startRead)
    (known : life.run.reader = some reader)
    (threads : 1 ≤ spec.threads ∧ spec.threads ≤ maxThreads) :
    life.run.startReader reader spec now = { life.run with
      reader := some (options.readPlan.idle.spawn .seed spec.threads now)
      phase := .awaitWrite } := by
  have standing := underway.reader
  rw [atStart, known] at standing
  have started : reader.start life.run.options.range spec.threads now =
      .ok (options.readPlan.idle.spawn .seed spec.threads now) := by
    obtain ⟨_, _, rfl⟩ := Option.map_eq_some_iff.mp (standing.ready_of_before rfl)
    rw [underway.options_eq]
    exact options.readPlan.start_ready spec.threads now threads
  rw [Run.startReader, started]

theorem Underway.startsReader (underway : Underway conduct options life) (reader : Reader)
    (spec : ReadSpec) (atStart : life.run.phase = .startRead)
    (known : life.run.reader = some reader)
    (threads : 1 ≤ spec.threads ∧ spec.threads ≤ maxThreads)
    (possible : options.readPlan.Possible) :
    Underway conduct options { life with run := life.run.startReader reader spec now } := by
  have standing := underway.reader
  have writing := underway.writer
  rw [atStart, known] at standing
  rw [atStart] at writing
  rw [underway.startReader_eq reader spec atStart known threads]
  exact {
    options_eq := underway.options_eq
    regular := underway.regular
    writer := writing.goesOn .awaitWrite Or.inl id id Or.inl
    reader := standing.starts rfl .awaitWrite rfl rfl _ _ fun _ untouched => by
      refine ⟨?_, fun writer known => ?_⟩
      · show conduct.reading ⟨_, _, life.account⟩
        rw [show life.account = {} from untouched]
        exact kept.reader_starts spec.threads _ _ ⟨_, now,
          options.readPlan.configure_new possible,
          options.readPlan.start_ready spec.threads now threads⟩ underway.regular
      · rw [show life.run.writer = some writer from known] at writing
        exact started_of_writing kept _ (writing.goes_of_late rfl nofun)
    interrupted := nofun
    reported := fun _ => nofun
    raised := fun _ => nofun }

/-- The main thread fails to start a pool, because the number of its workers is not possible. -/
inductive Refused (run : Run Storage) : Run Storage → Prop
  | writer (spec : WriteSpec) (atStart : run.phase = .startWrite)
      (asked : run.options.write = some spec)
      (impossible : ¬(1 ≤ spec.threads ∧ spec.threads ≤ maxThreads)) :
      Refused run { run with
        phase := .raised (.config (.threadsOutOfRange Writer.poolName spec.threads)) }
  | reader (spec : ReadSpec) (atStart : run.phase = .startRead)
      (asked : run.options.read = some spec)
      (impossible : ¬(1 ≤ spec.threads ∧ spec.threads ≤ maxThreads)) :
      Refused run { run with
        phase := .raised (.config (.threadsOutOfRange Reader.poolName spec.threads)) }

omit [Store Storage] kept in
theorem Underway.refusesWriter (underway : Underway conduct options life) (writer : Writer)
    (spec : WriteSpec) (atStart : life.run.phase = .startWrite)
    (known : life.run.writer = some writer) (asked : life.run.options.write = some spec)
    (impossible : ¬(1 ≤ spec.threads ∧ spec.threads ≤ maxThreads)) :
    Refused life.run (life.run.startWriter writer spec now) := by
  have standing := underway.writer
  rw [atStart, known] at standing
  have refused : writer.start life.run.options.range spec.threads now =
      .error (.threadsOutOfRange Writer.poolName spec.threads) := by
    obtain ⟨_, _, rfl⟩ := Option.map_eq_some_iff.mp (standing.ready_of_before rfl)
    rw [underway.options_eq]
    exact options.writePlan.start_ready_eq_error spec.threads now impossible
  rw [Run.startWriter, refused]
  exact .writer spec atStart asked impossible

omit [Store Storage] kept in
theorem Underway.refusesReader (underway : Underway conduct options life) (reader : Reader)
    (spec : ReadSpec) (atStart : life.run.phase = .startRead)
    (known : life.run.reader = some reader) (asked : life.run.options.read = some spec)
    (impossible : ¬(1 ≤ spec.threads ∧ spec.threads ≤ maxThreads)) :
    Refused life.run (life.run.startReader reader spec now) := by
  have standing := underway.reader
  rw [atStart, known] at standing
  have refused : reader.start life.run.options.range spec.threads now =
      .error (.threadsOutOfRange Reader.poolName spec.threads) := by
    obtain ⟨_, _, rfl⟩ := Option.map_eq_some_iff.mp (standing.ready_of_before rfl)
    rw [underway.options_eq]
    exact options.readPlan.start_ready_eq_error spec.threads now impossible
  rw [Run.startReader, refused]
  exact .reader spec atStart asked impossible

omit [Store Storage] kept in
/-- The main thread waits only for a writer that was started. -/
theorem Underway.goes_of_awaitsWriter (underway : Underway conduct options life) (writer : Writer)
    (phase : Phase) (awaits : Run.AwaitsWriter writer life.run.phase phase)
    (known : life.run.writer = some writer) : conduct.writing (life.writing writer) := by
  have standing := underway.writer
  rw [known] at standing
  generalize life.run.phase = before at standing awaits
  cases awaits with
  | running => exact standing.goes_of_late rfl nofun
  | stopped started => exact standing.goes_of_late rfl fun _ => started

omit [Store Storage] kept in
/-- The main thread waits only for a reader that was started. -/
theorem Underway.goes_of_awaitsReader (underway : Underway conduct options life) (reader : Reader)
    (phase : Phase) (awaits : Run.AwaitsReader reader life.run.phase phase)
    (known : life.run.reader = some reader) : (conduct.readerPass options life).going reader := by
  have standing := underway.reader
  rw [known] at standing
  generalize life.run.phase = before at standing awaits
  cases awaits with
  | running => exact standing.goes_of_late rfl nofun
  | stopped started => exact standing.goes_of_late rfl fun _ => started

omit [Store Storage] kept in
/-- A writer that has workers was started. -/
theorem Underway.writer_goes_of_staffed (underway : Underway conduct options life)
    (writer : Writer) (known : life.run.writer = some writer) (staffed : writer.roster.isSome) :
    conduct.writing (life.writing writer) := by
  have standing := underway.writer
  rw [known] at standing
  exact standing.goes_of_staffed staffed

omit [Store Storage] kept in
/-- A reader that has workers was started. -/
theorem Underway.reader_goes_of_staffed (underway : Underway conduct options life)
    (reader : Reader) (known : life.run.reader = some reader) (staffed : reader.roster.isSome) :
    conduct.reading (life.reading reader) := by
  have standing := underway.reader
  rw [known] at standing
  exact (standing.goes_of_staffed staffed).1

omit [Store Storage] kept in
/-- A writer has no workers, or it was started. -/
theorem Underway.writer_unstaffed_or_goes (underway : Underway conduct options life)
    (writer : Writer) (known : life.run.writer = some writer) :
    writer.roster = none ∨ conduct.writing (life.writing writer) := by
  have standing := underway.writer
  rw [known] at standing
  exact standing.unstaffed_or_goes

omit [Store Storage] kept in
/-- A reader has no workers, or it was started. -/
theorem Underway.reader_unstaffed_or_goes (underway : Underway conduct options life)
    (reader : Reader) (known : life.run.reader = some reader) :
    reader.roster = none ∨ conduct.reading (life.reading reader) := by
  have standing := underway.reader
  rw [known] at standing
  exact standing.unstaffed_or_goes.imp id And.left

theorem Underway.takesWrite (underway : Underway conduct options life) (writer : Writer)
    (result : WriteResult) (phase : Phase)
    (awaits : Run.AwaitsWriter writer life.run.phase phase) (known : life.run.writer = some writer)
    (waited : writer.wait = some (.ok result)) :
    Underway conduct options
      { life with run := { life.run with writeResult := some result, phase } } := by
  have goes := underway.goes_of_awaitsWriter writer phase awaits known
  obtain ⟨joined, rfl⟩ := Writer.wait_eq_ok writer result waited
  have finished :=
    (kept.writer_counted _ goes).finished_of_join _ (kept.writer_staffed _ goes) _ joined
  have unspoiled := (kept.writer_counted _ goes).unspoiled_of_join _ finished joined
  have standing := underway.writer
  have reading := underway.reader
  have interrupted := underway.interrupted
  rw [known] at standing
  generalize life.run.phase = before at standing reading awaits interrupted
  have later : (conduct.writerPass options life).isBefore phase = false := by cases awaits <;> rfl
  exact {
    options_eq := underway.options_eq
    regular := underway.regular
    writer := known ▸ standing.takes goes finished unspoiled phase later
    reader := by cases awaits <;> exact reading.goesOn _ Or.inl id id Or.inl
    interrupted := by cases awaits <;> exact interrupted
    reported := fun report equal => by subst equal; cases awaits
    raised := fun failure equal => by subst equal; cases awaits }

theorem Underway.takesRead (underway : Underway conduct options life) (reader : Reader)
    (result : ReadResult) (phase : Phase)
    (awaits : Run.AwaitsReader reader life.run.phase phase) (known : life.run.reader = some reader)
    (waited : reader.wait = some (.ok result)) :
    Underway conduct options
      { life with run := { life.run with readResult := some result, phase } } := by
  have goes := underway.goes_of_awaitsReader reader phase awaits known
  obtain ⟨joined, rfl⟩ := Reader.wait_eq_ok reader result waited
  have isKept := kept.reader_kept _ goes.1
  have finished := isKept.counted.finished_of_join _ isKept.some_worker _ joined
  have unspoiled := isKept.counted.unspoiled_of_join _ finished joined
  have standing := underway.reader
  have writing := underway.writer
  rw [known] at standing
  generalize life.run.phase = before at standing writing awaits
  have later : (conduct.readerPass options life).isBefore phase = false := by cases awaits <;> rfl
  exact {
    options_eq := underway.options_eq
    regular := underway.regular
    writer := by
      cases awaits with
      | running => exact writing.goesOn _ Or.inl id (fun _ => rfl) Or.inl
      | stopped => exact writing.goesOn _ Or.inl id id Or.inl
    reader := known ▸ standing.takes goes finished unspoiled phase later
    interrupted := by cases awaits <;> exact nofun
    reported := fun report equal => by subst equal; cases awaits
    raised := fun failure equal => by subst equal; cases awaits }

omit [Store Storage] kept in
/-- The main thread fails where it waits for a pool in which a worker has crashed. -/
theorem Underway.raises (underway : Underway conduct options life) (failure : Failure)
    (late : life.run.phase.isBeforeReader = false) (failed : FailedWait life.run failure) :
    Underway conduct options { life with run := { life.run with phase := .raised failure } } where
  options_eq := underway.options_eq
  regular := underway.regular
  writer := by
    refine underway.writer.goesOn _ (fun before => ?_) (fun _ => rfl) (fun _ => rfl) nofun
    have early := Phase.isBeforeReader_of_isBeforeWriter before
    exact Bool.noConfusion (late.symm.trans early)
  reader := underway.reader.goesOn _ (fun before => Bool.noConfusion (late.symm.trans before))
    (fun _ => rfl) (fun _ => rfl) nofun
  interrupted := nofun
  reported := fun _ => nofun
  raised := fun other equal => by
    cases equal
    cases failed with
    | writer writer known fails => exact .writer writer known fails
    | reader reader known fails settled => exact .reader reader known fails settled

theorem Underway.raisesWrite (underway : Underway conduct options life) (writer : Writer)
    (failure : Failure) (phase : Phase)
    (awaits : Run.AwaitsWriter writer life.run.phase phase) (known : life.run.writer = some writer)
    (waited : writer.wait = some (.error failure)) :
    Underway conduct options { life with run := { life.run with phase := .raised failure } } := by
  have goes := underway.goes_of_awaitsWriter writer phase awaits known
  have fails := failsWith_of_writer_wait kept writer goes failure waited
  exact underway.raises failure awaits.late (.writer writer known fails)

omit [Store Storage] kept in
/-- When the main thread waits for the reader, there is no writer, or it is finished. -/
theorem Underway.settled (underway : Underway conduct options life) (reader : Reader)
    (phase : Phase) (known : life.run.reader = some reader)
    (awaits : Run.AwaitsReader reader life.run.phase phase) :
    ReaderAudit.Settled (life.reading reader).world := by
  have goes := underway.goes_of_awaitsReader reader phase awaits known
  intro writer source
  have standing := underway.writer
  rw [show life.run.writer = some writer from source] at standing
  generalize life.run.phase = before at standing awaits
  cases awaits <;> exact (standing.taken_of_after rfl rfl (goes.2 writer source)).1

theorem Underway.raisesRead (underway : Underway conduct options life) (reader : Reader)
    (failure : Failure) (phase : Phase)
    (awaits : Run.AwaitsReader reader life.run.phase phase) (known : life.run.reader = some reader)
    (waited : reader.wait = some (.error failure)) :
    Underway conduct options { life with run := { life.run with phase := .raised failure } } := by
  have goes := underway.goes_of_awaitsReader reader phase awaits known
  have fails := failsWith_of_reader_wait kept reader goes.1 failure waited
  have settled := underway.settled reader phase known awaits
  exact underway.raises failure awaits.late (.reader reader known fails settled)

theorem Underway.stops (underway : Underway conduct options life)
    (interrupted : life.run.phase = .stopping) :
    Underway conduct options { life with run := { life.run with
      writer := life.run.writer.map Pool.stop
      reader := life.run.reader.map Pool.stop
      phase := .awaitStoppedWrite } } := by
  have writing := underway.writer
  have reading := underway.reader
  have mayInterrupt := underway.interrupted
  rw [interrupted] at writing reading mayInterrupt
  exact {
    options_eq := underway.options_eq
    regular := underway.regular
    writer := writing.stops rfl .awaitStoppedWrite rfl id rfl _ fun writer goes =>
      kept.writer_stops (mayInterrupt rfl) _ goes
    reader := reading.stops rfl .awaitStoppedWrite rfl id rfl _ fun reader goes =>
      ⟨kept.reader_outside _ ⟨life.run.store, life.run.writer.map Pool.stop⟩
        (kept.reader_stops (mayInterrupt rfl) _ goes.1), fun writer known => by
          obtain ⟨before, was, rfl⟩ := Option.map_eq_some_iff.mp known
          exact goes.2 before was⟩
    interrupted := mayInterrupt
    reported := fun _ => nofun
    raised := fun _ => nofun }

omit [Store Storage] kept in
theorem Underway.reports (underway : Underway conduct options life)
    (closing : life.run.phase = .closing) :
    Underway conduct options
      { life with run := { life.run with phase := .reported life.run.report } } := by
  have writing := underway.writer
  have reading := underway.reader
  rw [closing] at writing reading
  exact {
    options_eq := underway.options_eq
    regular := underway.regular
    writer := writing.goesOn _ Or.inl id id Or.inl
    reader := reading.goesOn _ Or.inl id id Or.inl
    interrupted := nofun
    reported := fun _ equal => (Phase.reported.inj equal).symm
    raised := fun _ => nofun }

/-- A step of the main thread keeps the run standing, or a pool is refused its start. -/
theorem Underway.main_or_refused (underway : Underway conduct options life)
    (readable : options.Readable) (run : Run Storage)
    (move : life.run.MainMove now run) :
    Underway conduct options { life with run } ∨ Refused life.run run := by
  cases move with
  | goesOn phase goes => exact Or.inl (underway.goesOn kept phase goes)
  | startsWriter writer spec atStart known asked =>
    by_cases threads : 1 ≤ spec.threads ∧ spec.threads ≤ maxThreads
    · exact Or.inl (underway.startsWriter kept writer spec atStart known threads)
    · exact Or.inr (underway.refusesWriter writer spec atStart known asked threads)
  | startsReader reader spec atStart known asked =>
    have possible := readable (underway.options_eq ▸ Option.isSome_of_eq_some asked)
    by_cases threads : 1 ≤ spec.threads ∧ spec.threads ≤ maxThreads
    · exact Or.inl (underway.startsReader kept reader spec atStart known threads possible)
    · exact Or.inr (underway.refusesReader reader spec atStart known asked threads)
  | takesWrite writer result phase awaits known waited =>
    exact Or.inl (underway.takesWrite kept writer result phase awaits known waited)
  | takesRead reader result phase awaits known waited =>
    exact Or.inl (underway.takesRead kept reader result phase awaits known waited)
  | raisesWrite writer failure phase awaits known waited =>
    exact Or.inl (underway.raisesWrite kept writer failure phase awaits known waited)
  | raisesRead reader failure phase awaits known waited =>
    exact Or.inl (underway.raisesRead kept reader failure phase awaits known waited)
  | stops interrupted => exact Or.inl (underway.stops kept interrupted)
  | reports closing => exact Or.inl (underway.reports closing)

include possible in
/-- A step of the main thread keeps the run standing. -/
theorem Underway.main (underway : Underway conduct options life) (run : Run Storage)
    (move : life.run.MainMove now run) : Underway conduct options { life with run } := by
  refine (underway.main_or_refused kept possible.readable run move).resolve_right
    fun refused => ?_
  cases refused with
  | writer spec atStart asked impossible =>
    exact impossible (possible.write spec (underway.options_eq ▸ asked))
  | reader spec atStart asked impossible =>
    exact impossible (possible.read spec (underway.options_eq ▸ asked)).threads

omit [Store Storage] kept in
/-- An interrupt keeps the run standing, where there may be one. -/
theorem Underway.interrupt (underway : Underway conduct options life)
    (mayInterrupt : conduct.mayInterrupt) :
    Underway conduct options { life with run := { life.run with phase := .stopping } } where
  options_eq := underway.options_eq
  regular := underway.regular
  writer := underway.writer.interrupts mayInterrupt _ rfl rfl rfl
  reader := underway.reader.interrupts mayInterrupt _ rfl rfl rfl
  interrupted := fun _ => mayInterrupt
  reported := fun _ => nofun
  raised := fun _ => nofun

/-- A step of a worker of the writer keeps the run standing. -/
theorem Underway.writerWorks (underway : Underway conduct options life) (writer : Writer)
    (after : WriterLife Storage) (known : life.run.writer = some writer)
    (worked : (life.writing writer).work worker = some after) :
    Underway conduct options (life.withWriter after) := by
  have stepped := WriterLife.stepped_of_work worked
  have standing := underway.writer
  rw [known] at standing
  have staffed := stepped.isSome_roster
  have goes := standing.goes_of_staffed staffed
  have unfinished : Pool.finished writer = false :=
    WriterLife.unfinished_of_work (kept.writer_counted _ goes) worked
  obtain ⟨goesOn, isRegular⟩ := kept.writer_works _ worker after goes underway.regular worked
  exact {
    options_eq := underway.options_eq
    regular := isRegular
    writer := standing.works staffed after.writer _ _ fun _ =>
      ⟨goesOn, unfinished⟩
    reader := underway.reader.imp _ _ id fun reader _ reading =>
      ⟨kept.reader_outside _ _ reading.1, fun other same => by
        cases same
        exact started_of_writing kept after goesOn⟩
    interrupted := underway.interrupted
    reported := underway.reported
    raised := fun failure equal => by
      -- Wherever the run has failed, the writer is finished, and a finished pool takes no step.
      have finished : Pool.finished writer = true := by
        cases underway.raised failure equal with
        | writer other same fails =>
          cases known.symm.trans same
          exact fails.1
        | reader reader same fails settled => exact settled writer known
      exact Bool.noConfusion (unfinished.symm.trans finished) }

/-- A step of a worker of the reader keeps the run standing. -/
theorem Underway.readerWorks (underway : Underway conduct options life) (reader : Reader)
    (after : ReaderAudit Storage Writer) (known : life.run.reader = some reader)
    (worked : (life.reading reader).work worker = some after) :
    Underway conduct options (life.withReader after) := by
  have stepped := ReaderAudit.stepped_of_work worked
  have source : after.world.source = life.run.writer := ReaderAudit.source_of_work worked
  have standing := underway.reader
  rw [known] at standing
  have staffed := stepped.isSome_roster
  have goes := standing.goes_of_staffed staffed
  obtain ⟨goesOn, isRegular⟩ := kept.reader_works _ worker after goes.1 underway.regular worked
  have unfinished : Pool.finished reader = false := by
    rw [Bool.eq_false_iff]
    exact fun finished =>
      (kept.reader_kept _ goes.1).counted.not_stepped_of_finished finished stepped
  exact {
    options_eq := underway.options_eq
    regular := isRegular
    writer := underway.writer.imp _ _ id fun writer _ writing => kept.writer_outside _ _ writing
    reader := standing.works staffed after.reader _ _ fun _ =>
      ⟨⟨by rw [RunLife.reading]; exact source ▸ goesOn, goes.2⟩, unfinished⟩
    interrupted := underway.interrupted
    reported := underway.reported
    raised := fun failure equal => by
      cases underway.raised failure equal with
      | writer writer same fails => exact .writer writer same fails
      | reader other same fails settled =>
        cases known.symm.trans same
        exact Bool.noConfusion (unfinished.symm.trans fails.1) }

/-- Every step but those of the main thread keeps the run standing; where there may be no
interrupt, every step but that. -/
theorem Underway.step_of_other (underway : Underway conduct options life) (event : RunEvent)
    (other : event.1 ≠ .main) (allowed : event.1 = .interrupt → conduct.mayInterrupt)
    (stepped : life.step event = some next) : Underway conduct options next := by
  obtain ⟨actor, now⟩ := event
  cases actor with
  | main => exact absurd rfl other
  | writer worker =>
    obtain ⟨writer, after, known, worked, rfl⟩ := step_writer stepped
    exact underway.writerWorks kept writer after known worked
  | reader worker =>
    obtain ⟨reader, after, known, worked, rfl⟩ := step_reader stepped
    exact underway.readerWorks kept reader after known worked
  | interrupt =>
    obtain ⟨_, rfl⟩ := step_interrupt stepped
    exact underway.interrupt (allowed rfl)

include possible in
/-- Every step keeps the run standing; where there may be no interrupt, every step but that. -/
theorem Underway.step (underway : Underway conduct options life) (event : RunEvent)
    (allowed : event.1 = .interrupt → conduct.mayInterrupt)
    (stepped : life.step event = some next) : Underway conduct options next := by
  by_cases isMain : event.1 = .main
  · obtain ⟨actor, now⟩ := event
    subst isMain
    obtain ⟨run, move, rfl⟩ := step_main stepped
    exact underway.main kept possible run move
  · exact underway.step_of_other kept event isMain allowed stepped

omit [Store Storage] kept in
/-- A run that was just prepared is standing. -/
theorem underway_ready (conduct : Conduct Storage) (store : Storage)
    (isRegular : conduct.regular store) :
    Underway conduct options { run := Run.ready options store } where
  options_eq := rfl
  regular := isRegular
  writer := RunPass.standing_ready _ rfl rfl
  reader := RunPass.standing_ready _ rfl rfl
  interrupted := nofun
  reported := fun _ => nofun
  raised := fun _ => nofun

include possible in
/-- Every schedule keeps a run standing; where there may be no interrupt, every schedule without
one. -/
theorem Underway.of_replay (underway : Underway conduct options life) (schedule : List RunEvent)
    (allowed : ∀ event ∈ schedule, event.1 = .interrupt → conduct.mayInterrupt)
    (ran : replay RunLife.step life schedule = some next) : Underway conduct options next :=
  replay_invariant_of_allowed (fun event => event.1 = .interrupt → conduct.mayInterrupt)
    (Underway conduct options)
    (fun _ event _ isAllowed underway stepped =>
      underway.step kept possible event isAllowed stepped)
    life next schedule allowed underway ran

end Steps

end RunLife

end LoadVerifier
