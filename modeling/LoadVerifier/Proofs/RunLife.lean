/-
This file follows a whole run, with the ledger of its writer and the account of its reader kept
beside it. A step of a worker of the writer is a step in the life of the writer, and a step of a
worker of the reader is one in the audit of the reader, whose source of watermarks is the writer; so
whatever is proved about the two pools on their own can be used here.

`MainMove` says once what a step of the main thread can do. A run that can be prepared starts with
pools that have their settings, and with nothing else.
-/
import LoadVerifier.Proofs.LinkedProgress
import LoadVerifier.Proofs.SmoothReader

namespace LoadVerifier

/-! ### What a run is asked to do -/

/-- A read pass that is within the limits. -/
structure ReadSpec.Possible (spec : ReadSpec) : Prop where
  verifyPercent : 0 ≤ spec.verifyPercent ∧ spec.verifyPercent ≤ 100
  threads : 1 ≤ spec.threads ∧ spec.threads ≤ maxThreads
  maxErrors : 0 ≤ spec.maxErrors
  keyWindow : 0 ≤ spec.keyWindow

namespace Options

/-- What the writer of a run is asked to do, if there is one. -/
def writePlan (options : Options) : WritePlan where
  bounds := options.bounds
  multiPut := options.write.any (·.multiPut)
  range := options.range

/-- What the reader of a run is asked to do, if there is one. -/
def readPlan (options : Options) : ReadPlan where
  bounds := options.bounds
  seed := options.seed
  verifyPercent := (options.read.map (·.verifyPercent)).getD 0
  maxErrors := (options.read.map (·.maxErrors)).getD defaultMaxErrors
  keyWindow := (options.read.map (·.keyWindow)).getD defaultKeyWindow
  range := options.range

/-- The passes of a run are within the limits. -/
structure Possible (options : Options) : Prop where
  write : ∀ spec, options.write = some spec → 1 ≤ spec.threads ∧ spec.threads ≤ maxThreads
  read : ∀ spec, options.read = some spec → spec.Possible

/-- Every key of the range has a record. -/
def Generates (options : Options) : Prop :=
  ∀ key, options.range.start ≤ key → key < options.range.limit →
    ∃ record, generate key options.bounds = .ok record

/-- The settings of the reader are within the limits, if there is one. -/
def Readable (options : Options) : Prop := options.read.isSome → options.readPlan.Possible

theorem Possible.readPlan {options : Options} (possible : options.Possible) (spec : ReadSpec)
    (asked : options.read = some spec) : options.readPlan.Possible := by
  have isPossible := possible.read spec asked
  unfold Options.readPlan
  rw [asked]
  exact ⟨isPossible.verifyPercent.1, isPossible.verifyPercent.2, isPossible.maxErrors,
    isPossible.keyWindow⟩

theorem Possible.readable {options : Options} (possible : options.Possible) :
    options.Readable := fun asked => by
  obtain ⟨spec, isSpec⟩ := Option.isSome_iff_exists.mp asked
  exact possible.readPlan spec isSpec

end Options

namespace Run

variable {Storage : Type}

/-- A run whose pools have their settings. -/
def ready (options : Options) (store : Storage) : Run Storage where
  options := options
  store := store
  writer := options.write.map fun _ => options.writePlan.ready
  reader := options.read.map fun _ => options.readPlan.ready

/-- The writer of a run takes its settings. -/
theorem configure_writer (options : Options) :
    (options.write.mapM fun spec => Writer.new.configure spec.multiPut options.bounds.minColumns
      options.bounds.maxColumns options.bounds.minSize options.bounds.maxSize) =
        .ok (options.write.map fun _ => options.writePlan.ready) := by
  cases asked : options.write with
  | none => rfl
  | some spec =>
    have configured := options.writePlan.configure_new
    have multiPut : options.writePlan.multiPut = spec.multiPut := by
      rw [Options.writePlan, asked]
      rfl
    rw [multiPut] at configured
    exact congrArg (Except.map some) configured

/-- The reader of a run gets the settings of its plan. -/
theorem configure_reader (options : Options) :
    (options.read.mapM fun spec => (Reader.new options.bounds options.seed).configure
      spec.verifyPercent spec.maxErrors spec.keyWindow) =
        options.read.mapM fun _ => (Reader.new options.readPlan.bounds
          options.readPlan.seed).configure options.readPlan.verifyPercent
            options.readPlan.maxErrors options.readPlan.keyWindow := by
  cases asked : options.read with
  | none => rfl
  | some spec =>
    have settings : options.readPlan.verifyPercent = spec.verifyPercent ∧
        options.readPlan.maxErrors = spec.maxErrors ∧
          options.readPlan.keyWindow = spec.keyWindow := by
      rw [Options.readPlan, asked]
      exact ⟨rfl, rfl, rfl⟩
    rw [settings.1, settings.2.1, settings.2.2]
    rfl

/-- A run can be prepared exactly when the settings of its reader are within the limits. -/
theorem prepare_eq_ok_iff (options : Options) (store : Storage) (run : Run Storage) :
    (∃ lines, prepare options store = .ok (run, lines)) ↔
      options.Readable ∧ run = ready options store := by
  unfold prepare
  simp only [configure_writer, configure_reader, bind, Except.bind]
  unfold ready Options.Readable
  constructor
  · rintro ⟨lines, prepared⟩
    cases asked : options.read with
    | none =>
      rw [asked] at prepared
      cases written : options.write <;> rw [written] at prepared <;> cases prepared <;>
        exact ⟨nofun, rfl⟩
    | some spec =>
      rw [asked] at prepared
      cases configured : (Reader.new options.readPlan.bounds options.readPlan.seed).configure
          options.readPlan.verifyPercent options.readPlan.maxErrors options.readPlan.keyWindow with
      | error error =>
        rw [configured] at prepared
        cases prepared
      | ok reader =>
        obtain ⟨possible, rfl⟩ := options.readPlan.configure_eq_ok reader configured
        rw [configured] at prepared
        cases written : options.write <;> rw [written] at prepared <;> cases prepared <;>
          exact ⟨fun _ => possible, rfl⟩
  · rintro ⟨readable, rfl⟩
    cases asked : options.read with
    | none => cases options.write <;> exact ⟨_, rfl⟩
    | some spec =>
      rw [options.readPlan.configure_new (readable (Option.isSome_of_eq_some asked))]
      cases options.write <;> exact ⟨_, rfl⟩

/-- A run whose passes are within the limits can be prepared. -/
theorem prepare_eq_ok (options : Options) (possible : options.Possible) (store : Storage) :
    ∃ lines, prepare options store = .ok (ready options store, lines) :=
  (prepare_eq_ok_iff options store _).mpr ⟨possible.readable, rfl⟩

/-! ### What a step of the main thread can do -/

/-- The main thread goes on without touching a pool. -/
inductive GoesOn (run : Run Storage) : Phase → Phase → Prop
  | writeAnnounced : GoesOn run .announceWrite .startWrite
  | nothingToWrite (unasked : run.writer = none) : GoesOn run .announceWrite .announceRead
  | writeSkipped (unasked : run.writer = none ∨ run.options.write = none) :
      GoesOn run .startWrite .announceRead
  | readAnnounced : GoesOn run .announceRead .startRead
  | nothingToRead (unasked : run.reader = none) : GoesOn run .announceRead .awaitWrite
  | readSkipped (unasked : run.reader = none ∨ run.options.read = none) :
      GoesOn run .startRead .awaitWrite
  | noWriter (unasked : run.writer = none) : GoesOn run .awaitWrite .awaitRead
  | noReader (unasked : run.reader = none) : GoesOn run .awaitRead .closing
  | writerUnstarted (unstarted : ∀ writer, run.writer = some writer → writer.started = false) :
      GoesOn run .awaitStoppedWrite .awaitStoppedRead
  | readerUnstarted (unstarted : ∀ reader, run.reader = some reader → reader.started = false) :
      GoesOn run .awaitStoppedRead .closing

/-- The main thread waits for the writer at a phase, and goes on to another one. -/
inductive AwaitsWriter (writer : Writer) : Phase → Phase → Prop
  | running : AwaitsWriter writer .awaitWrite .awaitRead
  | stopped (started : writer.started = true) :
      AwaitsWriter writer .awaitStoppedWrite .awaitStoppedRead

/-- The main thread waits for the reader at a phase, and goes on to another one. -/
inductive AwaitsReader (reader : Reader) : Phase → Phase → Prop
  | running : AwaitsReader reader .awaitRead .closing
  | stopped (started : reader.started = true) : AwaitsReader reader .awaitStoppedRead .closing

/-- What a step of the main thread can be. -/
inductive MainMove (run : Run Storage) (now : Float) : Run Storage → Prop
  | goesOn (phase : Phase) (goes : GoesOn run run.phase phase) : MainMove run now { run with phase }
  | startsWriter (writer : Writer) (spec : WriteSpec) (atStart : run.phase = .startWrite)
      (known : run.writer = some writer) (asked : run.options.write = some spec) :
      MainMove run now (run.startWriter writer spec now)
  | startsReader (reader : Reader) (spec : ReadSpec) (atStart : run.phase = .startRead)
      (known : run.reader = some reader) (asked : run.options.read = some spec) :
      MainMove run now (run.startReader reader spec now)
  | takesWrite (writer : Writer) (result : WriteResult) (phase : Phase)
      (awaits : AwaitsWriter writer run.phase phase) (known : run.writer = some writer)
      (waited : writer.wait = some (.ok result)) :
      MainMove run now { run with writeResult := some result, phase }
  | takesRead (reader : Reader) (result : ReadResult) (phase : Phase)
      (awaits : AwaitsReader reader run.phase phase) (known : run.reader = some reader)
      (waited : reader.wait = some (.ok result)) :
      MainMove run now { run with readResult := some result, phase }
  | raisesWrite (writer : Writer) (failure : Failure) (phase : Phase)
      (awaits : AwaitsWriter writer run.phase phase) (known : run.writer = some writer)
      (waited : writer.wait = some (.error failure)) :
      MainMove run now { run with phase := .raised failure }
  | raisesRead (reader : Reader) (failure : Failure) (phase : Phase)
      (awaits : AwaitsReader reader run.phase phase) (known : run.reader = some reader)
      (waited : reader.wait = some (.error failure)) :
      MainMove run now { run with phase := .raised failure }
  | stops (interrupted : run.phase = .stopping) :
      MainMove run now { run with
        writer := run.writer.map Pool.stop
        reader := run.reader.map Pool.stop
        phase := .awaitStoppedWrite }
  | reports (closing : run.phase = .closing) :
      MainMove run now { run with phase := .reported run.report }

section MainMoves

variable {run next : Run Storage} {now : Float} {lines : List Line}

theorem mainMove_of_goTo {phase : Phase} (goes : GoesOn run run.phase phase)
    (went : run.goTo phase = some (next, lines)) : MainMove run now next := by
  cases went
  exact .goesOn phase goes

theorem mainMove_of_takeWriteResult {writer : Writer} {phase : Phase}
    (awaits : AwaitsWriter writer run.phase phase) (known : run.writer = some writer)
    (took : run.takeWriteResult writer phase = some (next, lines)) : MainMove run now next := by
  obtain ⟨waited, waits, equal⟩ := Option.map_eq_some_iff.mp took
  cases waited with
  | ok result =>
    cases equal
    exact .takesWrite writer result phase awaits known waits
  | error failure =>
    cases equal
    exact .raisesWrite writer failure phase awaits known waits

theorem mainMove_of_takeReadResult {reader : Reader} {phase : Phase}
    (awaits : AwaitsReader reader run.phase phase) (known : run.reader = some reader)
    (took : run.takeReadResult reader phase = some (next, lines)) : MainMove run now next := by
  obtain ⟨waited, waits, equal⟩ := Option.map_eq_some_iff.mp took
  cases waited with
  | ok result =>
    cases equal
    exact .takesRead reader result phase awaits known waits
  | error failure =>
    cases equal
    exact .raisesRead reader failure phase awaits known waits

/-- Of two things that are not both there, one is missing. -/
theorem missing_of_not_both {First Second : Type} {first : Option First} {second : Option Second}
    (missing : ∀ one other, first = some one → second = some other → False) :
    first = none ∨ second = none := by
  cases first with
  | none => exact Or.inl rfl
  | some one =>
    cases second with
    | none => exact Or.inr rfl
    | some other => exact (missing one other rfl rfl).elim

theorem mainMove_of_mainStep (moved : run.mainStep now = some (next, lines)) :
    MainMove run now next := by
  unfold mainStep at moved
  cases reached : run.phase <;> rw [reached] at moved <;> dsimp only at moved
  case announceWrite =>
    split at moved
    · cases moved
      exact .goesOn _ (reached ▸ .writeAnnounced)
    · rename_i unasked
      exact mainMove_of_goTo (reached ▸ .nothingToWrite (by simpa using unasked)) moved
  case startWrite =>
    split at moved
    · rename_i writer spec known asked
      cases moved
      exact .startsWriter writer spec reached known asked
    · rename_i missing
      exact mainMove_of_goTo (reached ▸ .writeSkipped (missing_of_not_both missing)) moved
  case announceRead =>
    split at moved
    · cases moved
      exact .goesOn _ (reached ▸ .readAnnounced)
    · rename_i unasked
      exact mainMove_of_goTo (reached ▸ .nothingToRead (by simpa using unasked)) moved
  case startRead =>
    split at moved
    · rename_i reader spec known asked
      cases moved
      exact .startsReader reader spec reached known asked
    · rename_i missing
      exact mainMove_of_goTo (reached ▸ .readSkipped (missing_of_not_both missing)) moved
  case awaitWrite =>
    split at moved
    · rename_i writer known
      exact mainMove_of_takeWriteResult (reached ▸ .running) known moved
    · rename_i unasked
      exact mainMove_of_goTo (reached ▸ .noWriter unasked) moved
  case awaitRead =>
    split at moved
    · rename_i reader known
      exact mainMove_of_takeReadResult (reached ▸ .running) known moved
    · rename_i unasked
      exact mainMove_of_goTo (reached ▸ .noReader unasked) moved
  case stopping =>
    cases moved
    exact .stops reached
  case awaitStoppedWrite =>
    split at moved
    · rename_i writer known
      split at moved
      · rename_i started
        exact mainMove_of_takeWriteResult (reached ▸ .stopped started) known moved
      · rename_i unstarted
        refine mainMove_of_goTo (reached ▸ .writerUnstarted fun other same => ?_) moved
        cases known.symm.trans same
        exact Bool.eq_false_iff.mpr unstarted
    · rename_i unasked
      refine mainMove_of_goTo (reached ▸ .writerUnstarted fun other same => ?_) moved
      cases unasked.symm.trans same
  case awaitStoppedRead =>
    split at moved
    · rename_i reader known
      split at moved
      · rename_i started
        exact mainMove_of_takeReadResult (reached ▸ .stopped started) known moved
      · rename_i unstarted
        refine mainMove_of_goTo (reached ▸ .readerUnstarted fun other same => ?_) moved
        cases known.symm.trans same
        exact Bool.eq_false_iff.mpr unstarted
    · rename_i unasked
      refine mainMove_of_goTo (reached ▸ .readerUnstarted fun other same => ?_) moved
      cases unasked.symm.trans same
  case closing =>
    cases moved
    exact .reports reached
  case reported => cases moved
  case raised => cases moved

end MainMoves

end Run

/-! ### A run with its records -/

/-- A run, the ledger of its writer and the account of its reader. -/
structure RunLife (Storage : Type) where
  run : Run Storage
  ledger : WriteLedger := {}
  account : ReadAccount := {}

/-- An actor takes a step at some time. -/
abbrev RunEvent := Actor × Float

namespace RunLife

variable {Storage : Type}

/-- The writer of a run, in its life. -/
def writing (life : RunLife Storage) (writer : Writer) : WriterLife Storage :=
  ⟨writer, life.run.store, life.ledger⟩

/-- The reader of a run, under audit. Its source is the writer, if there is one. -/
def reading (life : RunLife Storage) (reader : Reader) : ReaderAudit Storage Writer :=
  ⟨reader, ⟨life.run.store, life.run.writer⟩, life.account⟩

/-- The run after a step of its writer. -/
def withWriter (life : RunLife Storage) (next : WriterLife Storage) : RunLife Storage :=
  { life with
    run := { life.run with writer := some next.writer, store := next.store }
    ledger := next.ledger }

/-- The run after a step of its reader. -/
def withReader (life : RunLife Storage) (next : ReaderAudit Storage Writer) : RunLife Storage :=
  { life with
    run := { life.run with reader := some next.reader, store := next.world.store }
    account := next.account }

variable [Store Storage]

/-- The ledger after the next step of an actor. -/
def notedLedger (life : RunLife Storage) : Actor → WriteLedger
  | .writer worker =>
    match life.run.writer with
    | some writer => (life.writing writer).noted worker
    | none => life.ledger
  | .main | .reader _ | .interrupt => life.ledger

/-- The account after the next step of an actor. -/
def notedAccount (life : RunLife Storage) : Actor → ReadAccount
  | .reader worker =>
    match life.run.reader with
    | some reader => (life.reading reader).noted worker
    | none => life.account
  | .main | .writer _ | .interrupt => life.account

/-- A step of an actor; `none` when it cannot take one. -/
def step (life : RunLife Storage) (event : RunEvent) : Option (RunLife Storage) :=
  (life.run.step event.2 event.1).map fun (run, _) =>
    ⟨run, life.notedLedger event.1, life.notedAccount event.1⟩

variable {life next : RunLife Storage} {now : Float} {worker : Nat}

theorem step_main (stepped : life.step (.main, now) = some next) :
    ∃ run, Run.MainMove life.run now run ∧ next = { life with run } := by
  obtain ⟨⟨run, lines⟩, moved, rfl⟩ := Option.map_eq_some_iff.mp stepped
  exact ⟨run, Run.mainMove_of_mainStep moved, rfl⟩

theorem step_interrupt (stepped : life.step (.interrupt, now) = some next) :
    Run.interruptible life.run.phase = true ∧
      next = { life with run := { life.run with phase := .stopping } } := by
  obtain ⟨⟨run, lines⟩, moved, rfl⟩ := Option.map_eq_some_iff.mp stepped
  unfold Run.step at moved
  dsimp only at moved
  split at moved
  · rename_i allowed
    cases moved
    exact ⟨allowed, rfl⟩
  · cases moved

/-- A step in the life of the writer is a step of the run. -/
theorem step_writer_of_work {writer : Writer} {after : WriterLife Storage}
    (known : life.run.writer = some writer)
    (worked : (life.writing writer).work worker = some after) :
    life.step (.writer worker, now) = some (life.withWriter after) := by
  obtain ⟨⟨pool, store, notices⟩, stepped, rfl⟩ := Option.map_eq_some_iff.mp worked
  have went : writer.step life.run.store worker = some (pool, store, notices) := stepped
  have ledger : life.notedLedger (.writer worker) = (life.writing writer).noted worker := by
    rw [notedLedger, known]
  simp only [step, Run.step, Run.writerStep, known, went, ledger, bind, Option.bind, pure,
    Option.map_some]
  rfl

/-- A step under audit is a step of the run, and leaves the writer as it is. -/
theorem step_reader_of_work {reader : Reader} {after : ReaderAudit Storage Writer}
    (known : life.run.reader = some reader)
    (worked : (life.reading reader).work worker = some after) :
    life.step (.reader worker, now) = some (life.withReader after) := by
  have source : after.world.source = life.run.writer := ReaderAudit.source_of_work worked
  obtain ⟨⟨pool, world, notices⟩, stepped, rfl⟩ := Option.map_eq_some_iff.mp worked
  have went : reader.step (⟨life.run.store, life.run.writer⟩ : ReaderWorld Storage Writer) worker =
      some (pool, world, notices) := stepped
  have account : life.notedAccount (.reader worker) = (life.reading reader).noted worker := by
    rw [notedAccount, known]
  dsimp only at source
  simp only [step, Run.step, Run.readerStep, known, went, account, source, bind, Option.bind, pure,
    Option.map_some]
  rfl

/-- A step of a worker of the writer is a step in the life of the writer. -/
theorem step_writer (stepped : life.step (.writer worker, now) = some next) :
    ∃ writer after, life.run.writer = some writer ∧
      (life.writing writer).work worker = some after ∧ next = life.withWriter after := by
  obtain ⟨⟨run, lines⟩, moved, _⟩ := Option.map_eq_some_iff.mp stepped
  obtain ⟨writer, known, went⟩ := Option.bind_eq_some_iff.mp moved
  obtain ⟨turn, worked, _⟩ := Option.bind_eq_some_iff.mp went
  have works : (life.writing writer).work worker =
      some ⟨turn.1, turn.2.1, (life.writing writer).noted worker⟩ :=
    Option.map_eq_some_iff.mpr ⟨turn, worked, rfl⟩
  refine ⟨writer, _, known, works, ?_⟩
  exact Option.some.inj (stepped.symm.trans (step_writer_of_work known works))

/-- A step of a worker of the reader is a step under audit. -/
theorem step_reader (stepped : life.step (.reader worker, now) = some next) :
    ∃ reader after, life.run.reader = some reader ∧
      (life.reading reader).work worker = some after ∧ next = life.withReader after := by
  obtain ⟨⟨run, lines⟩, moved, _⟩ := Option.map_eq_some_iff.mp stepped
  obtain ⟨reader, known, went⟩ := Option.bind_eq_some_iff.mp moved
  obtain ⟨turn, worked, _⟩ := Option.bind_eq_some_iff.mp went
  have works : (life.reading reader).work worker =
      some ⟨turn.1, turn.2.1, (life.reading reader).noted worker⟩ :=
    Option.map_eq_some_iff.mpr ⟨turn, worked, rfl⟩
  refine ⟨reader, _, known, works, ?_⟩
  exact Option.some.inj (stepped.symm.trans (step_reader_of_work known works))

end RunLife

end LoadVerifier
