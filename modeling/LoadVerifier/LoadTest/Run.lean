/-
This file holds a whole run: the main thread, the workers of a writer and the workers of a reader
on one store.

The main thread starts the pools that were asked for, waits for the writer and then for the
reader, and reports. A reader of a run that also writes is linked to the writer. An interrupt may
come at any moment between the first announcement and the last wait: the main thread then asks
both pools to stop, waits for those that were started, and reports what there is. A failure ends
the main thread at once, whatever the other pool is doing.

A run is a step function on actors. It does not say who is next: whatever holds after every step
holds for every schedule.
-/
import LoadVerifier.LoadTest.Report
import LoadVerifier.Pass.Options
import LoadVerifier.Reading.Reader
import LoadVerifier.Writing.Writer

namespace LoadVerifier

/-- A writer tells how far it is. Looking at it does not change it. -/
instance : WatermarkSource Writer where
  mark writer := (writer.watermark, writer)
  finished writer := (Pool.finished writer, writer)

/-- Who takes the next step of a run. -/
inductive Actor
  | main
  | writer (worker : Nat)
  | reader (worker : Nat)
  | interrupt
  deriving DecidableEq

/-- Where the main thread is. -/
inductive Phase
  | announceWrite
  | startWrite
  | announceRead
  | startRead
  | awaitWrite
  | awaitRead
  | stopping
  | awaitStoppedWrite
  | awaitStoppedRead
  | closing
  | reported (report : Report)
  | raised (failure : Failure)

/-- A run: the pools that were asked for, the store they share, and the main thread. -/
structure Run (Storage : Type) where
  options : Options
  store : Storage
  writer : Option Writer
  reader : Option Reader
  phase : Phase := .announceWrite
  writeResult : Option WriteResult := none
  readResult : Option ReadResult := none

namespace Run

variable {Storage : Type}

/-- Makes and configures the pools of a run, before any of them starts. -/
def prepare (options : Options) (store : Storage) :
    Except ConfigError (Run Storage × List Line) := do
  let bounds := options.bounds
  let writer ← options.write.mapM fun spec =>
    Writer.new.configure spec.multiPut bounds.minColumns bounds.maxColumns bounds.minSize
      bounds.maxSize
  let reader ← options.read.mapM fun spec =>
    (Reader.new bounds options.seed).configure spec.verifyPercent spec.maxErrors spec.keyWindow
  let run : Run Storage := { options, store, writer, reader }
  match writer, reader with
  | some _, some linked =>
    linked.checkLink
    return (run, [.out
      "[setup] concurrent read/write workload: linking readers to the write watermark"])
  | _, _ => return (run, [])

/-! ### The main thread -/

/-- Goes on to another phase without printing. -/
def goTo (run : Run Storage) (phase : Phase) : Option (Run Storage × List Line) :=
  some ({ run with phase }, [])

/-- Starts the writer. -/
def startWriter (run : Run Storage) (writer : Writer) (spec : WriteSpec) (now : Float) :
    Run Storage :=
  match writer.start run.options.range spec.threads now with
  | .ok started => { run with writer := some started, phase := .announceRead }
  | .error error => { run with phase := .raised (.config error) }

/-- Starts the reader. -/
def startReader (run : Run Storage) (reader : Reader) (spec : ReadSpec) (now : Float) :
    Run Storage :=
  match reader.start run.options.range spec.threads now with
  | .ok started => { run with reader := some started, phase := .awaitWrite }
  | .error error => { run with phase := .raised (.config error) }

/-- Takes the result of the writer once its workers have left. -/
def takeWriteResult (run : Run Storage) (writer : Writer) (next : Phase) :
    Option (Run Storage × List Line) :=
  writer.wait.map fun waited =>
    match waited with
    | .ok result => ({ run with writeResult := some result, phase := next }, [])
    | .error failure => ({ run with phase := .raised failure }, [])

/-- Takes the result of the reader once its workers have left. -/
def takeReadResult (run : Run Storage) (reader : Reader) (next : Phase) :
    Option (Run Storage × List Line) :=
  reader.wait.map fun waited =>
    match waited with
    | .ok result => ({ run with readResult := some result, phase := next }, [])
    | .error failure => ({ run with phase := .raised failure }, [])

/-- The report of a run with the results taken so far. -/
def report (run : Run Storage) : Report := ⟨run.writeResult, run.readResult⟩

/-- One step of the main thread; `none` when it waits for a worker or is over. The time is what a
pool that starts now remembers. -/
def mainStep (run : Run Storage) (now : Float) : Option (Run Storage × List Line) :=
  match run.phase with
  | .announceWrite =>
    if run.writer.isSome then
      some ({ run with phase := .startWrite }, [.out "[write] starting to write data..."])
    else run.goTo .announceRead
  | .startWrite =>
    match run.writer, run.options.write with
    | some writer, some spec => some (run.startWriter writer spec now, [])
    | _, _ => run.goTo .announceRead
  | .announceRead =>
    if run.reader.isSome then
      some ({ run with phase := .startRead }, [.out "[read] starting to read data..."])
    else run.goTo .awaitWrite
  | .startRead =>
    match run.reader, run.options.read with
    | some reader, some spec => some (run.startReader reader spec now, [])
    | _, _ => run.goTo .awaitWrite
  | .awaitWrite =>
    match run.writer with
    | some writer => run.takeWriteResult writer .awaitRead
    | none => run.goTo .awaitRead
  | .awaitRead =>
    match run.reader with
    | some reader => run.takeReadResult reader .closing
    | none => run.goTo .closing
  | .stopping =>
    let writer := run.writer.map Pool.stop
    let reader := run.reader.map Pool.stop
    some ({ run with writer, reader, phase := .awaitStoppedWrite },
      [.out "[stop] interrupted; letting in-flight operations finish..."])
  | .awaitStoppedWrite =>
    match run.writer with
    | some writer =>
      if writer.started then run.takeWriteResult writer .awaitStoppedRead
      else run.goTo .awaitStoppedRead
    | none => run.goTo .awaitStoppedRead
  | .awaitStoppedRead =>
    match run.reader with
    | some reader =>
      if reader.started then run.takeReadResult reader .closing else run.goTo .closing
    | none => run.goTo .closing
  | .closing =>
    some ({ run with phase := .reported run.report }, run.report.summary.map .out)
  | .reported _ | .raised _ => none

/-- Whether an interrupt is caught at this phase. -/
def interruptible : Phase → Bool
  | .announceWrite | .startWrite | .announceRead | .startRead | .awaitWrite | .awaitRead => true
  | _ => false

/-! ### The workers -/

section Workers

variable [Store Storage]

/-- One step of a worker of the writer. -/
def writerStep (run : Run Storage) (worker : Nat) : Option (Run Storage × List Line) := do
  let writer ← run.writer
  let (writer, store, notices) ← writer.step run.store worker
  return ({ run with writer := some writer, store }, notices.map fun notice => .err notice.text)

/-- One step of a worker of the reader, which is linked to the writer if there is one. -/
def readerStep (run : Run Storage) (worker : Nat) : Option (Run Storage × List Line) := do
  let reader ← run.reader
  let world : ReaderWorld Storage Writer := ⟨run.store, run.writer⟩
  let (reader, world, notices) ← reader.step world worker
  return ({ run with reader := some reader, store := world.store, writer := world.source },
    notices.map fun notice => .err notice.text)

/-- One step of an actor; `none` when it cannot take one. -/
def step (run : Run Storage) (now : Float) : Actor → Option (Run Storage × List Line)
  | .main => run.mainStep now
  | .writer worker => run.writerStep worker
  | .reader worker => run.readerStep worker
  | .interrupt => if interruptible run.phase then run.goTo .stopping else none

end Workers

end Run

end LoadVerifier
