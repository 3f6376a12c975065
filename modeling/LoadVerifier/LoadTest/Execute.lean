/-
This file carries out a run under one schedule: whenever the main thread has to wait, the workers
of the writer go one after another, and then those of the reader. This is one of the schedules a
run allows, so whatever holds for all of them holds for it.
-/
import LoadVerifier.LoadTest.Run
import LoadVerifier.Pool.Iterate

namespace LoadVerifier

/-- Where the one interrupt of a run comes, if it comes. -/
inductive InterruptPoint
  | announcingWrite
  | announcingRead
  | awaitingWrite
  | awaitingRead
  deriving DecidableEq

/-- What a run came to, the store after it, and the lines it printed. -/
structure Execution (Storage : Type) where
  result : Except Failure Report
  store : Storage
  lines : List Line

/-- A run under way, with the lines printed so far, latest first. -/
structure RunState (Storage : Type) where
  run : Run Storage
  interrupt : Option InterruptPoint
  lines : List Line

namespace RunState

variable {Storage : Type} [Store Storage]

/-- One step of an actor. No time passes in this schedule. -/
def act (actor : Actor) (state : RunState Storage) : Option (RunState Storage) :=
  (state.run.step 0.0 actor).map fun (run, lines) =>
    { state with run, lines := lines.reverse ++ state.lines }

/-- More steps than one worker takes. -/
def fuel (state : RunState Storage) : Nat :=
  (state.run.options.range.size + 2) * (state.run.options.bounds.maxColumns + 20)

/-- Runs one actor as long as it can take steps. -/
def exhaust (state : RunState Storage) (actor : Actor) : RunState Storage :=
  iterate (act actor) state.fuel state

/-- The number of workers of a pool. -/
def workers {State Task : Type} (pool : Option (Pool State Task)) : Nat :=
  ((pool.bind (·.roster)).map (·.count)).getD 0

/-- Runs every worker that was started until it has left. -/
def drain (state : RunState Storage) : RunState Storage :=
  let written := (List.range (workers state.run.writer)).foldl
    (fun state worker => state.exhaust (.writer worker)) state
  (List.range (workers written.run.reader)).foldl
    (fun state worker => state.exhaust (.reader worker)) written

/-- Whether the interrupt comes at this phase. -/
def interrupts : InterruptPoint → Phase → Bool
  | .announcingWrite, .startWrite => true
  | .announcingRead, .startRead => true
  | .awaitingWrite, .awaitWrite => true
  | .awaitingRead, .awaitRead => true
  | _, _ => false

/-- Whether the interrupt comes now. A wait that is not made is not interrupted. -/
def isInterrupted (state : RunState Storage) : Bool :=
  state.interrupt.any fun point =>
    interrupts point state.run.phase &&
      match point with
      | .announcingWrite | .awaitingWrite => state.run.writer.isSome
      | .announcingRead | .awaitingRead => state.run.reader.isSome

/-- Whether the main thread may have to wait at a phase. -/
def isWaiting : Phase → Bool
  | .awaitWrite | .awaitRead | .awaitStoppedWrite | .awaitStoppedRead => true
  | _ => false

/-- The next step of the main thread, after whatever it waits for. -/
def next (state : RunState Storage) : Option (RunState Storage) :=
  if state.isInterrupted then { state.drain with interrupt := none }.act .interrupt
  else if isWaiting state.run.phase then state.drain.act .main
  else state.act .main

/-- More steps than the main thread takes. -/
def mainSteps : Nat := 16

end RunState

/-- What a run came to. -/
def Run.result {Storage : Type} (run : Run Storage) : Except Failure Report :=
  match run.phase with
  | .raised failure => .error failure
  | .reported report => .ok report
  | _ => .ok run.report

/-- Carries out a run, and lets the workers finish that a failure of the main thread left behind. -/
def execute {Storage : Type} [Store Storage] (options : Options) (store : Storage)
    (interrupt : Option InterruptPoint) : Execution Storage :=
  match Run.prepare options store with
  | .error error => ⟨.error (.config error), store, []⟩
  | .ok (run, lines) =>
    let state : RunState Storage := ⟨run, interrupt, lines.reverse⟩
    let ended := (iterate RunState.next RunState.mainSteps state).drain
    ⟨ended.run.result, ended.run.store, ended.lines.reverse⟩

end LoadVerifier
