/-
This file holds the commands of a rehearsal and what they answer. A command that is refused leaves
everything as it was.
-/
import LoadVerifier.Drill.Basic

namespace LoadVerifier

/-- What a rehearsal may be asked to do. -/
inductive DrillCommand
  | configureWriter (multiPut : Bool) (minColumns maxColumns minSize maxSize : Int)
  | configureReader (verifyPercent maxErrors keyWindow : Int)
  | link (source : ScriptedSource) (script : List Cue)
  | start (start limit threads : Int)
  | begin (start limit threads : Int)
  | work (name : Int)
  | wait
  | stop
  | clock (now : Float)
  | progress
  | report (clocks : List Float)
  | writerLink (lastKey keyWindow : Int)
  | polls
  | calls
  | dump

/-- What a command answers. -/
inductive DrillReply
  | nothing
  | line (text : String)
  | written (result : WriteResult)
  | read (result : ReadResult)
  | waits (count : Nat)
  | link (mark : Int) (finished : Bool) (readable : Int)
  | polls (polls : List Poll)
  | calls (calls : List StoreCall)
  | dump (rows : List (Int × Columns))

/-- The name of a pool in the refusal of what its kind has not. -/
def Engine.title : Engine → String
  | .writing _ => "MultiThreadedWriter"
  | .reading _ => "MultiThreadedReader"
  | .idling _ => "MultiThreadedAction"

/-- The refusal of what the kind of a pool has not. -/
def Engine.refuse {Value : Type} (engine : Engine) (request : String) : Except Failure Value :=
  .error (.crash (.unsupported engine.title request))

namespace Drill

/-- A refused configuration as a failed command. -/
def orConfig {Value : Type} : Except ConfigError Value → Except Failure Value :=
  Except.mapError Failure.config

/-- Gives the pool a range without starting a worker. -/
def begin (drill : Drill) (start limit threads : Int) : Except Failure Drill := do
  let range ← orConfig (KeyRange.make start limit)
  match drill.engine with
  | .writing writer =>
    let begun ← orConfig (Pool.begin Writer.poolName writer range threads)
    return { drill with engine := .writing begun }
  | .reading reader =>
    let begun ← orConfig (Pool.begin Reader.poolName reader range threads)
    return { drill with engine := .reading begun }
  | .idling pool =>
    let begun ← orConfig (Pool.begin Idle.poolName pool range threads)
    return { drill with engine := .idling begun }

/-- Starts the pool and runs it to its end. -/
def start (drill : Drill) (start limit threads : Int) : Except Failure Drill := do
  let range ← orConfig (KeyRange.make start limit)
  match drill.engine with
  | .writing writer =>
    let started ← orConfig (writer.start range threads drill.clock)
    return { drill with engine := .writing started }.drain
  | .reading reader =>
    let started ← orConfig (reader.start range threads drill.clock)
    return { drill with engine := .reading started }.drain
  | .idling pool =>
    let begun ← orConfig (Pool.begin Idle.poolName pool range threads)
    return { drill with engine := .idling (begun.spawn () threads drill.clock) }.drain

/-- A single worker at the given task, in the place of the workers of a pool. -/
def soloRoster {Task : Type} (roster : Option (Roster Task)) (task : Task) : Roster Task :=
  match roster with
  | some roster => { roster with task, count := 1, moved := ∅ }
  | none => { Roster.ofTask task 1 0.0 with active := 0 }

/-- The pool with a single worker, at the start of its program. -/
def soloEngine : Engine → Engine
  | .writing writer => .writing { writer with roster := some (soloRoster writer.roster .checkStop) }
  | .reading reader => .reading { reader with roster := some (soloRoster reader.roster .seed) }
  | .idling pool => .idling { pool with roster := some (soloRoster pool.roster ()) }

/-- The pool with the workers that another one has. -/
def restoreRoster : (before after : Engine) → Engine
  | .writing before, .writing after => .writing { after with roster := before.roster }
  | .reading before, .reading after => .reading { after with roster := before.roster }
  | .idling before, .idling after => .idling { after with roster := before.roster }
  | before, _ => before

/-- Whether a worker has come to the end of its task, and the crash it ended with. -/
def taskEnd? {Task : Type} : Option (Position Task) → Option (Option Crash)
  | some (.working _) => none
  | some (.crashed crash) => some (some crash)
  | some (.leaving crash) | some (.left crash) => some crash
  | none => some none

/-- Whether the single worker has come to the end of its task, and the crash it ended with. -/
def soloEnd? : Engine → Option (Option Crash)
  | .writing writer => taskEnd? (writer.position? 0)
  | .reading reader => taskEnd? (reader.position? 0)
  | .idling pool => taskEnd? (pool.position? 0)

/-- Runs the task of a single worker under any name, without its way out: a crash is the answer and
is not printed. -/
def work (drill : Drill) (name : Int) : Except Failure Drill × Drill :=
  let solo := { drill with engine := soloEngine drill.engine }
  let stepTask := fun (drill : Drill) =>
    if (soloEnd? drill.engine).isSome then none else (drill.prepare 0).advance (fun _ => name) 0
  let ended := iterate stepTask solo.fuel solo
  let after := { ended with engine := restoreRoster drill.engine ended.engine }
  match soloEnd? ended.engine with
  | some (some crash) => (.error (.crash crash), after)
  | _ => (.ok after, after)

/-- Waits for the workers. -/
def wait (drill : Drill) : Except Failure DrillReply :=
  match drill.engine with
  | .writing writer =>
    match writer.wait with
    | some result => result.map DrillReply.written
    | none => .ok .nothing
  | .reading reader =>
    match reader.wait with
    | some result => result.map DrillReply.read
    | none => .ok .nothing
  | .idling pool =>
    match Pool.join Idle.poolName pool with
    | some result => result.map fun _ => .nothing
    | none => .ok .nothing

/-- Prints a progress line at each of the given times. -/
def report (drill : Drill) (clocks : List Float) : Drill :=
  clocks.foldl (fun drill now =>
    let (line, looked) := { drill with clock := now }.progressLine
    { looked with lines := .out line :: looked.lines }) drill

/-- Links a reader to a source set by hand. -/
def linkTo (drill : Drill) (source : ScriptedSource) (script : List Cue) :
    Except Failure Drill :=
  match drill.engine with
  | .reading reader => do
    orConfig reader.checkLink
    return { drill with link := some source, script, polls := [] }
  | .writing _ | .idling _ => drill.engine.refuse "link_to_writer"

/-- Configures a writer. -/
def configureWriter (drill : Drill) (multiPut : Bool)
    (minColumns maxColumns minSize maxSize : Int) : Except Failure Drill :=
  match drill.engine with
  | .writing writer => do
    let configured ← orConfig
      (writer.configure multiPut minColumns maxColumns minSize maxSize)
    return { drill with engine := .writing configured }
  | .reading _ | .idling _ => drill.engine.refuse "configure"

/-- Configures a reader. -/
def configureReader (drill : Drill) (verifyPercent maxErrors keyWindow : Int) :
    Except Failure Drill :=
  match drill.engine with
  | .reading reader => do
    let configured ← orConfig (reader.configure verifyPercent maxErrors keyWindow)
    return { drill with engine := .reading configured }
  | .writing _ | .idling _ => drill.engine.refuse "configure"

/-- The view of a writer that a reader has. -/
def writerLink (drill : Drill) (lastKey keyWindow : Int) : Except Failure DrillReply :=
  match drill.engine with
  | .writing writer =>
    .ok (.link writer.watermark writer.finished
      (readableUpTo writer.watermark lastKey keyWindow))
  | .reading _ | .idling _ => drill.engine.refuse "link"

/-- A change of the drill that answers nothing; a refusal leaves the drill as it was. -/
def settle (drill : Drill) : Except Failure Drill → Except Failure DrillReply × Drill
  | .ok next => (.ok .nothing, next)
  | .error failure => (.error failure, drill)

/-- Carries out a command. -/
def perform (drill : Drill) : DrillCommand → Except Failure DrillReply × Drill
  | .configureWriter multiPut minColumns maxColumns minSize maxSize =>
    drill.settle (drill.configureWriter multiPut minColumns maxColumns minSize maxSize)
  | .configureReader verifyPercent maxErrors keyWindow =>
    drill.settle (drill.configureReader verifyPercent maxErrors keyWindow)
  | .link source script => drill.settle (drill.linkTo source script)
  | .start first limit threads => drill.settle (drill.start first limit threads)
  | .begin first limit threads => drill.settle (drill.begin first limit threads)
  | .work name =>
    let (result, after) := drill.work name
    (result.map fun _ => .nothing, after)
  | .wait => (drill.wait, drill)
  | .stop => (.ok .nothing, drill.stop)
  | .clock now => (.ok .nothing, { drill with clock := now })
  | .progress =>
    let (line, looked) := drill.progressLine
    (.ok (.line line), looked)
  | .report clocks => (.ok (.waits (clocks.length + 1)), drill.report clocks)
  | .writerLink lastKey keyWindow => (drill.writerLink lastKey keyWindow, drill)
  | .polls => (.ok (.polls drill.polls.reverse), { drill with polls := [] })
  | .calls =>
    let sorted := drill.store.log.reverse.mergeSort fun first second => first.key ≤ second.key
    (.ok (.calls sorted), { drill with store := { drill.store with log := [] } })
  | .dump => (.ok (.dump drill.store.memory.dump), drill)

/-- Takes the lines printed so far, in order. -/
def takeLines (drill : Drill) : List Line × Drill :=
  (drill.lines.reverse, { drill with lines := [] })

end Drill

end LoadVerifier
