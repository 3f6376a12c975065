/-
This file rehearses one pool against a faulty store and a link set by hand.

The workers are run one after another: each takes steps until it has left or its next store call is
held back, and in a second round the held calls go on. That is one schedule among all, and a
rehearsal asks only for what every schedule gives. Where a worker would sleep, the drill notes the
poll and takes the next cue of its script instead, so no time passes; after the last cue the writer
counts as finished.
-/
import LoadVerifier.Pool.Iterate
import LoadVerifier.Reading.Reader
import LoadVerifier.Store.Faulty
import LoadVerifier.Writing.Writer

namespace LoadVerifier

/-- What happens while a worker would sleep. -/
structure Cue where
  mark : Option Int := none
  done : Option Bool := none
  clock : Option Float := none
  progress : Bool := false
  stop : Bool := false

/-- What was seen when a worker would have slept; the delay is in milliseconds. -/
structure Poll where
  delay : Nat
  claimed : Int
  keysRead : Nat
  progress : Option String

/-- A pool without work: its workers do not know what to do. -/
abbrev Idle := Pool Unit Unit

/-- The name of pools without work in messages. -/
def Idle.poolName : String := "action"

/-- The only step of a worker without work. -/
def Idle.advance : Advance Unit Unit Unit := fun _ _ shared state world =>
  { move := .crash .notImplemented, shared, state, world }

/-- The pool under rehearsal. -/
inductive Engine
  | writing (writer : Writer)
  | reading (reader : Reader)
  | idling (pool : Idle)

namespace Engine

/-- What the workers share, whatever the kind of pool. -/
def shared : Engine → Shared
  | .writing writer => writer.shared
  | .reading reader => reader.shared
  | .idling pool => pool.shared

/-- Whether the pool has a range. -/
def started (engine : Engine) : Bool := engine.shared.cursor.isSome

/-- The number of keys handed to workers so far. -/
def keysClaimed : Engine → Int
  | .writing writer => writer.keysClaimed
  | .reading reader => reader.keysClaimed
  | .idling pool => pool.keysClaimed

/-- Whether every worker has left. -/
def finished : Engine → Bool
  | .writing writer => writer.finished
  | .reading reader => reader.finished
  | .idling pool => pool.finished

/-- Asks the workers to claim no further keys. -/
def stop : Engine → Engine
  | .writing writer => .writing (Pool.stop writer)
  | .reading reader => .reading (Pool.stop reader)
  | .idling pool => .idling (Pool.stop pool)

/-- The number of workers. -/
def workers : Engine → Nat
  | .writing writer => (writer.roster.map (·.count)).getD 0
  | .reading reader => (reader.roster.map (·.count)).getD 0
  | .idling pool => (pool.roster.map (·.count)).getD 0

/-- The largest number of store calls for one key. -/
def callsPerKey : Engine → Nat
  | .writing writer => (writer.state.bounds.map (·.maxColumns)).getD 0
  | .reading _ | .idling _ => 1

/-- The key of the store call that a worker makes next, if its next step is one. -/
def pendingKey? (engine : Engine) (worker : Nat) : Option Int :=
  match engine with
  | .writing writer =>
    match writer.position? worker with
    | some (.working (.write record (_ :: _))) => some record.key
    | _ => none
  | .reading reader =>
    match reader.position? worker with
    | some (.working (.read _ key _)) => some key
    | _ => none
  | .idling _ => none

/-- The delay that a worker would sleep next, if its next step is a sleep. -/
def pendingDelay? (engine : Engine) (worker : Nat) : Option Nat :=
  match engine with
  | .reading reader =>
    match reader.position? worker with
    | some (.working (.pause _ _ delay)) => some delay
    | _ => none
  | .writing _ | .idling _ => none

end Engine

/-- A rehearsal: the pool, its surroundings, and what was noted so far, latest first. -/
structure Drill where
  engine : Engine
  store : FaultyStore
  link : Option ScriptedSource := none
  script : List Cue := []
  polls : List Poll := []
  clock : Float := 0.0
  lines : List Line := []

namespace Drill

/-- Asks the workers to stop. -/
def stop (drill : Drill) : Drill := { drill with engine := drill.engine.stop }

/-- The progress line of the pool at this moment. A linked reader looks at the watermark for it. -/
def progressLine (drill : Drill) : String × Drill :=
  match drill.engine with
  | .writing writer =>
    (Pool.progressLine Writer.poolName writer drill.clock writer.progressExtra, drill)
  | .idling pool => (Pool.progressLine Idle.poolName pool drill.clock "", drill)
  | .reading reader =>
    let look := drill.link.map WatermarkSource.mark
    let extra := reader.progressExtra (look.map (·.1))
    (Pool.progressLine Reader.poolName reader drill.clock extra,
      { drill with link := look.map (·.2) })

/-- Notes that a worker would sleep, and takes the next cue. -/
def poll (drill : Drill) (delay : Nat) : Drill :=
  let cue := drill.script.headD { done := some true }
  let link := drill.link.map fun source =>
    { source with mark := cue.mark.getD source.mark, done := cue.done.getD source.done }
  let cued := { drill with
    link, script := drill.script.tail, clock := cue.clock.getD drill.clock }
  let (line, looked) := if cue.progress then
      let (line, looked) := cued.progressLine
      (some line, looked)
    else (none, cued)
  let noted : Poll :=
    ⟨delay, drill.engine.keysClaimed, drill.engine.shared.numKeys, line⟩
  let polled := { looked with polls := noted :: looked.polls }
  if cue.stop then polled.stop else polled

/-- What happens around a worker just before its next step. -/
def prepare (drill : Drill) (worker : Nat) : Drill :=
  match drill.engine.pendingKey? worker with
  | some key => if drill.store.stops key then drill.stop else drill
  | none =>
    match drill.engine.pendingDelay? worker with
    | some delay => drill.poll delay
    | none => drill

/-- Adds the lines of some notices. -/
def print (drill : Drill) (notices : List Notice) : Drill :=
  { drill with
    lines := notices.foldl (fun lines notice => .err notice.text :: lines) drill.lines }

/-- One step of one worker. What it does and prints is done under the name it goes by, which need
not be its place in the pool. -/
def advance (drill : Drill) (name : Int → Int) (worker : Nat) : Option Drill :=
  match drill.engine with
  | .writing writer =>
    let advance := fun number => Writer.advance (name number)
    (Pool.step Writer.poolName advance writer drill.store worker).map
      fun (writer, store, notices) =>
        { drill with engine := .writing writer, store }.print notices
  | .reading reader =>
    let advance := fun number => Reader.advance (name number)
    let world : ReaderWorld FaultyStore ScriptedSource := ⟨drill.store, drill.link⟩
    (Pool.step Reader.poolName advance reader world worker).map fun (reader, world, notices) =>
      { drill with engine := .reading reader, store := world.store, link := world.source }.print
        notices
  | .idling pool =>
    (Pool.step Idle.poolName Idle.advance pool () worker).map fun (pool, _, notices) =>
      { drill with engine := .idling pool }.print notices

/-- Whether the next store call of a worker is held back. -/
def isHeld (drill : Drill) (worker : Nat) : Bool :=
  !drill.engine.shared.stopRequested &&
    (drill.engine.pendingKey? worker).any drill.store.holds

/-- One step of one worker; a patient schedule leaves a worker alone whose call is held back. -/
def step (patient : Bool) (worker : Nat) (drill : Drill) : Option Drill :=
  if patient && drill.isHeld worker then none else (drill.prepare worker).advance id worker

/-- More steps than one worker takes. -/
def fuel (drill : Drill) : Nat :=
  let keys := (drill.engine.shared.cursor.map (·.range.size)).getD 0
  (keys + 2) * (drill.engine.callsPerKey + 4 * drill.script.length + 20)

/-- Runs every worker until it has left. -/
def drain (drill : Drill) : Drill :=
  let round := fun (patient : Bool) (drill : Drill) =>
    (List.range drill.engine.workers).foldl
      (fun drill worker => iterate (step patient worker) drill.fuel drill) drill
  round false (round true drill)

end Drill

end LoadVerifier
