/-
This file holds the pool: a fixed set of workers that share a claim cursor, a stop flag and a few
counters.

A worker is a position in its program. While it works, each of its steps is one access to
something shared: a look at a flag, a claim, a count, a store call. What those steps are depends
on the kind of pool, so the step function of the task is a parameter; a task can change only what
the workers share, never who is working. When its task is over a worker leaves, and the last one to
leave marks the pool as finished. A worker that crashes reports it, asks the others to stop, and
then leaves like the others.

The workers take their steps in any order. Nothing here says which worker is next, so whatever
holds after every step holds under every schedule.
-/
import LoadVerifier.Error
import LoadVerifier.Key.Cursor
import Std.Data.TreeMap

namespace LoadVerifier

/-- A line that a worker prints. -/
inductive Notice
  | writeFailed (worker : Int) (key : Int) (reason : String)
  | readProblem (worker : Int) (problem : String)
  | aborting (errors : Nat) (limit : Int)
  | crashed (pool : String) (worker : Int) (crash : Crash)
  deriving DecidableEq

/-- The text of a notice. -/
def Notice.text : Notice → String
  | .writeFailed worker key reason =>
    s!"[writer {worker}] ERROR: failed to write key {key}: {reason}"
  | .readProblem worker problem => s!"[reader {worker}] ERROR: {problem}"
  | .aborting errors limit => s!"[reader] aborting: {errors} errors exceed the limit of {limit}"
  | .crashed pool worker crash => s!"[{pool} {worker}] ERROR: {crash.report}"

/-- What the tasks of a pool share, whatever their kind. -/
structure Shared where
  cursor : Option Cursor := none
  stopRequested : Bool := false
  numKeys : Nat := 0
  numColumns : Nat := 0

/-- How a step of a task ends. -/
inductive Move (Task : Type)
  | to (task : Task)
  | exit
  | crash (crash : Crash)

/-- The outcome of one step of a task: the move, everything shared after it, the world outside
the pool after it, and the lines printed. -/
structure Turn (State Task World : Type) where
  move : Move Task
  shared : Shared
  state : State
  world : World
  notices : List Notice := []

/-- The steps of a kind of task, for the worker with the given number. -/
abbrev Advance (State Task World : Type) :=
  (worker : Int) → Task → Shared → State → World → Turn State Task World

/-- Where a worker is: at its task, with an unexpected crash, on its way out, or gone. -/
inductive Position (Task : Type)
  | working (task : Task)
  | crashed (crash : Crash)
  | leaving (crash : Option Crash)
  | left (crash : Option Crash)

/-- The workers of a pool, and how many of them have not left. All start at the same task; only
those that have taken a step have a position of their own. -/
structure Roster (Task : Type) where
  task : Task
  count : Nat
  moved : Std.TreeMap Nat (Position Task) := ∅
  active : Nat
  finished : Bool
  startedAt : Float

/-- A pool: what its workers share, and the workers once they are started. -/
structure Pool (State Task : Type) where
  shared : Shared := {}
  state : State
  roster : Option (Roster Task) := none

namespace Roster

variable {Task : Type}

/-- The workers of a pool that has just started, all at the same task. -/
def ofTask (task : Task) (count : Nat) (startedAt : Float) : Roster Task :=
  { task, count, active := count, finished := false, startedAt }

/-- Where a worker is, if there is one of this number. -/
def position? (roster : Roster Task) (worker : Nat) : Option (Position Task) :=
  if worker < roster.count then some (roster.moved[worker]?.getD (.working roster.task)) else none

/-- Moves one worker. -/
def place (roster : Roster Task) (worker : Nat) (position : Position Task) : Roster Task :=
  { roster with moved := roster.moved.insert worker position }

theorem position?_place (roster : Roster Task) (worker other : Nat) (position : Position Task) :
    (roster.place worker position).position? other =
      if worker = other ∧ other < roster.count then some position
      else roster.position? other := by
  simp only [position?, place, Std.TreeMap.getElem?_insert, Nat.compare_eq_eq]
  by_cases same : worker = other <;> by_cases known : other < roster.count <;> simp [same, known]

/-- Counts a worker out; the last one finishes the pool. -/
def countOut (roster : Roster Task) : Roster Task :=
  { roster with
    active := roster.active - 1
    finished := roster.finished || roster.active - 1 == 0 }

/-- The crash with which a worker left. -/
def leftCrash? : Position Task → Option Crash
  | .left crash => crash
  | _ => none

/-- Whether a worker has left. -/
def hasLeft : Position Task → Bool
  | .left _ => true
  | _ => false

/-- Whether all workers have left. -/
def allLeft (roster : Roster Task) : Bool :=
  (List.range roster.count).all fun worker => (roster.position? worker).any hasLeft

/-- The crash of the first worker that crashed. -/
def firstCrash? (roster : Roster Task) : Option Crash :=
  (List.range roster.count).findSome? fun worker => (roster.position? worker).bind leftCrash?

end Roster

namespace Pool

variable {State Task World : Type}

/-- Whether the pool has a range, and so cannot be configured any more. -/
def started (pool : Pool State Task) : Bool := pool.shared.cursor.isSome

/-- Whether every worker has left. -/
def finished (pool : Pool State Task) : Bool := pool.roster.any (·.finished)

/-- The number of workers that have not left. -/
def active (pool : Pool State Task) : Nat := (pool.roster.map (·.active)).getD 0

/-- The range of the pool, once it has one. -/
def range? (pool : Pool State Task) : Option KeyRange := pool.shared.cursor.map (·.range)

/-- The number of keys handed to workers so far. -/
def keysClaimed (pool : Pool State Task) : Int := (pool.shared.cursor.map (·.claimed)).getD 0

/-- Asks the workers to claim no further keys. -/
def stop (pool : Pool State Task) : Pool State Task :=
  { pool with shared := { pool.shared with stopRequested := true } }

/-- Gives the pool its range, once, for a possible number of workers. -/
def begin (name : String) (pool : Pool State Task) (range : KeyRange) (threads : Int) :
    Except ConfigError (Pool State Task) :=
  if pool.started then .error (.alreadyStarted name)
  else if threads < 1 ∨ maxThreads < threads then .error (.threadsOutOfRange name threads)
  else .ok { pool with shared := { pool.shared with cursor := some (.ofRange range) } }

/-- Starts the workers at the given task. -/
def spawn (pool : Pool State Task) (task : Task) (threads : Int) (now : Float) :
    Pool State Task :=
  { pool with roster := some (.ofTask task threads.toNat now) }

/-- The position of a worker. -/
def position? (pool : Pool State Task) (worker : Nat) : Option (Position Task) :=
  pool.roster.bind (·.position? worker)

/-- Where a worker goes after a move. -/
def positionAfter : Move Task → Position Task
  | .to task => .working task
  | .exit => .leaving none
  | .crash crash => .crashed crash

/-- One step of one worker; `none` when there is no such worker or it has left. -/
def step (name : String) (advance : Advance State Task World) (pool : Pool State Task)
    (world : World) (worker : Nat) : Option (Pool State Task × World × List Notice) :=
  match pool.roster with
  | none => none
  | some roster =>
    match roster.position? worker with
    | none | some (.left _) => none
    | some (.working task) =>
      let turn := advance worker task pool.shared pool.state world
      some (⟨turn.shared, turn.state, some (roster.place worker (positionAfter turn.move))⟩,
        turn.world, turn.notices)
    | some (.crashed crash) =>
      some ({ pool.stop with roster := some (roster.place worker (.leaving (some crash))) },
        world, [.crashed name worker crash])
    | some (.leaving crash) =>
      some ({ pool with roster := some (roster.place worker (.left crash)).countOut }, world, [])

/-- Waits for the workers: `none` as long as one has not left, and then the crash of the first
worker that crashed, if any did. -/
def join (name : String) (pool : Pool State Task) : Option (Except Failure Unit) :=
  match pool.roster with
  | none => some (.error (.config (.neverStarted name)))
  | some roster =>
    if roster.allLeft then
      match roster.firstCrash? with
      | some crash => some (.error (.crash crash))
      | none => some (.ok ())
    else none

end Pool

end LoadVerifier
