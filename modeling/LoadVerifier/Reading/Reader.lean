/-
This file holds the reader pool.

Each worker claims the next key. A linked reader then waits until the writer is far enough ahead;
it gives the key up when the reader is stopped meanwhile, and counts it as unreachable when the
writer finished without reaching it. A readable key is read, and for a sampled share of the keys
the row is compared with the record generated for the key. A refused read, a missing row and a
wrong row each count as one error of the key. One error more than the limit aborts the reader: the
abort flag is set once, and then the stop flag.

The sample is drawn for every key that is read, whatever the percentage and whatever the read
gives, from a stream of the worker's own. A worker that cannot have such a stream crashes before it
claims a key.
-/
import LoadVerifier.Given
import LoadVerifier.Pool.Progress
import LoadVerifier.Reading.Link
import LoadVerifier.Reading.Result
import LoadVerifier.Reading.Tally
import LoadVerifier.Record.Compare
import LoadVerifier.Store.Basic

namespace LoadVerifier

open LoadVerifier.Random

/-- What the workers of a reader share besides what all pools share. -/
structure ReaderState where
  bounds : Bounds
  seed : Given Int
  verifyPercent : Int := 0
  maxErrors : Int := defaultMaxErrors
  keyWindow : Int := defaultKeyWindow
  tally : ReadTally := {}
  aborted : Bool := false

/-- Where a worker of a reader is in its program. All but the first place carry the stream from
which the worker draws its sample. A delay is counted in milliseconds. -/
inductive ReaderTask
  | seed
  | checkStop (stream : Stream)
  | claim (stream : Stream)
  | look (stream : Stream) (key : Int) (delay : Nat)
  | askFinished (stream : Stream) (key : Int) (delay : Nat)
  | lookAgain (stream : Stream) (key : Int)
  | unreachable (stream : Stream) (key : Int)
  | pause (stream : Stream) (key : Int) (delay : Nat)
  | read (stream : Stream) (key : Int) (verify : Bool)
  | countRead (stream : Stream) (key : Int) (verify : Bool) (row : Option Columns)
  | countRow (stream : Stream) (key : Int) (verify : Bool) (row : Option Columns)
  | verified (stream : Stream) (key : Int)
  | recordError (stream : Stream) (key : Int) (problems : List Problem)
  | abort (stream : Stream) (errors : Nat)
  | stopPool (stream : Stream) (errors : Nat)

/-- A reader pool. -/
abbrev Reader := Pool ReaderState ReaderTask

/-- What a reader works on: the store, and the writer it is linked to, if it is. -/
structure ReaderWorld (Storage Source : Type) where
  store : Storage
  source : Option Source

namespace Reader

/-- The name of reader pools in messages. -/
def poolName : String := "reader"

/-- The number of keys with errors that are reported in full. -/
def maxReported : Nat := 20

/-- The first delay between two looks at the watermark. -/
def minDelay : Nat := 1

/-- The longest delay between two looks at the watermark. -/
def maxDelay : Nat := 100

/-- A reader that is not configured yet. -/
def new (bounds : Bounds) (seed : Given Int) : Reader := { state := { bounds, seed } }

/-! ### The program of a worker -/

section Advance

variable {Storage Source : Type} [Store Storage] [WatermarkSource Source]

/-- Goes on to another place in the program and changes nothing. -/
def goTo (task : ReaderTask) (shared : Shared) (state : ReaderState)
    (world : ReaderWorld Storage Source) :
    Turn ReaderState ReaderTask (ReaderWorld Storage Source) :=
  { move := .to task, shared, state, world }

/-- The stream of a worker, which the seed of the reader and the number of the worker give. -/
def streamOf (seed : Given Int) (worker : Int) : Except Crash Stream := do
  let base ← seed.need (.blank .seed)
  match Stream.seeded? [base + worker] with
  | some stream => return stream
  | none => .error (.generation .negativeSeed)

/-- The read of a key that is readable; the draw decides whether its row is compared. -/
def readTask (stream : Stream) (key : Int) (state : ReaderState) : ReaderTask :=
  let (drawn, rest) := stream.upTo 99
  .read rest key ((drawn : Int) < state.verifyPercent)

/-- Claims a key. A worker that finds no range crashes. -/
def claimStep (stream : Stream) (shared : Shared) (state : ReaderState)
    (world : ReaderWorld Storage Source) :
    Turn ReaderState ReaderTask (ReaderWorld Storage Source) :=
  match shared.cursor with
  | none => { move := .crash (.lacking .cursor), shared, state, world }
  | some cursor =>
    match cursor.claim with
    | (none, _) => { move := .exit, shared, state, world }
    | (some key, after) =>
      let shared := { shared with cursor := some after }
      if world.source.isSome then goTo (.look stream key minDelay) shared state world
      else goTo (readTask stream key state) shared state world

/-- The last key of the range. -/
def lastKey (shared : Shared) : Int := (shared.cursor.map (·.range.last)).getD (-1)

/-- Looks at the watermark. -/
def lookStep (stream : Stream) (key : Int) (delay : Nat) (shared : Shared) (state : ReaderState)
    (world : ReaderWorld Storage Source) :
    Turn ReaderState ReaderTask (ReaderWorld Storage Source) :=
  match world.source with
  | none => goTo (readTask stream key state) shared state world
  | some source =>
    let (mark, source) := WatermarkSource.mark source
    let world := { world with source := some source }
    if key ≤ readableUpTo mark (lastKey shared) state.keyWindow then
      goTo (readTask stream key state) shared state world
    else goTo (.askFinished stream key delay) shared state world

/-- Asks whether the watermark can still move. -/
def askFinishedStep (stream : Stream) (key : Int) (delay : Nat) (shared : Shared)
    (state : ReaderState) (world : ReaderWorld Storage Source) :
    Turn ReaderState ReaderTask (ReaderWorld Storage Source) :=
  match world.source with
  | none => goTo (readTask stream key state) shared state world
  | some source =>
    let (finished, source) := WatermarkSource.finished source
    let world := { world with source := some source }
    if finished then goTo (.lookAgain stream key) shared state world
    else goTo (.pause stream key delay) shared state world

/-- Looks at the watermark of a finished writer, which is final. -/
def lookAgainStep (stream : Stream) (key : Int) (shared : Shared) (state : ReaderState)
    (world : ReaderWorld Storage Source) :
    Turn ReaderState ReaderTask (ReaderWorld Storage Source) :=
  match world.source with
  | none => goTo (readTask stream key state) shared state world
  | some source =>
    let (mark, source) := WatermarkSource.mark source
    let world := { world with source := some source }
    if key ≤ mark then goTo (readTask stream key state) shared state world
    else goTo (.unreachable stream key) shared state world

/-- Reads the row of a key. -/
def readStep (worker : Int) (stream : Stream) (key : Int) (verify : Bool) (shared : Shared)
    (state : ReaderState) (world : ReaderWorld Storage Source) :
    Turn ReaderState ReaderTask (ReaderWorld Storage Source) :=
  let (result, store) := Store.read world.store ⟨.reader, worker⟩ key
  let world := { world with store }
  match result with
  | .done row => goTo (.countRead stream key verify row) shared state world
  | .failed failure =>
    goTo (.recordError stream key [.unreadable failure.message]) shared state world
  | .crashed crash => { move := .crash crash, shared, state, world }

/-- What becomes of a row that was counted. -/
def judge (stream : Stream) (key : Int) (verify : Bool) (row : Option Columns) (bounds : Bounds) :
    Move ReaderTask :=
  match row with
  | none => .to (.recordError stream key [.noData])
  | some columns =>
    if verify then
      match generate key bounds with
      | .error error => .crash (.generation error)
      | .ok record =>
        match compareColumns record columns with
        | [] => .to (.verified stream key)
        | problems => .to (.recordError stream key problems)
    else .to (.checkStop stream)

/-- Counts an error of a key, and reports it unless there were many before. -/
def recordErrorStep (worker : Int) (stream : Stream) (key : Int) (problems : List Problem)
    (shared : Shared) (state : ReaderState) (world : ReaderWorld Storage Source) :
    Turn ReaderState ReaderTask (ReaderWorld Storage Source) :=
  let tally := state.tally.countError key
  let notices := if tally.errors ≤ maxReported then
      problems.map fun problem => Notice.readProblem worker (problem.text key)
    else []
  let task := if (tally.errors : Int) ≤ state.maxErrors then .checkStop stream
    else .abort stream tally.errors
  { move := .to task, shared, state := { state with tally }, world, notices }

/-- One step of a worker of a reader. -/
def advance : Advance ReaderState ReaderTask (ReaderWorld Storage Source)
  | worker, .seed, shared, state, world =>
    match streamOf state.seed worker with
    | .error crash => { move := .crash crash, shared, state, world }
    | .ok stream => goTo (.checkStop stream) shared state world
  | _, .checkStop stream, shared, state, world =>
    if shared.stopRequested then { move := .exit, shared, state, world }
    else goTo (.claim stream) shared state world
  | _, .claim stream, shared, state, world => claimStep stream shared state world
  | _, .look stream key delay, shared, state, world => lookStep stream key delay shared state world
  | _, .askFinished stream key delay, shared, state, world =>
    askFinishedStep stream key delay shared state world
  | _, .lookAgain stream key, shared, state, world => lookAgainStep stream key shared state world
  | _, .unreachable stream _, shared, state, world =>
    goTo (.checkStop stream) shared { state with tally := state.tally.countUnreachable } world
  | _, .pause stream key delay, shared, state, world =>
    if shared.stopRequested then goTo (.checkStop stream) shared state world
    else goTo (.look stream key (min (2 * delay) maxDelay)) shared state world
  | worker, .read stream key verify, shared, state, world =>
    readStep worker stream key verify shared state world
  | _, .countRead stream key verify row, shared, state, world =>
    goTo (.countRow stream key verify row) shared { state with tally := state.tally.countRead }
      world
  | _, .countRow stream key verify row, shared, state, world =>
    let shared := { shared with
      numKeys := shared.numKeys + 1
      numColumns := shared.numColumns + (row.map ColumnMap.size).getD 0 }
    { move := judge stream key verify row state.bounds, shared, state, world }
  | _, .verified stream _, shared, state, world =>
    goTo (.checkStop stream) shared { state with tally := state.tally.countVerified } world
  | worker, .recordError stream key problems, shared, state, world =>
    recordErrorStep worker stream key problems shared state world
  | _, .abort stream errors, shared, state, world =>
    if state.aborted then goTo (.checkStop stream) shared state world
    else goTo (.stopPool stream errors) shared { state with aborted := true } world
  | _, .stopPool stream errors, shared, state, world =>
    { move := .to (.checkStop stream), shared := { shared with stopRequested := true }, state,
      world, notices := [.aborting errors state.maxErrors] }

/-- One step of one worker. -/
def step (reader : Reader) (world : ReaderWorld Storage Source) (worker : Nat) :
    Option (Reader × ReaderWorld Storage Source × List Notice) :=
  Pool.step poolName advance reader world worker

end Advance

/-! ### The life of a reader -/

/-- Sets the share of keys to compare, the limit of errors and the window, before the start. -/
def configure (reader : Reader) (verifyPercent maxErrors keyWindow : Int) :
    Except ConfigError Reader :=
  if reader.started then .error (.configuredLate poolName)
  else if verifyPercent < 0 ∨ 100 < verifyPercent then
    .error (.verifyPercentOutOfRange verifyPercent)
  else if maxErrors < 0 then .error (.negativeMaxErrors maxErrors)
  else if keyWindow < 0 then .error (.negativeKeyWindow keyWindow)
  else .ok { reader with state := { reader.state with verifyPercent, maxErrors, keyWindow } }

/-- Whether a reader may still be linked to a writer. -/
def checkLink (reader : Reader) : Except ConfigError Unit :=
  if reader.started then .error .linkedLate else .ok ()

/-- Starts the workers on a range. -/
def start (reader : Reader) (range : KeyRange) (threads : Int) (now : Float) :
    Except ConfigError Reader := do
  let begun ← Pool.begin poolName reader range threads
  return begun.spawn .seed threads now

/-- How a reader whose workers have left ended. -/
def status (reader : Reader) : ReadStatus :=
  if reader.state.aborted then .aborted
  else if reader.shared.stopRequested then .stopped
  else .completed

/-- The result of a reader whose workers have left. -/
def result (reader : Reader) : ReadResult where
  status := reader.status
  keysRead := reader.state.tally.keysRead
  verified := reader.state.tally.verified
  errors := reader.state.tally.errors
  unreachable := reader.state.tally.unreachable
  errorKeys := reader.state.tally.errorKeys.toList

/-- Waits for the workers; `none` as long as one has not left. -/
def wait (reader : Reader) : Option (Except Failure ReadResult) :=
  (Pool.join poolName reader).map fun joined => joined.map fun _ => reader.result

/-- What a reader adds to its progress line, given the watermark it sees. -/
def progressExtra (reader : Reader) (mark : Option Int) : String :=
  let counts :=
    s!"verified={Text.grouped reader.state.tally.verified} errors={reader.state.tally.errors}"
  match mark with
  | none => counts
  | some mark => s!"{counts} writer_watermark={mark}"

end Reader

end LoadVerifier
