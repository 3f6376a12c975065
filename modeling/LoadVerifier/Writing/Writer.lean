/-
This file holds the writer pool.

Each worker claims the next key, generates its record and stores it, in one call for the whole row
or in one call for each column. When all calls of a key returned, the key is completed, which may
move the watermark, and then counted. When a call is refused the key is noted as failed and the
worker goes on to the next one; the watermark never passes a failed key.

The watermark may be asked for at any time in the life of a writer. Before it has a range it is
-1, and from then on it is never below the key before the range.
-/
import LoadVerifier.Pool.Progress
import LoadVerifier.Record.Generate
import LoadVerifier.Store.Basic
import LoadVerifier.Writing.Result
import LoadVerifier.Writing.Watermark

namespace LoadVerifier

/-- What the workers of a writer share besides what all pools share. -/
structure WriterState where
  bounds : Option Bounds := none
  multiPut : Bool := false
  written : Option WrittenPrefix := none
  failedKeys : Std.TreeSet Int := ∅

/-- Where a worker of a writer is in its program. -/
inductive WriterTask
  | checkStop
  | claim
  | write (record : Record) (calls : List Columns)
  | fail (key : Int) (reason : String)
  | complete (record : Record)
  | count (record : Record)

/-- A writer pool. -/
abbrev Writer := Pool WriterState WriterTask

namespace Writer

/-- The name of writer pools in messages. -/
def poolName : String := "writer"

/-- A writer that is not configured yet. -/
def new : Writer := { state := {} }

/-- The store calls that write a record, in order. -/
def callsFor (multiPut : Bool) (record : Record) : List Columns :=
  if multiPut then [record.columns]
  else record.columns.cells.map fun cell => .single cell.1 cell.2

/-! ### The program of a worker -/

section Advance

variable {Storage : Type} [Store Storage]

/-- Claims a key and generates its record. A worker that finds no range, or that claims a key
before there are bounds, crashes. -/
def claimStep (shared : Shared) (state : WriterState) (store : Storage) :
    Turn WriterState WriterTask Storage :=
  match shared.cursor with
  | none => { move := .crash (.lacking .cursor), shared, state, world := store }
  | some cursor =>
    match cursor.claim with
    | (none, _) => { move := .exit, shared, state, world := store }
    | (some key, after) =>
      let shared := { shared with cursor := some after }
      match state.bounds with
      | none => { move := .crash (.lacking .bounds), shared, state, world := store }
      | some bounds =>
        match generate key bounds with
        | .error error => { move := .crash (.generation error), shared, state, world := store }
        | .ok record =>
          let move := .to (.write record (callsFor state.multiPut record))
          { move, shared, state, world := store }

/-- Makes the next store call of a record. -/
def writeStep (worker : Int) (record : Record) (calls : List Columns) (shared : Shared)
    (state : WriterState) (store : Storage) : Turn WriterState WriterTask Storage :=
  match calls with
  | [] => { move := .to (.complete record), shared, state, world := store }
  | call :: rest =>
    let (result, store) := Store.write store ⟨.writer, worker⟩ record.key call
    let move : Move WriterTask := match result with
      | .done _ => if rest.isEmpty then .to (.complete record) else .to (.write record rest)
      | .failed failure => .to (.fail record.key failure.message)
      | .crashed crash => .crash crash
    { move, shared, state, world := store }

/-- Completes a key. A worker of a writer that was never started has nothing to note it in. -/
def completeStep (record : Record) (shared : Shared) (state : WriterState) (store : Storage) :
    Turn WriterState WriterTask Storage :=
  match state.written with
  | none => { move := .crash (.lacking .written), shared, state, world := store }
  | some written =>
    let (answer, written) := written.complete record.key
    let state := { state with written := some written }
    let move : Move WriterTask := match answer with
      | .ok _ => .to (.count record)
      | .error crash => .crash crash
    { move, shared, state, world := store }

/-- One step of a worker of a writer. -/
def advance : Advance WriterState WriterTask Storage
  | _, .checkStop, shared, state, store =>
    { move := if shared.stopRequested then .exit else .to .claim, shared, state, world := store }
  | _, .claim, shared, state, store => claimStep shared state store
  | worker, .write record calls, shared, state, store =>
    writeStep worker record calls shared state store
  | worker, .fail key reason, shared, state, store =>
    let state := { state with failedKeys := state.failedKeys.insert key }
    { move := .to .checkStop, shared, state, world := store,
      notices := [.writeFailed worker key reason] }
  | _, .complete record, shared, state, store => completeStep record shared state store
  | _, .count record, shared, state, store =>
    let shared := { shared with
      numKeys := shared.numKeys + 1
      numColumns := shared.numColumns + record.numColumns }
    { move := .to .checkStop, shared, state, world := store }

/-- One step of one worker. -/
def step (writer : Writer) (store : Storage) (worker : Nat) :
    Option (Writer × Storage × List Notice) :=
  Pool.step poolName advance writer store worker

end Advance

/-! ### The life of a writer -/

/-- Sets the write mode and the bounds, before the start. -/
def configure (writer : Writer) (multiPut : Bool)
    (minColumns maxColumns minSize maxSize : Int) : Except ConfigError Writer := do
  if writer.started then throw (.configuredLate poolName)
  let bounds ← Bounds.make minColumns maxColumns minSize maxSize
  return { writer with state := { writer.state with bounds := some bounds, multiPut } }

/-- Starts the workers on a range. -/
def start (writer : Writer) (range : KeyRange) (threads : Int) (now : Float) :
    Except ConfigError Writer := do
  if writer.state.bounds.isNone then throw .notConfigured
  let begun ← Pool.begin poolName writer range threads
  let written := some (WrittenPrefix.ofStart range.start)
  return Pool.spawn { begun with state := { begun.state with written } } .checkStop threads now

/-- The last key up to which every key is stored. -/
def watermark (writer : Writer) : Int :=
  match writer.state.written with
  | some written => written.watermark
  | none =>
    match writer.range? with
    | some range => range.start - 1
    | none => -1

/-- The result of a writer whose workers have left. -/
def result (writer : Writer) : WriteResult where
  keysWritten := writer.shared.numKeys
  columnsWritten := writer.shared.numColumns
  failedKeys := writer.state.failedKeys.toList
  watermark := writer.watermark
  stopped := writer.shared.stopRequested

/-- Waits for the workers; `none` as long as one has not left. -/
def wait (writer : Writer) : Option (Except Failure WriteResult) :=
  (Pool.join poolName writer).map fun joined => joined.map fun _ => writer.result

/-- What a writer adds to its progress line. -/
def progressExtra (writer : Writer) : String :=
  let failed := writer.state.failedKeys.size
  let mark := s!"watermark={writer.watermark}"
  if failed = 0 then mark else s!"{mark} failed={failed}"

end Writer

end LoadVerifier
