/-
This file generates records. Every cell can be rebuilt from nothing but its key, its column and
the bounds, so a reader needs no copy of what a writer stored.

The number of columns comes from a stream seeded by the key; size and content of a cell come from
a stream seeded by the key and the column. A cell starts with its key and column in decimal
digits, so that a misplaced cell is recognised; a cell shorter than that is cut off.
-/
import LoadVerifier.Column.Map
import LoadVerifier.Random.Stream
import LoadVerifier.Record.Bounds

namespace LoadVerifier

open LoadVerifier.Random

/-- A generated row. -/
structure Record where
  key : Int
  columns : Columns
  deriving DecidableEq

namespace Record

/-- The number of columns. -/
def numColumns (record : Record) : Nat := record.columns.size

/-- The number of bytes in all cells together. -/
def numBytes (record : Record) : Nat :=
  record.columns.cells.foldl (fun total cell => total + cell.2.length) 0

end Record

/-- The bytes that a cell starts with: its key and its column, each followed by a colon. -/
def cellHeader (key column : Int) : Bytes :=
  (Text.decimal key ++ ':' :: Text.decimal column ++ [':']).map fun digit =>
    UInt8.ofNat digit.toNat

/-- A cell of the given size: its header, cut off or filled up with bytes of the stream. -/
def cellContent (header : Bytes) (size : Nat) (stream : Stream) : Bytes :=
  if size ≤ header.length then header.take size
  else header ++ (stream.bytes (size - header.length)).1

/-- The content of a cell. -/
def generateValue (key column : Int) (bounds : Bounds) : Except GenerationError Bytes :=
  match Stream.seeded? [key, column] with
  | none => .error .negativeSeed
  | some stream =>
    match stream.between? bounds.minSize bounds.maxSize with
    | none => .error .drawTooWide
    | some (size, rest) => .ok (cellContent (cellHeader key column) size rest)

/-- The number of columns of a key's row. -/
def generateColumnCount (key : Int) (bounds : Bounds) : Except GenerationError Nat :=
  match Stream.seeded? [key] with
  | none => .error .negativeSeed
  | some stream =>
    match stream.between? bounds.minColumns bounds.maxColumns with
    | none => .error .drawTooWide
    | some (count, _) => .ok count

/-- The cell of one column, with its number. -/
def generateCell (key : Int) (bounds : Bounds) (column : Nat) :
    Except GenerationError (Int × Bytes) :=
  (generateValue key column bounds).map fun value => ((column : Int), value)

theorem mapM_generateCell_fst (key : Int) (bounds : Bounds) (columns : List Nat)
    (cells : List (Int × Bytes))
    (generated : columns.mapM (generateCell key bounds) = .ok cells) :
    cells.map Prod.fst = columns.map fun (column : Nat) => (column : Int) := by
  induction columns generalizing cells with
  | nil =>
    rw [List.mapM_nil] at generated
    cases generated
    rfl
  | cons column rest inductionHypothesis =>
    rw [List.mapM_cons] at generated
    cases first : generateCell key bounds column with
    | error error => rw [first] at generated; cases generated
    | ok cell =>
      cases others : rest.mapM (generateCell key bounds) with
      | error error => rw [first, others] at generated; cases generated
      | ok tail =>
        rw [first, others] at generated
        cases generated
        have number : cell.1 = (column : Int) := by
          rw [generateCell] at first
          cases value : generateValue key column bounds with
          | error error => rw [value] at first; cases first
          | ok bytes => rw [value] at first; cases first; rfl
        rw [List.map_cons, List.map_cons, number, inductionHypothesis tail others]

theorem nodup_of_mapM_generateCell (key : Int) (bounds : Bounds) (count : Nat)
    (cells : List (Int × Bytes))
    (generated : (List.range count).mapM (generateCell key bounds) = .ok cells) :
    (cells.map Prod.fst).Nodup := by
  rw [mapM_generateCell_fst key bounds _ cells generated]
  exact List.Pairwise.map _ (fun _ _ different equal => different (Int.ofNat.inj equal))
    List.nodup_range

/-- The record of a key. -/
def generate (key : Int) (bounds : Bounds) : Except GenerationError Record :=
  if key < 0 then .error (.negativeKey key)
  else
    match generateColumnCount key bounds with
    | .error error => .error error
    | .ok count =>
      match generated : (List.range count).mapM (generateCell key bounds) with
      | .error error => .error error
      | .ok cells => .ok ⟨key, cells, nodup_of_mapM_generateCell key bounds count cells generated⟩

end LoadVerifier
