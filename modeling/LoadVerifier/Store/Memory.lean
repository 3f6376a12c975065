/-
This file holds the store that keeps its rows in memory. No call of it fails.
-/
import LoadVerifier.Record.Generate
import LoadVerifier.Store.Basic
import Std.Data.TreeMap

namespace LoadVerifier

/-- Rows in memory, in ascending order of their keys. -/
structure MemoryStore where
  rows : Std.TreeMap Int Columns := ∅

namespace MemoryStore

/-- The row of a key. -/
def row? (store : MemoryStore) (key : Int) : Option Columns := store.rows[key]?

/-- Merges columns into the row of a key; a key without a row gets one. -/
def merge (store : MemoryStore) (key : Int) (columns : Columns) : MemoryStore :=
  ⟨store.rows.insert key (((store.row? key).getD .empty).insertAll columns)⟩

/-- Sets one cell. -/
def setCell (store : MemoryStore) (key column : Int) (value : Bytes) : MemoryStore :=
  store.merge key (.single column value)

/-- Removes the row of a key. -/
def delete (store : MemoryStore) (key : Int) : MemoryStore := ⟨store.rows.erase key⟩

/-- The keys that have a row, in ascending order. -/
def keys (store : MemoryStore) : List Int := store.rows.keys

/-- The number of rows. -/
def size (store : MemoryStore) : Nat := store.rows.size

/-- Whether a key has a row. -/
def contains (store : MemoryStore) (key : Int) : Bool := store.rows.contains key

/-- All rows in ascending order of their keys. -/
def dump (store : MemoryStore) : List (Int × Columns) := store.rows.toList

/-- Stores the generated records of `count` keys from `start` on. -/
def populate (store : MemoryStore) (bounds : Bounds) (start : Int) :
    (count : Nat) → Except GenerationError MemoryStore
  | 0 => .ok store
  | count + 1 => do
    let record ← generate start bounds
    (store.merge start record.columns).populate bounds (start + 1) count

instance : Store MemoryStore where
  write store _ key columns := (.done (), store.merge key columns)
  read store _ key := (.done (store.row? key), store)

end MemoryStore

end LoadVerifier
