/-
This file holds a store in memory with faults on purpose, which counts its calls and keeps a log
of them. It is what a pool is rehearsed against.

A call is logged first. A call for a broken key then crashes. Otherwise a call for a failing key,
or a write with a failing cell, is refused as a whole and changes nothing. Whatever is left is
done by the rows in memory.
-/
import LoadVerifier.Store.Memory

namespace LoadVerifier

/-- The faults of a store. A held key keeps the first call for it waiting, and a call for the
stopping key asks the pool to stop; whoever schedules the workers sees to both. -/
structure Faults where
  held : List Int := []
  broken : List Int := []
  stopping : Option Int := none
  failingWrites : List Int := []
  failingReads : List Int := []
  failingCells : List (Int × Int) := []

/-- One logged call: the key, and the columns of a write in their order. -/
structure StoreCall where
  key : Int
  columns : Option (List Int)
  deriving DecidableEq

/-- Rows in memory with faults, the number of calls so far, the latest calls with the last one
first, and the keys that were called for. -/
structure FaultyStore where
  memory : MemoryStore := {}
  faults : Faults := {}
  calls : Nat := 0
  log : List StoreCall := []
  called : List Int := []

namespace FaultyStore

/-- Notes a call. Only held keys are remembered, because nothing else asks for them. -/
def note (store : FaultyStore) (call : StoreCall) : FaultyStore :=
  { store with
    calls := store.calls + 1
    log := call :: store.log
    called := if call.key ∈ store.faults.held then call.key :: store.called else store.called }

/-- Whether the next call for a key has to wait. -/
def holds (store : FaultyStore) (key : Int) : Bool :=
  store.faults.held.contains key && !store.called.contains key

/-- Whether the next call for a key asks the pool to stop. -/
def stops (store : FaultyStore) (key : Int) : Bool :=
  store.faults.stopping == some key && !store.faults.broken.contains key

/-- Whether a write is refused. -/
def refusesWrite (faults : Faults) (key : Int) (columns : Columns) : Bool :=
  faults.failingWrites.contains key ||
    faults.failingCells.any fun cell => cell.1 == key && columns.numbers.contains cell.2

/-- The crash of a call for a broken key. -/
def breakage (key : Int) : Crash := .store s!"boom {key}"

instance : Store FaultyStore where
  write store caller key columns :=
    let noted := store.note ⟨key, some columns.numbers⟩
    if noted.faults.broken.contains key then (.crashed (breakage key), noted)
    else if refusesWrite noted.faults key columns then
      (.failed ⟨"injected write failure", key⟩, noted)
    else
      let (result, memory) := Store.write noted.memory caller key columns
      (result, { noted with memory })
  read store caller key :=
    let noted := store.note ⟨key, none⟩
    if noted.faults.broken.contains key then (.crashed (breakage key), noted)
    else if noted.faults.failingReads.contains key then
      (.failed ⟨"injected read failure", key⟩, noted)
    else
      let (result, memory) := Store.read noted.memory caller key
      (result, { noted with memory })

end FaultyStore

end LoadVerifier
