/-
This file says what a store is: something that keeps rows of columns under keys.

A write merges columns into the row of a key; a read gives the row back, or nothing. A call can be
refused, which is a failure of that call alone, or it can break, which its caller does not expect.
What a store does may depend on who calls, because some stores keep a session for each caller.
-/
import LoadVerifier.Column.Map
import LoadVerifier.Error

namespace LoadVerifier

/-- The groups of callers. -/
inductive Team
  | main
  | writer
  | reader
  deriving DecidableEq

/-- One caller of a store: a member of a team. -/
structure Caller where
  team : Team
  number : Int
  deriving DecidableEq

/-- How a store call ended. -/
inductive CallResult (Value : Type)
  | done (value : Value)
  | failed (failure : StoreFailure)
  | crashed (crash : Crash)

/-- Something that keeps rows under keys. Each call is one step, and gives the store after it. -/
class Store (Storage : Type) where
  write : Storage → Caller → (key : Int) → Columns → CallResult Unit × Storage
  read : Storage → Caller → (key : Int) → CallResult (Option Columns) × Storage

end LoadVerifier
