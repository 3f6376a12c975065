/-
This file says what a database is: connections, statements and transactions. Every request can be
refused, and gives the database after it either way.

A connection is known by its number. It may become closed at any time, whoever closes it, so it
has to be asked for before it is used.
-/
import LoadVerifier.Column.Map
import LoadVerifier.Error
import LoadVerifier.Table.Statement

namespace LoadVerifier

/-- What a statement gives back. -/
inductive DatabaseReply
  | done
  | cells (cells : List (Int × Bytes))
  | count (count : Nat)
  deriving DecidableEq

/-- One row of parameters: key, column and content of a cell. -/
structure CellRow where
  key : Int
  column : Int
  value : Bytes
  deriving DecidableEq

/-- Something that takes connections and statements. -/
class Database (Server : Type) where
  connect : Server → (dsn : String) → (autocommit : Bool) → Except DatabaseFailure Nat × Server
  isClosed : Server → (connection : Nat) → Bool
  execute : Server → (connection : Nat) → Statement → (parameters : List Int) →
    Except DatabaseFailure DatabaseReply × Server
  executeMany : Server → (connection : Nat) → Statement → List CellRow →
    Except DatabaseFailure Unit × Server
  begin : Server → (connection : Nat) → Except DatabaseFailure Unit × Server
  commit : Server → (connection : Nat) → Except DatabaseFailure Unit × Server
  rollback : Server → (connection : Nat) → Except DatabaseFailure Unit × Server
  close : Server → (connection : Nat) → Except DatabaseFailure Unit × Server

end LoadVerifier
