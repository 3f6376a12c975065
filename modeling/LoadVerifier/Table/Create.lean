/-
This file creates the table of a run and counts its keys, on a connection that is already open.
-/
import LoadVerifier.Database.Basic

namespace LoadVerifier.Table

variable {Server : Type} [Database Server]

/-- Creates schema and table, and commits. An unknown compression is refused before the database
is asked. -/
def create (server : Server) (connection : Nat) (table : Table) (creation : Creation) :
    Except Failure Unit × Server :=
  match table.creationStatement creation with
  | .error error => (.error (.config error), server)
  | .ok statement =>
    match Database.execute server connection statement [] with
    | (.error failure, server) => (.error (.database failure), server)
    | (.ok _, server) =>
      let (result, server) := Database.commit server connection
      (result.mapError Failure.database, server)

/-- The number that a counting statement gave back. -/
def countOf : DatabaseReply → Nat
  | .count count => count
  | _ => 0

/-- Counts the keys of a table. -/
def countKeys (server : Server) (connection : Nat) (table : Table) :
    Except Failure Nat × Server :=
  let (result, server) := Database.execute server connection table.countStatement []
  ((result.map countOf).mapError Failure.database, server)

end LoadVerifier.Table
