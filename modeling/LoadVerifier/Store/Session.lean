/-
This file holds the store that keeps its rows in a table of a database.

Every caller has a session of its own: a connection that is opened at the first call, prepared,
and kept for later calls as long as it is not closed. A connection is registered only once it is
prepared, and registered connections are closed together. A write is one transaction; a read is
one statement. Whatever the database refuses is a failure of the call.
-/
import LoadVerifier.Database.Basic
import LoadVerifier.Store.Basic

namespace LoadVerifier

/-- Keeps the messages of the server short. -/
def quietStatement : Statement := [.plain "SET client_min_messages=warning"]

/-- Lets a transaction end before it is on disk. -/
def asynchronousStatement : Statement := [.plain "SET synchronous_commit=off"]

/-- A table in a database, with one session a caller, and the connections to close, in the order
in which they were opened. -/
structure SessionStore (Server : Type) where
  server : Server
  dsn : String
  table : Table
  synchronousCommit : Bool := false
  sessions : List (Caller × Nat) := []
  opened : List Nat := []

namespace SessionStore

variable {Server : Type} [Database Server]

/-- The connection that a caller used last. -/
def session? (store : SessionStore Server) (caller : Caller) : Option Nat :=
  (store.sessions.find? fun session => session.1 == caller).map Prod.snd

/-- The connection of a caller, if it can still be used. -/
def liveSession? (store : SessionStore Server) (caller : Caller) : Option Nat :=
  (store.session? caller).filter fun connection => !Database.isClosed store.server connection

/-- Prepares a new connection. -/
def prepare (server : Server) (connection : Nat) (synchronousCommit : Bool) :
    Except DatabaseFailure Unit × Server :=
  match Database.execute server connection quietStatement [] with
  | (.error failure, server) => (.error failure, server)
  | (.ok _, server) =>
    if synchronousCommit then (.ok (), server)
    else
      match Database.execute server connection asynchronousStatement [] with
      | (.error failure, server) => (.error failure, server)
      | (.ok _, server) => (.ok (), server)

/-- Registers a prepared connection as the session of a caller. -/
def register (store : SessionStore Server) (caller : Caller) (connection : Nat) :
    SessionStore Server :=
  { store with
    sessions := (caller, connection) :: store.sessions.filter fun session => session.1 != caller
    opened := store.opened ++ [connection] }

/-- The connection of a caller: the one it has, or a new one. -/
def connection (store : SessionStore Server) (caller : Caller) :
    Except DatabaseFailure Nat × SessionStore Server :=
  match store.liveSession? caller with
  | some connection => (.ok connection, store)
  | none =>
    match Database.connect store.server store.dsn true with
    | (.error failure, server) => (.error failure, { store with server })
    | (.ok connection, server) =>
      match prepare server connection store.synchronousCommit with
      | (.error failure, server) => (.error failure, { store with server })
      | (.ok _, server) => (.ok connection, { store with server }.register caller connection)

/-- Does something on the connection of a caller. -/
def onSession {Value : Type} (store : SessionStore Server) (caller : Caller)
    (request : Server → Nat → Except Failure Value × Server) :
    Except Failure Value × SessionStore Server :=
  match store.connection caller with
  | (.error failure, store) => (.error (.database failure), store)
  | (.ok connection, store) =>
    let (result, server) := request store.server connection
    (result, { store with server })

/-- Stores cells in one transaction. A transaction that was begun is either committed or rolled
back; when the rollback is refused too, that refusal is the one reported. -/
def inTransaction (server : Server) (connection : Nat) (statement : Statement)
    (rows : List CellRow) : Except DatabaseFailure Unit × Server :=
  match Database.begin server connection with
  | (.error failure, server) => (.error failure, server)
  | (.ok _, server) =>
    match Database.executeMany server connection statement rows with
    | (.ok _, server) => Database.commit server connection
    | (.error failure, server) =>
      match Database.rollback server connection with
      | (.error another, server) => (.error another, server)
      | (.ok _, server) => (.error failure, server)

/-- The parameters that store the columns of a key, in their order. -/
def cellRows (key : Int) (columns : Columns) : List CellRow :=
  columns.cells.map fun cell => ⟨key, cell.1, cell.2⟩

/-- Stores columns of a key. -/
def writeRow (store : SessionStore Server) (caller : Caller) (key : Int) (columns : Columns) :
    Except DatabaseFailure Unit × SessionStore Server :=
  match store.connection caller with
  | (.error failure, store) => (.error failure, store)
  | (.ok connection, store) =>
    let (result, server) := inTransaction store.server connection store.table.insertStatement
      (cellRows key columns)
    (result, { store with server })

/-- The row that the cells of a key make; no cells are no row. -/
def rowOf : DatabaseReply → Option Columns
  | .cells (cell :: rest) => some (.ofCells (cell :: rest))
  | _ => none

/-- Reads the row of a key. -/
def readRow (store : SessionStore Server) (caller : Caller) (key : Int) :
    Except DatabaseFailure (Option Columns) × SessionStore Server :=
  match store.connection caller with
  | (.error failure, store) => (.error failure, store)
  | (.ok connection, store) =>
    let (result, server) :=
      Database.execute store.server connection store.table.selectStatement [key]
    (result.map rowOf, { store with server })

/-- The outcome of a store call; a refusal is a failure of the call. -/
def callResult {Value : Type} (what : String) (key : Int) :
    Except DatabaseFailure Value → CallResult Value
  | .ok value => .done value
  | .error failure => .failed ⟨s!"{what} failed: {failure.message}", key⟩

instance : Store (SessionStore Server) where
  write store caller key columns :=
    let (result, store) := store.writeRow caller key columns
    (callResult "write" key result, store)
  read store caller key :=
    let (result, store) := store.readRow caller key
    (callResult "read" key result, store)

/-- Closes connections one after another, up to the first that is refused. -/
def closeAll (server : Server) : List Nat → Except DatabaseFailure Unit × Server
  | [] => (.ok (), server)
  | connection :: rest =>
    match Database.close server connection with
    | (.error failure, server) => (.error failure, server)
    | (.ok _, server) => closeAll server rest

/-- Closes all registered connections, and forgets them. -/
def close (store : SessionStore Server) : Except DatabaseFailure Unit × SessionStore Server :=
  let (result, server) := closeAll store.server store.opened
  (result, { store with server, opened := [] })

end SessionStore

end LoadVerifier
