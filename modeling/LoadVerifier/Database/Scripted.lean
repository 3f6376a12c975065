/-
This file holds a database that refuses what its script says, and keeps a log of every request.

A request is logged first. Then the script is asked: a fault names a kind of request and counts
down to the one it refuses, over all connections. A refused request does nothing, except that the
fault may break the connection. Otherwise the request is carried out on rows in memory: a
transaction that fails at its end keeps what it stored.
-/
import LoadVerifier.Database.Basic
import LoadVerifier.Store.Memory

namespace LoadVerifier

/-- The kinds of requests. -/
inductive RequestKind
  | connect
  | execute
  | executeMany
  | begin
  | commit
  | rollback
  | close
  deriving DecidableEq

/-- One logged request. -/
inductive Request
  | connect (connection : Nat) (dsn : String) (autocommit : Bool)
  | execute (connection : Nat) (statement : String) (parameters : List Int)
  | executeMany (connection : Nat) (statement : String) (rows : List CellRow)
  | begin (connection : Nat)
  | commit (connection : Nat)
  | rollback (connection : Nat)
  | close (connection : Nat)
  deriving DecidableEq

namespace Request

/-- The kind of a request. -/
def kind : Request → RequestKind
  | .connect .. => .connect
  | .execute .. => .execute
  | .executeMany .. => .executeMany
  | .begin _ => .begin
  | .commit _ => .commit
  | .rollback _ => .rollback
  | .close _ => .close

/-- The connection that a request belongs to. -/
def connection : Request → Nat
  | .connect connection _ _ | .execute connection _ _ | .executeMany connection _ _
  | .begin connection | .commit connection | .rollback connection | .close connection => connection

end Request

/-- One refusal to come: the kind of request, how many of them are left up to the one that is
refused, whether its connection breaks, and the wording. -/
structure Fault where
  kind : RequestKind
  left : Nat
  breaks : Bool
  message : String
  deriving DecidableEq

/-- Counts a request down. A fault that was due is used up. -/
def Fault.countDown (kind : RequestKind) (fault : Fault) : Fault :=
  if fault.kind = kind then { fault with left := fault.left - 1 } else fault

/-- A database in memory with a script of refusals, and the log of requests, latest first. -/
structure ScriptedDatabase where
  rows : MemoryStore := {}
  faults : List Fault := []
  log : List Request := []
  connections : Nat := 0
  closed : List Nat := []

namespace ScriptedDatabase

/-- Logs a request, and finds the fault that refuses it. -/
def note (database : ScriptedDatabase) (request : Request) : Option Fault × ScriptedDatabase :=
  let due := database.faults.find? fun fault => fault.kind = request.kind && fault.left = 1
  (due, { database with
    faults := database.faults.map (Fault.countDown request.kind)
    log := request :: database.log })

/-- Marks a connection as closed. -/
def markClosed (database : ScriptedDatabase) (connection : Nat) : ScriptedDatabase :=
  { database with closed := connection :: database.closed }

/-- Carries out a request unless a fault refuses it. -/
def submit {Value : Type} (database : ScriptedDatabase) (request : Request)
    (carryOut : ScriptedDatabase → Value × ScriptedDatabase) :
    Except DatabaseFailure Value × ScriptedDatabase :=
  match database.note request with
  | (some fault, noted) =>
    let broken := if fault.breaks then noted.markClosed request.connection else noted
    (.error ⟨fault.message⟩, broken)
  | (none, noted) =>
    let (value, after) := carryOut noted
    (.ok value, after)

/-- Carries out a request that a fault may refuse but not break. -/
def submitUnbroken {Value : Type} (database : ScriptedDatabase) (request : Request)
    (carryOut : ScriptedDatabase → Value × ScriptedDatabase) :
    Except DatabaseFailure Value × ScriptedDatabase :=
  match database.note request with
  | (some fault, noted) => (.error ⟨fault.message⟩, noted)
  | (none, noted) =>
    let (value, after) := carryOut noted
    (.ok value, after)

/-- Whether a text starts with another one. -/
def startsWith (start text : String) : Bool := start.toList.isPrefixOf text.toList

/-- Whether a text holds another one. -/
def holds (part : List Char) : List Char → Bool
  | [] => part.isEmpty
  | character :: rest => part.isPrefixOf (character :: rest) || holds part rest

/-- Carries out a statement: it gives the cells of a key, or the number of keys, or it may empty
the table; everything else changes nothing. -/
def run (statement : String) (parameters : List Int) (database : ScriptedDatabase) :
    DatabaseReply × ScriptedDatabase :=
  if startsWith "SELECT col" statement then
    let row := parameters.head?.bind database.rows.row?
    (.cells ((row.map ColumnMap.sorted).getD []), database)
  else if startsWith "SELECT count(" statement then (.count database.rows.size, database)
  else if holds "DROP TABLE".toList statement.toList then (.done, { database with rows := {} })
  else (.done, database)

/-- Stores cells. -/
def storeCells (rows : List CellRow) (database : ScriptedDatabase) : ScriptedDatabase :=
  { database with
    rows := rows.foldl (fun store row => store.setCell row.key row.column row.value)
      database.rows }

instance : Database ScriptedDatabase where
  connect database dsn autocommit :=
    let connection := database.connections + 1
    { database with connections := connection }.submitUnbroken
      (.connect connection dsn autocommit) fun noted => (connection, noted)
  isClosed database connection := database.closed.contains connection
  execute database connection statement parameters :=
    database.submit (.execute connection statement.text parameters)
      (run statement.text parameters)
  executeMany database connection statement rows :=
    database.submit (.executeMany connection statement.text rows)
      fun noted => ((), storeCells rows noted)
  begin database connection := database.submit (.begin connection) fun noted => ((), noted)
  commit database connection := database.submit (.commit connection) fun noted => ((), noted)
  rollback database connection := database.submit (.rollback connection) fun noted => ((), noted)
  close database connection :=
    database.submitUnbroken (.close connection) fun noted => ((), noted.markClosed connection)

end ScriptedDatabase

end LoadVerifier
