/-
This file says what the program does with the arguments it was given.

It may only print the command of the shell. Otherwise it checks the arguments, describes the run,
and carries it out: on an empty store of its own for a dry run, or on a server. On a server one
connection coordinates the run. It creates the table before and counts the keys after; the workers
open sessions of their own. Whatever happens in between, the sessions are closed first and the
coordinating connection last, and a refused close is the failure that counts.
-/
import LoadVerifier.CommandLine.Arguments
import LoadVerifier.LoadTest.Execute
import LoadVerifier.Store.Memory
import LoadVerifier.Store.Session
import LoadVerifier.Table.Create

namespace LoadVerifier

/-- What a part of the program came to: its result, the server after it, and the lines it
printed. -/
structure Outcome (Server Value : Type) where
  result : Except Failure Value
  server : Server
  lines : List Line

namespace Outcome

variable {Server Value Next : Type}

/-- An outcome with more lines in front of its own. -/
def after (lines : List Line) (outcome : Outcome Server Value) : Outcome Server Value :=
  { outcome with lines := lines ++ outcome.lines }

/-- Goes on with what comes next, unless the outcome is a failure. -/
def andThen (outcome : Outcome Server Value) (next : Value → Server → Outcome Server Next) :
    Outcome Server Next :=
  match outcome.result with
  | .error failure => ⟨.error failure, outcome.server, outcome.lines⟩
  | .ok value => (next value outcome.server).after outcome.lines

/-- Closes something, whether the outcome is a failure or not. -/
def closing (outcome : Outcome Server Value)
    (close : Server → Except DatabaseFailure Unit × Server) : Outcome Server Value :=
  match close outcome.server with
  | (.ok _, server) => { outcome with server }
  | (.error failure, server) => { outcome with result := .error (.database failure), server }

end Outcome

namespace Program

/-- Carries out a dry run, on an empty store and without a server. -/
def runDry (options : Options) : Except Failure Report × List Line :=
  let execution := execute options ({} : MemoryStore) none
  (execution.result, execution.lines)

section Server

variable {Server : Type} [Database Server]

/-- Creates the table of a run, on the coordinating connection, and gives it. -/
def prepareTable (arguments : Arguments) (connection : Nat) (server : Server) :
    Outcome Server Table :=
  match Database.execute server connection quietStatement [] with
  | (.error failure, server) => ⟨.error (.database failure), server, []⟩
  | (.ok _, server) =>
    let announced :=
      Line.out s!"[setup] ensuring table {arguments.schema.text}.{arguments.table.text} ..."
    match arguments.tableToCreate with
    | .error failure => ⟨.error failure, server, [announced]⟩
    | .ok (table, creation) =>
      let (result, server) := Table.create server connection table creation
      ⟨result.map fun _ => table, server, [announced]⟩

/-- Carries out a run with a session for every worker, and closes the sessions. -/
def runSessions (arguments : Arguments) (options : Options) (table : Table) (server : Server) :
    Outcome Server Report :=
  let store : SessionStore Server := {
    server
    dsn := arguments.connection.target
    table
    synchronousCommit := arguments.synchronousCommit }
  let execution := execute options store none
  let (closed, store) := execution.store.close
  let result := match closed with
    | .ok _ => execution.result
    | .error failure => .error (.database failure)
  ⟨result, store.server, execution.lines⟩

/-- Counts the keys of the table if the run wrote, and keeps the report of the run. -/
def countKeys (options : Options) (connection : Nat) (table : Table) (report : Report)
    (server : Server) : Outcome Server Report :=
  if options.write.isSome then
    match Table.countKeys server connection table with
    | (.error failure, server) => ⟨.error failure, server, []⟩
    | (.ok count, server) =>
      ⟨.ok report, server, [.out s!"[done] table holds {Text.grouped count} keys"]⟩
  else ⟨.ok report, server, []⟩

/-- Carries out a run on a server. -/
def runOnServer (arguments : Arguments) (options : Options) (server : Server) :
    Outcome Server Report :=
  match Database.connect server arguments.connection.target false with
  | (.error failure, server) => ⟨.error (.database failure), server, []⟩
  | (.ok connection, server) =>
    let prepared := prepareTable arguments connection server
    let counted := prepared.andThen fun table server =>
      (runSessions arguments options table server).andThen (countKeys options connection table)
    counted.closing (Database.close · connection)

/-- Carries out a run, dry or on a server. -/
def perform (arguments : Arguments) (options : Options) (server : Server) :
    Outcome Server Report :=
  if arguments.memory then
    let (result, lines) := runDry options
    ⟨result, server, lines⟩
  else runOnServer arguments options server

/-- Carries out what the arguments ask for, and gives the exit code. A refused configuration has an
exit code too; any other failure has none. -/
def run (arguments : Arguments) (server : Server) : Outcome Server Nat :=
  if arguments.printPsql then ⟨.ok 0, server, [.out arguments.connection.shellCommand]⟩
  else
    match arguments.runOptions with
    | .error (.config error) => ⟨.ok 2, server, [.err s!"[config] {error.message}"]⟩
    | .error failure => ⟨.error failure, server, []⟩
    | .ok options =>
      let performed := perform arguments options server
      ⟨performed.result.map Report.exitCode, performed.server,
        options.describe.map .out ++ performed.lines⟩

end Server

end Program

end LoadVerifier
