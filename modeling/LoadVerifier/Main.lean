/-
This file is the program itself. It reads the command line, and prints what the run came to. No
server can be reached from here, so every connection is refused; a dry run needs none.
-/
import LoadVerifier.CommandLine.Help
import LoadVerifier.CommandLine.Parse
import LoadVerifier.CommandLine.Program

namespace LoadVerifier

/-- A server that is never there. -/
structure AbsentServer where

namespace AbsentServer

/-- Refuses a request. -/
def refuse {Value : Type} (server : AbsentServer) : Except DatabaseFailure Value × AbsentServer :=
  (.error ⟨"no database server can be reached; --memory needs none"⟩, server)

instance : Database AbsentServer where
  connect server _ _ := server.refuse
  isClosed _ _ := true
  execute server _ _ _ := server.refuse
  executeMany server _ _ _ := server.refuse
  begin server _ := server.refuse
  commit server _ := server.refuse
  rollback server _ := server.refuse
  close server _ := server.refuse

end AbsentServer

/-- Prints a line where it belongs. -/
def Line.print : Line → IO Unit
  | .out text => IO.println text
  | .err text => IO.eprintln text

/-- What a command line comes to. -/
def perform (environment : Option String) (words : List String) : Outcome AbsentServer Nat :=
  match Arguments.parse environment words with
  | .error .help => ⟨.ok 0, ⟨⟩, Help.text.map .out⟩
  | .error (.misuse error) => ⟨.ok 2, ⟨⟩, (Help.usage ++ [error.message]).map .err⟩
  | .ok arguments => Program.run arguments ⟨⟩

end LoadVerifier

def main (words : List String) : IO UInt32 := do
  let outcome := LoadVerifier.perform (← IO.getEnv "PG_DSN") words
  outcome.lines.forM LoadVerifier.Line.print
  match outcome.result with
  | .ok exit => return exit.toUInt32
  | .error failure =>
    IO.eprintln failure.message
    return 1
