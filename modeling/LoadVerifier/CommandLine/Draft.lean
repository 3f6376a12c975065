/-
This file carries out the options of a command line on the arguments read so far.

A flag that asks for help ends the reading. A parameter whose value cannot be read is an error. A
parameter may be given a blank: it is given then, and there is no value to be read.
-/
import LoadVerifier.CommandLine.Arguments
import LoadVerifier.CommandLine.UsageError
import LoadVerifier.Decimal.Literal

namespace LoadVerifier

/-- Why a command line does not lead to arguments. -/
inductive Stop
  | help
  | misuse (error : UsageError)
  deriving DecidableEq

/-- The arguments read so far. -/
structure Draft where
  settings : Settings
  startKey : Option (Given Int) := none
  numKeys : Option (Given Int) := none

namespace Draft

/-- Reads a whole number as the value of a parameter. -/
def integer (parameter : Parameter) (text : String) : Except UsageError Int :=
  match Text.readInteger? text with
  | some number => .ok number
  | none => .error (.notAnInteger parameter text)

/-- Reads a floating-point number as the value of a parameter. -/
def number (parameter : Parameter) (text : String) : Except UsageError Float :=
  match Decimal.readFloat? text with
  | some number => .ok number
  | none => .error (.notANumber parameter text)

/-- Reads the name of a compression. -/
def compression (text : String) : Except UsageError String :=
  if text ∈ Table.compressions then .ok text else .error (.unknownCompression text)

/-- Changes the settings. -/
def change (draft : Draft) (alter : Settings → Settings) : Draft :=
  { draft with settings := alter draft.settings }

/-- Changes where the server is. -/
def connect (draft : Draft) (alter : Connection → Connection) : Draft :=
  draft.change fun settings => { settings with connection := alter settings.connection }

/-- Carries out a flag. -/
def raise (draft : Draft) : Flag → Except Stop Draft
  | .help => .error .help
  | .printPsql => .ok (draft.change ({ · with printPsql := true }))
  | .memory => .ok (draft.change ({ · with memory := true }))
  | .logged => .ok (draft.change ({ · with logged := true }))
  | .dropExisting => .ok (draft.change ({ · with dropExisting := true }))
  | .synchronousCommit => .ok (draft.change ({ · with synchronousCommit := true }))
  | .multiPut => .ok (draft.change ({ · with multiPut := true }))

/-- Gives a parameter its value, or a blank. -/
def assign (draft : Draft) (parameter : Parameter) (value : Given String) :
    Except UsageError Draft := do
  match parameter with
  | .dsn => return draft.connect ({ · with dsn := value })
  | .host => return draft.connect ({ · with host := value })
  | .port =>
    let port ← value.read (integer parameter)
    return draft.connect ({ · with port })
  | .user => return draft.connect ({ · with user := value })
  | .dbname => return draft.connect ({ · with dbname := value })
  | .password => return draft.connect ({ · with password := value })
  | .sslmode => return draft.connect ({ · with sslmode := value })
  | .options => return draft.connect ({ · with options := value })
  | .table => return draft.change ({ · with table := value })
  | .schema => return draft.change ({ · with schema := value })
  | .compression =>
    let name ← value.read compression
    return draft.change ({ · with compression := name })
  | .write => return draft.change ({ · with write := value })
  | .read => return draft.change ({ · with read := value })
  | .data => return draft.change ({ · with data := value })
  | .maxReadErrors =>
    let maxReadErrors ← value.read (integer parameter)
    return draft.change ({ · with maxReadErrors })
  | .keyWindow =>
    let keyWindow ← value.read (integer parameter)
    return draft.change ({ · with keyWindow })
  | .startKey =>
    let startKey ← value.read (integer parameter)
    return { draft with startKey }
  | .numKeys =>
    let numKeys ← value.read (integer parameter)
    return { draft with numKeys }
  | .progressInterval =>
    let progressInterval ← value.read (number parameter)
    return draft.change ({ · with progressInterval })
  | .seed =>
    let seed ← value.read (integer parameter)
    return draft.change ({ · with seed })

/-- The parameters that have to be given and are not. -/
def missing (draft : Draft) : List Parameter :=
  (if draft.startKey.isNone then [.startKey] else []) ++
    if draft.numKeys.isNone then [.numKeys] else []

/-- The arguments, if nothing is missing. -/
def complete (draft : Draft) : Except UsageError Arguments :=
  match draft.startKey, draft.numKeys with
  | some startKey, some numKeys => .ok { draft.settings with startKey, numKeys }
  | _, _ => .error (.requiredMissing draft.missing)

end Draft

end LoadVerifier
