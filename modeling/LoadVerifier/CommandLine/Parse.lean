/-
This file reads a command line: a list of words becomes arguments, a call for help, or an error.

All words are looked at first, so a word that may mean several options is refused before anything
else. Then the options are carried out from left to right: a later one takes the place of an
earlier one, the first value that cannot be read is the error, and a call for help ends the
reading. Two dashes attached to a parameter are a blank in the place of its value. At the end the
range of keys has to be there, and no word may be left over.
-/
import LoadVerifier.CommandLine.Draft
import LoadVerifier.CommandLine.Word

namespace LoadVerifier

/-- The options that one word stands for: some flags, and perhaps a parameter behind them, with
the value attached to it. -/
structure Bundle where
  flags : List Flag
  parameter : Option (Parameter × Option (List Char))

namespace Bundle

/-- The options of a short flag and the letters behind it: each letter is the name of another
flag, up to the first parameter. That one takes the letters behind it, if there are any. -/
def spell (flag : Flag) : List Char → Except UsageError Bundle
  | [] => .ok ⟨[flag], none⟩
  | letter :: rest =>
    match Switch.named? (String.ofList ['-', letter]) with
    | none => .error (.valueRefused flag (String.ofList (letter :: rest)))
    | some (.parameter parameter) =>
      .ok ⟨[flag], some (parameter, if rest.isEmpty then none else some rest)⟩
    | some (.flag next) => do
      let bundle ← spell next rest
      return { bundle with flags := flag :: bundle.flags }

/-- Whether an option is given by its short name. -/
def isShort (name : String) : Bool := !"--".isPrefixOf name

/-- The options that an occurrence stands for. -/
def ofOccurrence (occurrence : Occurrence) : Except UsageError Bundle :=
  match occurrence.switch, occurrence.attached with
  | .parameter parameter, attached => .ok ⟨[], some (parameter, attached)⟩
  | .flag flag, none => .ok ⟨[flag], none⟩
  | .flag flag, some text =>
    if isShort occurrence.name && !text.isEmpty then spell flag text
    else .error (.valueRefused flag (String.ofList text))

end Bundle

/-- An error in the use of the command line ends the reading. -/
def Stop.ofUsage {Value : Type} : Except UsageError Value → Except Stop Value :=
  Except.mapError Stop.misuse

namespace Draft

/-- Carries out flags from left to right, and then a parameter with its value. -/
def assignAfter (draft : Draft) (flags : List Flag) (parameter : Parameter)
    (value : Given String) : Except Stop Draft := do
  let raised ← flags.foldlM raise draft
  Stop.ofUsage (raised.assign parameter value)

/-- What an attached text gives. Two dashes on their own are a blank. -/
def attachedValue (text : List Char) : Given String :=
  if text = ['-', '-'] then .blank else .value (String.ofList text)

/-- Carries out an occurrence of an option, where the next word may be its value. Says whether it
was. -/
def carryOut (draft : Draft) (occurrence : Occurrence) (next : Option String) :
    Except Stop (Draft × Bool) := do
  let bundle ← Stop.ofUsage (Bundle.ofOccurrence occurrence)
  match bundle.parameter, next with
  | none, _ => return (← bundle.flags.foldlM raise draft, false)
  | some (parameter, some text), _ =>
    return (← draft.assignAfter bundle.flags parameter (attachedValue text), false)
  | some (parameter, none), some value =>
    return (← draft.assignAfter bundle.flags parameter (.value value), true)
  | some (parameter, none), none => .error (.misuse (.valueMissing parameter))

/-- Carries out the words from left to right, and collects those that belong to no option. -/
def readWords (draft : Draft) : List Word → Except Stop (Draft × List String)
  | [] => .ok (draft, [])
  | .separator :: rest => do
    let (read, leftover) ← draft.readWords rest
    return (read, "--" :: leftover)
  | .value text :: rest | .unknown text :: rest => do
    let (read, leftover) ← draft.readWords rest
    return (read, text :: leftover)
  | .option occurrence :: .value text :: rest => do
    let (next, taken) ← draft.carryOut occurrence (some text)
    if taken then next.readWords rest else next.readWords (.value text :: rest)
  | .option occurrence :: rest => do
    let (next, _) ← draft.carryOut occurrence none
    next.readWords rest

end Draft

/-- Reads a command line, with the server that the environment names as a whole. -/
def Arguments.parse (environment : Option String) (texts : List String) :
    Except Stop Arguments := do
  let words ← Stop.ofUsage (Word.ofTexts texts)
  let draft : Draft := { settings := { connection := { dsn := environment.map .value } } }
  let (read, leftover) ← draft.readWords words
  let arguments ← Stop.ofUsage read.complete
  if leftover.isEmpty then return arguments else .error (.misuse (.unrecognized leftover))

end LoadVerifier
