/-
This file lists the ways in which a command line can be wrong before its values are looked at
together, with the wording of each.
-/
import LoadVerifier.CommandLine.Switch
import LoadVerifier.Table.Statement

namespace LoadVerifier

/-- Why a command line cannot be understood. -/
inductive UsageError
  | ambiguous (word : String) (candidates : List String)
  | valueMissing (parameter : Parameter)
  | valueRefused (flag : Flag) (value : String)
  | notAnInteger (parameter : Parameter) (value : String)
  | notANumber (parameter : Parameter) (value : String)
  | unknownCompression (value : String)
  | requiredMissing (parameters : List Parameter)
  | unrecognized (words : List String)
  deriving DecidableEq

namespace UsageError

/-- A message about one option. -/
def about (switch : Switch) (problem : String) : String :=
  s!"argument {switch.title}: {problem}"

/-- What is wrong with the command line. -/
def problem : UsageError → String
  | .ambiguous word candidates =>
    let choices := ", ".intercalate candidates
    s!"ambiguous option: {word} could match {choices}"
  | .valueMissing parameter => about (.parameter parameter) "expected one argument"
  | .valueRefused flag value =>
    about (.flag flag) s!"ignored explicit argument {Text.quoted value}"
  | .notAnInteger parameter value =>
    about (.parameter parameter) s!"invalid int value: {Text.quoted value}"
  | .notANumber parameter value =>
    about (.parameter parameter) s!"invalid float value: {Text.quoted value}"
  | .unknownCompression value =>
    let choices := ", ".intercalate (Table.compressions.map Text.quoted)
    about (.parameter .compression)
      s!"invalid choice: {Text.quoted value} (choose from {choices})"
  | .requiredMissing parameters =>
    let titles := ", ".intercalate (parameters.map fun parameter =>
      Switch.title (.parameter parameter))
    s!"the following arguments are required: {titles}"
  | .unrecognized words =>
    let shown := " ".intercalate words
    s!"unrecognized arguments: {shown}"

/-- The line printed for a command line that is wrong. -/
def message (error : UsageError) : String := s!"pgkvload: error: {error.problem}"

end UsageError

end LoadVerifier
