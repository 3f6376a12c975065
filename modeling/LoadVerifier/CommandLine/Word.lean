/-
This file says what a single word of the command line is, looked at on its own.

A word that does not start with a dash is a value, and so is a dash alone. Any other word is
matched against the names of the options: the full name, or the full name before an equals sign,
or a prefix of exactly one long name, or a short name with its value right behind it. A word that
matches nothing is still a value when it looks like a negative number or holds a blank. Behind a
word of two dashes every word is a value.
-/
import LoadVerifier.CommandLine.UsageError
import LoadVerifier.Text.CharacterClass

namespace LoadVerifier

/-- An option as it stands in a word: under which name, and with which text attached to it. -/
structure Occurrence where
  switch : Switch
  name : String
  attached : Option (List Char)
  deriving DecidableEq

/-- A word of the command line. -/
inductive Word
  | separator
  | value (text : String)
  | unknown (text : String)
  | option (occurrence : Occurrence)
  deriving DecidableEq

namespace Word

/-- The text before the first equals sign, and the text behind it if there is one. -/
def splitAtEquals (characters : List Char) : List Char × Option (List Char) :=
  match characters.dropWhile (· ≠ '=') with
  | [] => (characters, none)
  | _ :: attached => (characters.takeWhile (· ≠ '='), some attached)

/-- Whether a text is made of decimal digits, at least one. -/
def isDigits (characters : List Char) : Bool :=
  !characters.isEmpty && characters.all fun character => (Text.digitValue? character).isSome

/-- A text without the line end that may close it. -/
def withoutLineEnd (characters : List Char) : List Char :=
  if characters.getLast? = some '\n' then characters.dropLast else characters

/-- Whether the text behind a dash makes a negative number: digits, or a point and digits with or
without digits before it. -/
def isNegativeNumber (behindDash : List Char) : Bool :=
  let number := withoutLineEnd behindDash
  match number.dropWhile (· ≠ '.') with
  | [] => isDigits number
  | _ :: places =>
    let whole := number.takeWhile (· ≠ '.')
    (whole.isEmpty || isDigits whole) && isDigits places

/-- The options that a word may mean when it does not give a full name. -/
def candidates (text : String) : List Occurrence :=
  match text.toList with
  | '-' :: '-' :: rest =>
    let (start, attached) := splitAtEquals rest
    (Switch.namesOfAll.filter fun named => ('-' :: '-' :: start).isPrefixOf named.1.toList).map
      fun named => ⟨named.2, named.1, attached⟩
  | '-' :: letter :: rest =>
    let name := String.ofList ['-', letter]
    ((Switch.named? name).toList).map fun switch => ⟨switch, name, some rest⟩
  | _ => []

/-- The option that a word gives by its full name. -/
def byFullName? (text : String) : Option Occurrence :=
  match Switch.named? text with
  | some switch => some ⟨switch, text, none⟩
  | none =>
    match splitAtEquals text.toList with
    | (_, none) => none
    | (start, some attached) =>
      let name := String.ofList start
      (Switch.named? name).map fun switch => ⟨switch, name, some attached⟩

/-- What a word is that starts with a dash and is longer than it. -/
def ofDashed (text : String) : Except UsageError Word :=
  match byFullName? text with
  | some occurrence => .ok (.option occurrence)
  | none =>
    match candidates text with
    | [] =>
      if isNegativeNumber text.toList.tail || text.toList.contains ' ' then .ok (.value text)
      else .ok (.unknown text)
    | [occurrence] => .ok (.option occurrence)
    | several => .error (.ambiguous text (several.map Occurrence.name))

/-- What a word is when no word of two dashes came before it. -/
def ofText (text : String) : Except UsageError Word :=
  match text.toList with
  | '-' :: _ :: _ => if text = "--" then .ok .separator else ofDashed text
  | _ => .ok (.value text)

/-- What the words of a command line are. -/
def ofTexts : List String → Except UsageError (List Word)
  | [] => .ok []
  | text :: rest => do
    match ← ofText text with
    | .separator => return .separator :: rest.map .value
    | word => return word :: (← ofTexts rest)

end Word

end LoadVerifier
