/-
This file reads whole numbers as a user writes them.

Blanks around the number are dropped, a sign may stand in front, leading zeros are allowed, and
single underscores may separate digits. Digits of any script count. A number of more than 4300
digits is refused, whatever its value. Everything else is not a number.
-/
import LoadVerifier.Limits
import LoadVerifier.Text.CharacterClass

namespace LoadVerifier.Text

/-- Turns blanks and digits beyond ASCII into the ASCII ones they stand for. -/
def toPlainCharacter (character : Char) : Char :=
  if character.toNat < 127 then character
  else if isBlank character then ' '
  else match digitValue? character with
    | some value => Nat.digitChar value
    | none => character

/-- Whether a character may stand around a number. -/
def isPadding (character : Char) : Bool :=
  character = ' ' || (0x9 ≤ character.toNat && character.toNat ≤ 0xd)

/-- Drops the padding on both sides. -/
def strip (text : List Char) : List Char :=
  ((text.dropWhile isPadding).reverse.dropWhile isPadding).reverse

/-- A text in ASCII blanks and digits, without padding. -/
def plainNumber (text : String) : List Char :=
  strip (text.toList.map toPlainCharacter)

/-- Splits a sign off a number; the flag says that it is negative. -/
def splitSign : List Char → Bool × List Char
  | '-' :: rest => (true, rest)
  | '+' :: rest => (false, rest)
  | rest => (false, rest)

/-- The digits of a run in which single underscores may separate digits. -/
def digitRun? : List Char → Option (List Char)
  | [] => none
  | [digit] => if digit.isDigit then some [digit] else none
  | digit :: '_' :: rest => if digit.isDigit then (digitRun? rest).map (digit :: ·) else none
  | digit :: next :: rest =>
    if digit.isDigit then (digitRun? (next :: rest)).map (digit :: ·) else none

/-- The number that a run of digits stands for, unless there are too many of them. -/
def digitsValue? (digits : List Char) : Option Nat :=
  if digits.length ≤ maxDigits then some (Nat.ofDigitChars 10 digits 0) else none

/-- Reads a whole number. -/
def readInteger? (text : String) : Option Int :=
  let (negative, magnitude) := splitSign (plainNumber text)
  ((digitRun? magnitude).bind digitsValue?).map fun value =>
    if negative then -(value : Int) else value

end LoadVerifier.Text
