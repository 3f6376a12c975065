/-
This file reads a floating-point number as a user writes it: an optional sign, digits with an
optional point, and an optional exponent, or one of the words for infinity and "not a number" in
any case. Blanks around it, digits of any script and single underscores between two digits are
treated as in whole numbers. The value is rounded once, to the nearest floating-point number.
-/
import LoadVerifier.Text.Integer

namespace LoadVerifier.Decimal

/-- Removes the underscores, if each of them stands between two digits. -/
def dropSeparators? : (previous : Char) → List Char → Option (List Char)
  | previous, [] => if previous = '_' then none else some []
  | previous, '_' :: rest => if previous.isDigit then dropSeparators? '_' rest else none
  | previous, character :: rest =>
    if previous = '_' && !character.isDigit then none
    else (dropSeparators? character rest).map (character :: ·)

/-- Reads the exponent part, which may be missing. -/
def readExponent? : List Char → Option Int
  | [] => some 0
  | mark :: rest =>
    if mark = 'e' || mark = 'E' then
      let (negative, digits) := Text.splitSign rest
      if digits.isEmpty || !digits.all Char.isDigit then none
      else
        let value := Nat.ofDigitChars 10 digits 0
        some (if negative then -(value : Int) else value)
    else none

/-- The number that digits give, times `10 ^ scale`, rounded to the nearest floating-point number.
The first significant digit tells the size of the number. One far beyond the range gives infinity or
zero, and its power is not computed. -/
def toFloat (digits : List Char) (scale : Int) : Float :=
  let significant := digits.dropWhile (· = '0')
  let size := scale + significant.length
  if significant.isEmpty then 0.0
  else if 400 < size then 1.0 / 0.0
  else if size < -400 then 0.0
  else Float.ofScientific (Nat.ofDigitChars 10 significant 0) (scale < 0) scale.natAbs

/-- Reads digits with an optional point and an optional exponent. -/
def readMagnitude? (text : List Char) : Option Float :=
  let whole := text.takeWhile Char.isDigit
  let afterWhole := text.dropWhile Char.isDigit
  let (fraction, rest) := match afterWhole with
    | '.' :: rest => (rest.takeWhile Char.isDigit, rest.dropWhile Char.isDigit)
    | rest => ([], rest)
  let digits := whole ++ fraction
  if digits.isEmpty then none
  else (readExponent? rest).map fun exponent => toFloat digits (exponent - fraction.length)

/-- Reads a floating-point number. -/
def readFloat? (text : String) : Option Float :=
  (dropSeparators? ' ' (Text.plainNumber text)).bind fun plain =>
    let (negative, magnitude) := Text.splitSign plain
    let word := String.ofList (magnitude.map Char.toLower)
    let value :=
      if word = "inf" || word = "infinity" then some (1.0 / 0.0)
      else if word = "nan" then some (0.0 / 0.0)
      else readMagnitude? magnitude
    value.map fun value => if negative then -value else value

end LoadVerifier.Decimal
