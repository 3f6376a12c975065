/-
This file writes whole numbers in base ten.

`decimal` is the plain form: a minus sign in front of a negative number, and then the digits
without leading zeros. `grouped` is the form for reading: the same digits with a comma before
every third one, counted from the right. Both are built from `Nat.toDigits`, so the number can
be read back from the digits.
-/

namespace LoadVerifier.Text

/-- The digits of a whole number in base ten, behind a minus sign when it is negative. -/
def decimal (number : Int) : List Char :=
  if number < 0 then '-' :: Nat.toDigits 10 number.natAbs else Nat.toDigits 10 number.natAbs

/-- Digits in reverse order with a comma after every third one that is not the last. -/
def groupReversed : List Char → List Char
  | first :: second :: third :: fourth :: rest =>
    first :: second :: third :: ',' :: groupReversed (fourth :: rest)
  | short => short

/-- A whole number with a comma before every third digit, counted from the right. -/
def grouped (number : Int) : String :=
  let digits := String.ofList (groupReversed (Nat.toDigits 10 number.natAbs).reverse).reverse
  if number < 0 then "-" ++ digits else digits

end LoadVerifier.Text
