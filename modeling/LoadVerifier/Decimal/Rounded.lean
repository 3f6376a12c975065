/-
This file writes a floating-point number as a whole number for reading: the exact binary value
is rounded to the nearest whole number, a half to the even neighbour, and the digits are grouped
by three.
-/
import LoadVerifier.Decimal.Binary
import LoadVerifier.Text.Digits

namespace LoadVerifier.Decimal

/-- The magnitude `mantissa * 2 ^ exponent` as a whole number. -/
def roundMagnitude (mantissa : Nat) (exponent : Int) : Nat :=
  if 0 ≤ exponent then mantissa * twoTo exponent.toNat
  else roundQuotient mantissa (twoTo (-exponent).toNat)

/-- A number rounded to a whole one, with its digits grouped by three. -/
def rounded (number : Float) : String :=
  match Binary.ofFloat number with
  | .notANumber => "nan"
  | .infinite negative => if negative then "-inf" else "inf"
  | .finite negative mantissa exponent =>
    let digits := Text.grouped (roundMagnitude mantissa exponent)
    if negative then "-" ++ digits else digits

end LoadVerifier.Decimal
