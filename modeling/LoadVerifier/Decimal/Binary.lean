/-
This file looks inside a floating-point number.

A finite number is a sign and a whole number of halved or doubled units: mantissa times a power
of two. Everything that writes such a number exactly starts from this form, so that the rounding
happens once, in whole numbers.
-/

namespace LoadVerifier.Decimal

/-- The exact value of a floating-point number. -/
inductive Binary
  | notANumber
  | infinite (negative : Bool)
  | finite (negative : Bool) (mantissa : Nat) (exponent : Int)

/-- A power of two. -/
def twoTo (exponent : Nat) : Nat := Nat.pow 2 exponent

/-- A power of ten. -/
def tenTo (exponent : Nat) : Nat := Nat.pow 10 exponent

/-- The smallest mantissa of a number that is not too small for a full one. -/
def leastFullMantissa : Nat := twoTo 52

/-- The exponent of the smallest positive number. -/
def minExponent : Int := -1074

/-- Reads sign, mantissa and exponent off the bits. -/
def Binary.ofFloat (number : Float) : Binary :=
  let bits := number.toBits.toNat
  let negative := decide (bits / twoTo 63 % 2 = 1)
  let field : Nat := bits / leastFullMantissa % twoTo 11
  let fraction : Nat := bits % leastFullMantissa
  if field = twoTo 11 - 1 then
    if fraction = 0 then .infinite negative else .notANumber
  else if field = 0 then .finite negative fraction minExponent
  else .finite negative (leastFullMantissa + fraction) (minExponent + ((field : Int) - 1))

/-- The whole number that equals an exact value, if there is one. -/
def Binary.wholeNumber? : Binary → Option Int
  | .finite negative mantissa exponent =>
    let scaled := mantissa * twoTo exponent.toNat
    let divisor := twoTo (-exponent).toNat
    if scaled % divisor = 0 then
      let size : Int := scaled / divisor
      some (if negative then -size else size)
    else none
  | .notANumber | .infinite _ => none

/-- A quotient rounded to the nearest whole number, a half to the even neighbour. -/
def roundQuotient (numerator denominator : Nat) : Nat :=
  let quotient := numerator / denominator
  let twice := 2 * (numerator % denominator)
  if twice < denominator then quotient
  else if denominator < twice then quotient + 1
  else quotient + quotient % 2

end LoadVerifier.Decimal
