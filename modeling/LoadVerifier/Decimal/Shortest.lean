/-
This file writes a floating-point number with the fewest digits that read back.

The numbers that round to a given one form an interval around it; its ends belong to it when the
mantissa is even. For one digit, two digits and so on up to seventeen, the two neighbours of the
value on that decimal grid are tried in exact arithmetic, and the first grid with a neighbour in
the interval gives the digits; of two such neighbours the nearer one is taken. Seventeen digits
always suffice.
-/
import LoadVerifier.Decimal.Binary

namespace LoadVerifier.Decimal

/-- Digits and the place of the decimal point: the value is `digits * 10 ^ scale`. -/
structure Digits where
  digits : Nat
  scale : Int

/-- A positive value and the interval of those that round to it, over one denominator. -/
structure Rounding where
  value : Nat
  low : Nat
  high : Nat
  denominator : Nat
  closed : Bool

/-- The interval around `mantissa * 2 ^ exponent`. -/
def Rounding.ofBinary (mantissa : Nat) (exponent : Int) : Rounding :=
  let narrow := mantissa = leastFullMantissa ∧ minExponent < exponent
  let up := twoTo exponent.toNat
  { value := 4 * mantissa * up
    low := (if narrow then 4 * mantissa - 1 else 4 * mantissa - 2) * up
    high := (4 * mantissa + 2) * up
    denominator := 4 * twoTo (-exponent).toNat
    closed := mantissa % 2 = 0 }

/-- Whether `digits * 10 ^ scale` rounds to the value. -/
def Rounding.contains (rounding : Rounding) (candidate : Digits) : Bool :=
  let scaled := candidate.digits * tenTo candidate.scale.toNat * rounding.denominator
  let unit := tenTo (-candidate.scale).toNat
  if rounding.closed then rounding.low * unit ≤ scaled && scaled ≤ rounding.high * unit
  else rounding.low * unit < scaled && scaled < rounding.high * unit

/-- The candidate on the grid of `10 ^ scale` that rounds to the value and is nearest to it. -/
def Rounding.onGrid? (rounding : Rounding) (scale : Int) : Option Digits :=
  let numerator := rounding.value * tenTo (-scale).toNat
  let denominator := rounding.denominator * tenTo scale.toNat
  let below : Digits := ⟨numerator / denominator, scale⟩
  let above : Digits := ⟨numerator / denominator + 1, scale⟩
  match rounding.contains below, rounding.contains above with
  | true, true => some ⟨roundQuotient numerator denominator, scale⟩
  | true, false => some below
  | false, true => some above
  | false, false => none

/-- The power of ten just above the value: the number of digits before its point, negative when
zeros follow the point. -/
def Rounding.magnitude (rounding : Rounding) : Int :=
  if rounding.denominator ≤ rounding.value then
    (Nat.toDigits 10 (rounding.value / rounding.denominator)).length
  else
    let places : Nat := (Nat.toDigits 10 (rounding.denominator / rounding.value)).length
    if rounding.denominator ≤ rounding.value * tenTo (places - 1) then 2 - (places : Int)
    else 1 - (places : Int)

/-- The fewest digits that read back as the value. -/
def Rounding.shortest (rounding : Rounding) : Digits :=
  let grids := (List.range 17).map fun (count : Nat) => rounding.magnitude - 1 - (count : Int)
  match grids.findSome? rounding.onGrid? with
  | some found => found
  | none => ⟨0, 0⟩

/-- The layout of a number's text: point and exponent follow from where the first digit stands. -/
def layout (digits : List Char) (point : Int) : List Char :=
  if 16 < point ∨ point ≤ -4 then
    let exponent := point - 1
    let magnitude := Nat.toDigits 10 exponent.natAbs
    let padded := if magnitude.length < 2 then '0' :: magnitude else magnitude
    let mantissa := match digits with
      | [] => []
      | [digit] => [digit]
      | digit :: rest => digit :: '.' :: rest
    mantissa ++ 'e' :: (if exponent < 0 then '-' else '+') :: padded
  else if point ≤ 0 then '0' :: '.' :: List.replicate (-point).toNat '0' ++ digits
  else
    let whole := digits.take point.toNat
    let fraction := digits.drop point.toNat
    let filled := whole ++ List.replicate (point.toNat - whole.length) '0'
    filled ++ '.' :: (if fraction.isEmpty then ['0'] else fraction)

/-- Drops the zeros at the end. -/
def dropTrailingZeros (digits : List Char) : List Char :=
  (digits.reverse.dropWhile (· = '0')).reverse

/-- The text of a number with the fewest digits that read back. -/
def shortest (number : Float) : String :=
  match Binary.ofFloat number with
  | .notANumber => "nan"
  | .infinite negative => if negative then "-inf" else "inf"
  | .finite negative mantissa exponent =>
    let sign := if negative then ['-'] else []
    if mantissa = 0 then String.ofList (sign ++ ['0', '.', '0'])
    else
      let found := (Rounding.ofBinary mantissa exponent).shortest
      let digits := Nat.toDigits 10 found.digits
      let point := (digits.length : Int) + found.scale
      String.ofList (sign ++ layout (dropTrailingZeros digits) point)

end LoadVerifier.Decimal
