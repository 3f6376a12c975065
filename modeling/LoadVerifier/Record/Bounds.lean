/-
This file holds the bounds of generated records: how many columns a row has, and how long a cell
is. The bounds are checked once, when they are built, and the proofs are part of them.
-/
import LoadVerifier.Error

namespace LoadVerifier

/-- The least and the greatest number of columns, and the least and the greatest cell size. -/
structure Bounds where
  minColumns : Nat
  maxColumns : Nat
  minSize : Nat
  maxSize : Nat
  one_le_minColumns : 1 ≤ minColumns
  minColumns_le : minColumns ≤ maxColumns
  minSize_le : minSize ≤ maxSize
  deriving DecidableEq

namespace Bounds

/-- The bounds with these numbers, or the first reason why there are none. -/
def make (minColumns maxColumns minSize maxSize : Int) : Except ConfigError Bounds :=
  if few : minColumns < 1 then .error (.tooFewColumns minColumns)
  else if reversed : maxColumns < minColumns then
    .error (.columnsReversed minColumns maxColumns)
  else if negative : minSize < 0 then .error (.negativeSize minSize)
  else if sizesReversed : maxSize < minSize then .error (.sizesReversed minSize maxSize)
  else .ok ⟨minColumns.toNat, maxColumns.toNat, minSize.toNat, maxSize.toNat,
    by omega, by omega, by omega⟩

/-- Bounds around averages: one to twice the average number of columns, and half to one and a
half times the average cell size. -/
def ofAverages (averageColumns averageSize : Int) : Except ConfigError Bounds :=
  if averageColumns < 1 then .error (.averageColumnsTooSmall averageColumns)
  else if averageSize < 1 then .error (.averageSizeTooSmall averageSize)
  else make 1 (2 * averageColumns) (averageSize / 2) (averageSize * 3 / 2)

end Bounds

end LoadVerifier
