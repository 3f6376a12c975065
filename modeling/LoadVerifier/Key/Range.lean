/-
This file holds ranges of keys: a start, which belongs to the range, and a limit, which does not.

A range never starts below zero, never ends before it starts and never ends beyond the largest
key; the proofs are part of the range, so only `KeyRange.make` has to check.
-/
import LoadVerifier.Error

namespace LoadVerifier

/-- The keys from `start` up to, but not including, `limit`. -/
structure KeyRange where
  start : Int
  limit : Int
  start_nonneg : 0 ≤ start
  start_le_limit : start ≤ limit
  limit_le_maxKey : limit ≤ maxKey
  deriving DecidableEq

namespace KeyRange

/-- The range from `start` to `limit`, or the first reason why there is none. -/
def make (start limit : Int) : Except ConfigError KeyRange :=
  if startOk : start < 0 then .error (.negativeStart start)
  else if limitOk : limit < start then .error (.limitBelowStart limit start)
  else if most : maxKey < limit then .error (.limitTooLarge limit)
  else .ok ⟨start, limit, by omega, by omega, by omega⟩

/-- The range of `count` keys from `start` on. -/
def ofCount (start count : Int) : Except ConfigError KeyRange :=
  make start (start + count)

/-- The last key of the range; the key before the start when the range is empty. -/
def last (range : KeyRange) : Int := range.limit - 1

/-- The number of keys. -/
def size (range : KeyRange) : Nat := (range.limit - range.start).toNat

/-- Whether a key belongs to the range. -/
def contains (range : KeyRange) (key : Int) : Bool := range.start ≤ key && key < range.limit

/-- The first and the last key with two points between them. -/
def text (range : KeyRange) : String := s!"{range.start}..{range.last}"

theorem contains_iff (range : KeyRange) (key : Int) :
    range.contains key = true ↔ range.start ≤ key ∧ key < range.limit := by
  simp [contains]

theorem size_eq (range : KeyRange) : (range.size : Int) = range.limit - range.start :=
  Int.toNat_of_nonneg (Int.sub_nonneg_of_le range.start_le_limit)

end KeyRange

end LoadVerifier
