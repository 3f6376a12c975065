/-
This file holds the claim cursor, from which the workers of a pool take the keys of a range one
at a time.

There is no split of the range in advance: whoever asks next gets the next key. A claim is one
step, so a key is handed out to exactly one worker.
-/
import LoadVerifier.Key.Range

namespace LoadVerifier

/-- A range and the next key to hand out. -/
structure Cursor where
  range : KeyRange
  next : Int
  start_le_next : range.start ≤ next
  next_le_limit : next ≤ range.limit
  deriving DecidableEq

namespace Cursor

/-- A cursor at the start of its range. -/
def ofRange (range : KeyRange) : Cursor :=
  ⟨range, range.start, Int.le_refl _, range.start_le_limit⟩

/-- The number of keys handed out. -/
def claimed (cursor : Cursor) : Int := cursor.next - cursor.range.start

/-- Hands out the next key, unless the range is used up. -/
def claim (cursor : Cursor) : Option Int × Cursor :=
  if left : cursor.next < cursor.range.limit then
    have after := cursor.start_le_next
    (some cursor.next, ⟨cursor.range, cursor.next + 1, by omega, by omega⟩)
  else (none, cursor)

theorem claim_range (cursor : Cursor) : cursor.claim.2.range = cursor.range := by
  rw [claim]; split <;> rfl

theorem claim_of_lt (cursor : Cursor) (left : cursor.next < cursor.range.limit) :
    cursor.claim.1 = some cursor.next ∧ cursor.claim.2.next = cursor.next + 1 := by
  rw [claim, dif_pos left]; exact ⟨rfl, rfl⟩

theorem claim_eq_of_lt (cursor : Cursor) (left : cursor.next < cursor.range.limit) :
    cursor.claim = (some cursor.next, cursor.claim.2) :=
  Prod.ext (cursor.claim_of_lt left).1 rfl

theorem claim_of_not_lt (cursor : Cursor) (used : ¬cursor.next < cursor.range.limit) :
    cursor.claim = (none, cursor) := by
  rw [claim, dif_neg used]

end Cursor

end LoadVerifier
