/-
This file holds the progress of a write pass as a contiguous prefix.

Keys are claimed in increasing order and completed in any order. The watermark is the last key up
to which every key from the start on is completed. Keys completed above that boundary are pending
until the gap below them closes. A key may be completed once only, and never below the boundary.
-/
import LoadVerifier.Error
import LoadVerifier.Method
import Std.Data.TreeSet

namespace LoadVerifier

/-- The completed keys: all those below `next`, and the pending ones above it. -/
structure WrittenPrefix where
  next : Int
  pending : Std.TreeSet Int
  completed : Nat

namespace WrittenPrefix

/-- Nothing is completed yet. -/
def ofStart (start : Int) : WrittenPrefix := ⟨start, ∅, 0⟩

/-- The last key up to which everything is completed. -/
def watermark (written : WrittenPrefix) : Int := written.next - 1

/-- Moves the boundary over pending keys that follow it without a gap, over so many at most. -/
def absorbUpTo : (count : Nat) → (next : Int) → Std.TreeSet Int → Int × Std.TreeSet Int
  | 0, next, pending => (next, pending)
  | count + 1, next, pending =>
    if pending.contains next then absorbUpTo count (next + 1) (pending.erase next)
    else (next, pending)

/-- Moves the boundary over all pending keys that follow it without a gap. -/
def absorb (next : Int) (pending : Std.TreeSet Int) : Int × Std.TreeSet Int :=
  absorbUpTo pending.size next pending

/-- The method that marks a key as completed, which is refused when it already was. It answers the
watermark after it. -/
def completeMethod (key : Int) : Method Crash WrittenPrefix Int := do
  Method.refuseIf (fun written => key < written.next ∨ written.pending.contains key)
    (.writtenTwice key)
  Method.assign fun written => { written with completed := written.completed + 1 }
  let next ← Method.read (·.next)
  if key ≠ next then
    Method.assign fun written => { written with pending := written.pending.insert key }
    return next - 1
  else
    let (gap, pending) := absorb (key + 1) (← Method.read (·.pending))
    Method.assign fun written => { written with pending }
    Method.assign fun written => { written with next := gap }
    return gap - 1

/-- Marks a key as completed: the watermark after it or the refusal, and the prefix after it. -/
def complete (written : WrittenPrefix) (key : Int) : Except Crash Int × WrittenPrefix :=
  (completeMethod key).call written

end WrittenPrefix

end LoadVerifier
