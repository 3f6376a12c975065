/-
This file counts what a read pass has seen. The counts only grow. A key with an error is counted
and remembered; the remembered keys are a set, which is read off in ascending order.
-/
import Std.Data.TreeSet

namespace LoadVerifier

/-- What a read pass has counted so far. -/
structure ReadTally where
  keysRead : Nat := 0
  verified : Nat := 0
  errors : Nat := 0
  unreachable : Nat := 0
  errorKeys : Std.TreeSet Int := ∅

namespace ReadTally

/-- Counts a key that was read. -/
def countRead (tally : ReadTally) : ReadTally := { tally with keysRead := tally.keysRead + 1 }

/-- Counts a key whose row matched its record. -/
def countVerified (tally : ReadTally) : ReadTally := { tally with verified := tally.verified + 1 }

/-- Counts a key that the writer never reached. -/
def countUnreachable (tally : ReadTally) : ReadTally :=
  { tally with unreachable := tally.unreachable + 1 }

/-- Counts a key with an error. -/
def countError (tally : ReadTally) (key : Int) : ReadTally :=
  { tally with errors := tally.errors + 1, errorKeys := tally.errorKeys.insert key }

end ReadTally

end LoadVerifier
