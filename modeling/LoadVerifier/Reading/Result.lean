/-
This file holds the result of a read pass. The pass went well when it ran to its end without an
error and without a key that the writer never reached.
-/
import LoadVerifier.Text.Digits
import LoadVerifier.Text.Quoted

namespace LoadVerifier

/-- How a read pass ended. -/
inductive ReadStatus
  | completed
  | aborted
  | stopped
  deriving DecidableEq

namespace ReadStatus

/-- The word for a status. -/
def word : ReadStatus → String
  | .completed => "completed"
  | .aborted => "aborted"
  | .stopped => "stopped"

/-- The status with the given word; otherwise why there is none. -/
def ofWord (word : String) : Except String ReadStatus :=
  if word = "completed" then .ok .completed
  else if word = "aborted" then .ok .aborted
  else if word = "stopped" then .ok .stopped
  else .error s!"{Text.quoted word} is not a valid ReadStatus"

end ReadStatus

/-- What a finished read pass reports. -/
structure ReadResult where
  status : ReadStatus
  keysRead : Int
  verified : Int
  errors : Int
  unreachable : Int
  errorKeys : List Int
  deriving DecidableEq

namespace ReadResult

/-- Whether the limit of errors was exceeded. -/
def aborted (result : ReadResult) : Bool := result.status = .aborted

/-- Whether the pass read every key it was given without an error. -/
def ok (result : ReadResult) : Bool :=
  result.status = .completed && result.errors = 0 && result.unreachable = 0

/-- The most keys with errors that are listed. -/
def shownKeys : Nat := 20

/-- The closing lines of a read pass. -/
def summary (result : ReadResult) : List String :=
  let counts :=
    s!"[done] read: status={result.status.word} keys={Text.grouped result.keysRead} " ++
      s!"verified={Text.grouped result.verified} errors={result.errors} " ++
      s!"unreachable={result.unreachable}"
  if result.errorKeys.isEmpty then [counts]
  else
    let shown := String.intercalate ", " ((result.errorKeys.take shownKeys).map toString)
    let more := if shownKeys < result.errorKeys.length then " ..." else ""
    [counts, s!"[done] keys with errors: {shown}{more}"]

end ReadResult

end LoadVerifier
