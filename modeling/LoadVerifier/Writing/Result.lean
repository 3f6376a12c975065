/-
This file holds the result of a write pass. The pass went well when no key failed and nobody
stopped it.
-/
import LoadVerifier.Text.Digits

namespace LoadVerifier

/-- What a finished write pass reports. -/
structure WriteResult where
  keysWritten : Int
  columnsWritten : Int
  failedKeys : List Int
  watermark : Int
  stopped : Bool := false
  deriving DecidableEq

namespace WriteResult

/-- Whether the pass wrote every key it was given. -/
def ok (result : WriteResult) : Bool := result.failedKeys.isEmpty && !result.stopped

/-- The closing line of a write pass. -/
def summary (result : WriteResult) : String :=
  s!"[done] write: keys={Text.grouped result.keysWritten} " ++
    s!"cols={Text.grouped result.columnsWritten} " ++
    s!"failed={result.failedKeys.length} watermark={result.watermark}"

end WriteResult

end LoadVerifier
