/-
This file holds what a reader sees of a writer: its watermark, and whether the watermark can still
move. Nothing else crosses over.

A reader stays a window of keys behind the watermark. The window is waived once the whole range is
written, because the last keys of the range would never become readable otherwise.
-/

namespace LoadVerifier

/-- Something that tells how far a writer is. Each answer is one step, and gives the source after
it. -/
class WatermarkSource (Source : Type) where
  mark : Source → Int × Source
  finished : Source → Bool × Source

/-- The highest key that may be read when the watermark is `mark`. -/
def readableUpTo (mark lastKey keyWindow : Int) : Int :=
  if lastKey ≤ mark then lastKey else mark - keyWindow

/-- A source set by hand: its answers to come, and what it answers when they are used up. -/
structure ScriptedSource where
  mark : Int := -1
  done : Bool := false
  calls : List Int := []
  deriving DecidableEq

instance : WatermarkSource ScriptedSource where
  mark source :=
    match source.calls with
    | [] => (source.mark, source)
    | next :: rest => (next, { source with calls := rest })
  finished source := (source.done, source)

end LoadVerifier
