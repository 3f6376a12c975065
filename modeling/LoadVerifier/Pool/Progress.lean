/-
This file writes the progress line of a pool: what its workers counted so far, how many of them
have not left, and how many keys a second they make. The time since the start counts as at least
one nanosecond.
-/
import LoadVerifier.Decimal.Rounded
import LoadVerifier.Pool.Basic

namespace LoadVerifier

/-- The shortest time a rate is computed over, in seconds. -/
def minElapsed : Float := 1e-9

namespace Pool

variable {State Task : Type}

/-- The keys a second since the start of the pool. -/
def rate (pool : Pool State Task) (now : Float) : Float :=
  let startedAt := (pool.roster.map (·.startedAt)).getD 0.0
  let elapsed := now - startedAt
  Float.ofNat pool.shared.numKeys / (if minElapsed > elapsed then minElapsed else elapsed)

/-- The progress line of a pool, with what its kind adds to it. -/
def progressLine (name : String) (pool : Pool State Task) (now : Float) (extra : String) :
    String :=
  let line :=
    s!"[progress] {name}: keys={Text.grouped pool.shared.numKeys} " ++
      s!"cols={Text.grouped pool.shared.numColumns} threads={pool.active} " ++
      s!"keys/s={Decimal.rounded (pool.rate now)}"
  if extra.isEmpty then line else s!"{line} {extra}"

end Pool

end LoadVerifier
