/-
This file repeats a step as long as there is one, up to a number of times that the caller knows to
be enough.
-/

namespace LoadVerifier

/-- Repeats a step until there is none. -/
def iterate {State : Type} (step : State → Option State) : (fuel : Nat) → State → State
  | 0, state => state
  | fuel + 1, state =>
    match step state with
    | none => state
    | some next => iterate step fuel next

end LoadVerifier
