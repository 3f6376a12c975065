/-
This file says what a parameter was given: a value, or a blank in its place. A blank does no harm as
long as nothing asks for the value.
-/

namespace LoadVerifier

/-- What a parameter was given: a value, or a blank in its place. -/
inductive Given (Value : Type)
  | blank
  | value (value : Value)
  deriving DecidableEq

namespace Given

variable {Value Result Problem : Type}

/-- The value, if there is one. -/
def value? : Given Value → Option Value
  | .blank => none
  | .value item => some item

/-- The value, or the problem that it is missing. -/
def need (problem : Problem) : Given Value → Except Problem Value
  | .blank => .error problem
  | .value item => .ok item

/-- Reads the value as something else. There is nothing to read in a blank. -/
def read (reader : Value → Except Problem Result) : Given Value → Except Problem (Given Result)
  | .blank => .ok .blank
  | .value item => (reader item).map .value

/-- The text a message shows. -/
def text : Given String → String
  | .blank => "[]"
  | .value item => item

theorem need_eq_ok_iff (problem : Problem) (given : Given Value) (item : Value) :
    given.need problem = .ok item ↔ given = .value item := by
  cases given <;> simp [need]

end Given

end LoadVerifier
