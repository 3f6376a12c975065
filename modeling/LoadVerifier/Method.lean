/-
This file holds the methods of an object, to be written statement by statement.

A method checks and assigns in an order of its own. When it raises in the middle, what it has
assigned before stays assigned: it is not taken back.
-/

namespace LoadVerifier

/-- A method of an object. It may raise in the middle, and then keeps what it has assigned. -/
abbrev Method (Error Object Answer : Type) := ExceptT Error (StateM Object) Answer

namespace Method

variable {Error Object Answer Other : Type}

/-- Calls a method: what it answers or raises, and the object after it. -/
def call (method : Method Error Object Answer) (object : Object) : Except Error Answer × Object :=
  method.run.run object

/-- Raises an error when a condition on the object holds. -/
def refuseIf (refused : Object → Bool) (error : Error) : Method Error Object Unit := do
  if refused (← get) then throw error

/-- Gives the value of a computation that may raise. -/
def orRaise : Except Error Answer → Method Error Object Answer
  | .ok answer => pure answer
  | .error error => throw error

/-- Reads from the object. -/
def read (view : Object → Answer) : Method Error Object Answer := do
  return view (← get)

/-- Assigns to the object. -/
def assign (change : Object → Object) : Method Error Object Unit := modify change

@[simp] theorem call_bind (first : Method Error Object Answer)
    (rest : Answer → Method Error Object Other) (object : Object) :
    (first >>= rest).call object = match first.call object with
      | (.ok answer, next) => (rest answer).call next
      | (.error error, next) => (.error error, next) := by
  show ExceptT.bindCont rest (first.call object).1 (first.call object).2 = _
  rcases first.call object with ⟨outcome, next⟩
  cases outcome <;> rfl

@[simp] theorem call_pure (answer : Answer) (object : Object) :
    (pure answer : Method Error Object Answer).call object = (.ok answer, object) := rfl

@[simp] theorem call_map (change : Answer → Other) (method : Method Error Object Answer)
    (object : Object) :
    (change <$> method).call object =
      ((method.call object).1.map change, (method.call object).2) := by
  rw [map_eq_pure_bind, call_bind]
  rcases method.call object with ⟨outcome, next⟩
  cases outcome <;> rfl

@[simp] theorem call_refuseIf (refused : Object → Bool) (error : Error) (object : Object) :
    (refuseIf refused error).call object =
      (if refused object then .error error else .ok (), object) := by
  rw [refuseIf, call_bind]
  show call (if refused object then throw error else pure ()) object = _
  cases refused object <;> rfl

@[simp] theorem call_orRaise (computed : Except Error Answer) (object : Object) :
    (orRaise computed).call object = (computed, object) := by
  cases computed <;> rfl

@[simp] theorem call_read (view : Object → Answer) (object : Object) :
    (read view : Method Error Object Answer).call object = (.ok (view object), object) := rfl

@[simp] theorem call_assign (change : Object → Object) (object : Object) :
    (assign change : Method Error Object Unit).call object = (.ok (), change object) := rfl

end Method

end LoadVerifier
