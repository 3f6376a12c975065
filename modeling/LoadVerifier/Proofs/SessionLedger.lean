/-
This file reads the ledger of a store with sessions. It shows which connections a caller opened,
what was carried out on them, and what the caller saw when it looked last. A deed is judged by the
part of the ledger before it (`Proper`), and a stage of a call by all of it (`Fits`): between
looking and using, the ledger holds that the connection is the caller's own and that it was found
open.

What was done stays done, so a ledger that grows keeps all of this, except for what a caller saw
last; and that changes only when the caller itself looks.
-/
import LoadVerifier.Proofs.SessionLife
import LoadVerifier.Proofs.Sessions

namespace LoadVerifier

/-- The requests that store or select cells. -/
inductive Demand.IsData (table : Table) : Demand → Prop
  | insert connection rows : IsData table (.executeMany connection table.insertStatement rows)
  | select connection key : IsData table (.execute connection table.selectStatement [key])

namespace Demand.IsData

variable {table : Table}

theorem isUse {demand : Demand} (data : demand.IsData table) : demand.isUse = true := by
  cases data <;> rfl

/-- A selection has a parameter. -/
theorem parameters_ne_nil {connection : Nat} {statement : Statement} {parameters : List Int}
    (data : IsData table (.execute connection statement parameters)) : parameters ≠ [] := by
  cases data
  exact List.cons_ne_nil _ _

end Demand.IsData

/-- The connection that a deed opens. -/
def Deed.opens? : Deed → Option Nat
  | .connects (.ok connection) => some connection
  | _ => none

theorem Deed.opens?_eq_some_iff (deed : Deed) (connection : Nat) :
    deed.opens? = some connection ↔ deed = .connects (.ok connection) := by
  constructor
  · intro opens
    cases deed with
    | connects answer =>
      cases answer with
      | ok opened =>
        cases opens
        rfl
      | error failure => cases opens
    | looks found => cases opens
    | asks demand answer => cases opens
  · rintro rfl
    rfl

namespace SessionLife

/-! ### What a ledger shows -/

section Ledger

variable (ledger : List (Caller × Deed)) (caller : Caller) (connection : Nat)

/-- A caller was given a connection. -/
def Opened : Prop := (caller, Deed.connects (.ok connection)) ∈ ledger

/-- A statement was carried out for a caller on a connection. -/
def Ran (statement : Statement) : Prop :=
  ∃ reply, (caller, Deed.asks (.execute connection statement []) (.ok reply)) ∈ ledger

/-- What a caller saw of its connection, if it looked. -/
def lookOf : Caller × Deed → Option (Option (Nat × Bool))
  | (who, .looks found) => if who = caller then some found else none
  | _ => none

/-- What a caller saw of its connection when it looked last. -/
def lastLook : Option (Option (Nat × Bool)) := latest? (lookOf caller) ledger

/-- A caller looked last at a connection that it opened, and found it open. -/
structure Holds : Prop where
  opened : Opened ledger caller connection
  found : lastLook ledger caller = some (some (connection, false))

/-- A caller found that it has no connection, or that the one it has is closed. -/
def Lost : Prop :=
  lastLook ledger caller = some none ∨
    ∃ connection, lastLook ledger caller = some (some (connection, true))

/-- A connection was prepared by a caller. -/
structure Prepared (synchronousCommit : Bool) : Prop where
  quiet : Ran ledger caller connection quietStatement
  relaxed : synchronousCommit = false → Ran ledger caller connection asynchronousStatement

end Ledger

section Growth

variable {ledger more : List (Caller × Deed)} {caller : Caller} {connection : Nat}

theorem Opened.append (opened : Opened ledger caller connection) :
    Opened (ledger ++ more) caller connection :=
  List.mem_append_left _ opened

theorem Ran.append {statement : Statement} (ran : Ran ledger caller connection statement) :
    Ran (ledger ++ more) caller connection statement :=
  ran.imp fun _ member => List.mem_append_left _ member

theorem Prepared.append {synchronousCommit : Bool}
    (prepared : Prepared ledger caller connection synchronousCommit) :
    Prepared (ledger ++ more) caller connection synchronousCommit :=
  ⟨prepared.quiet.append, fun asynchronous => (prepared.relaxed asynchronous).append⟩

theorem lastLook_looks (ledger : List (Caller × Deed)) (caller : Caller)
    (found : Option (Nat × Bool)) :
    lastLook (ledger ++ [(caller, .looks found)]) caller = some found := by
  rw [lastLook, latest?_concat, lookOf, if_pos rfl, Option.or]

/-- A caller saw last what it saw before, when it has not looked since. -/
theorem lastLook_append (silent : ∀ entry ∈ more, lookOf caller entry = none) :
    lastLook (ledger ++ more) caller = lastLook ledger caller := by
  rw [lastLook, latest?, List.filterMap_append, List.filterMap_eq_nil_iff.mpr silent,
    List.append_nil]
  rfl

theorem lookOf_eq_none_of_ne {actor : Caller} (other : caller ≠ actor) (deed : Deed) :
    lookOf caller (actor, deed) = none := by
  cases deed with
  | looks found => exact if_neg (Ne.symm other)
  | connects answer => rfl
  | asks demand answer => rfl

end Growth

/-! ### Proper deeds -/

/-- What a deed is judged by, given the deeds before it: a new connection is for a caller that found
itself without one; a connection is used by the caller that opened it and found it open; and cells
are stored and selected on a prepared connection. -/
def Proper (table : Table) (synchronousCommit : Bool) (past : List (Caller × Deed)) :
    Caller × Deed → Prop
  | (_, .looks _) => True
  | (caller, .connects _) => Lost past caller
  | (caller, .asks demand _) =>
    (demand.isUse = true → Holds past caller demand.connection) ∧
      (demand.IsData table → Prepared past caller demand.connection synchronousCommit) ∧
        ∀ connection, demand = .execute connection asynchronousStatement [] →
          synchronousCommit = false

/-- Every deed of a ledger is as it has to be, given the deeds before it. -/
def Orderly (proper : List (Caller × Deed) → Caller × Deed → Prop)
    (ledger : List (Caller × Deed)) : Prop :=
  ∀ past entry rest, ledger = past ++ entry :: rest → proper past entry

theorem Orderly.concat {proper : List (Caller × Deed) → Caller × Deed → Prop}
    {ledger : List (Caller × Deed)} (orderly : Orderly proper ledger) (entry : Caller × Deed)
    (new : proper ledger entry) : Orderly proper (ledger ++ [entry]) := by
  intro past other rest equal
  rcases List.eq_nil_or_concat rest with rfl | ⟨before, last, rfl⟩
  · obtain ⟨rfl, same⟩ := List.append_inj' equal rfl
    cases same
    exact new
  · rw [List.concat_eq_append, ← List.cons_append, ← List.append_assoc] at equal
    obtain ⟨old, -⟩ := List.append_inj' equal rfl
    exact orderly past other before old

/-- What the ledger holds by the time a call is at a stage. -/
def Fits (synchronousCommit : Bool) (ledger : List (Caller × Deed)) (caller : Caller) :
    CallStage → Prop
  | .connect _ => Lost ledger caller
  | .quiet _ connection => Holds ledger caller connection
  | .relax _ connection =>
    Holds ledger caller connection ∧ Ran ledger caller connection quietStatement ∧
      synchronousCommit = false
  | .register _ connection | .begin _ connection | .store _ connection | .commit connection
  | .rollback connection _ | .select _ connection =>
    Holds ledger caller connection ∧ Prepared ledger caller connection synchronousCommit
  | .close connections => ∀ connection ∈ connections, ∃ owner, Opened ledger owner connection
  | .lookUp _ | .release | .ended _ => True

theorem Holds.append {ledger more : List (Caller × Deed)} {caller : Caller} {connection : Nat}
    (holds : Holds ledger caller connection)
    (same : lastLook (ledger ++ more) caller = lastLook ledger caller) :
    Holds (ledger ++ more) caller connection :=
  ⟨holds.opened.append, same.trans holds.found⟩

/-- A stage fits as long as its caller has not looked again. -/
theorem Fits.append {synchronousCommit : Bool} {ledger more : List (Caller × Deed)}
    {caller : Caller} {stage : CallStage} (fits : Fits synchronousCommit ledger caller stage)
    (same : lastLook (ledger ++ more) caller = lastLook ledger caller) :
    Fits synchronousCommit (ledger ++ more) caller stage := by
  cases stage with
  | connect call =>
    exact fits.imp same.trans (Exists.imp fun _ found => same.trans found)
  | quiet call connection => exact Holds.append fits same
  | relax call connection => exact ⟨fits.1.append same, fits.2.1.append, fits.2.2⟩
  | register call connection => exact ⟨fits.1.append same, fits.2.append⟩
  | begin rows connection => exact ⟨fits.1.append same, fits.2.append⟩
  | store rows connection => exact ⟨fits.1.append same, fits.2.append⟩
  | commit connection => exact ⟨fits.1.append same, fits.2.append⟩
  | rollback connection failure => exact ⟨fits.1.append same, fits.2.append⟩
  | select key connection => exact ⟨fits.1.append same, fits.2.append⟩
  | close connections =>
    exact fun connection member => (fits connection member).imp fun _ opened => opened.append
  | lookUp call => trivial
  | release => trivial
  | ended result => trivial

end SessionLife

end LoadVerifier
