/-
This file says which sights a worker can have of one key, one after another, from the claim on.

A wait is at one of a few places, and each sight leads from one place to the next or is impossible
there. What a list of sights must look like is read off the place it leads to: a wait that is about
to read ends in a mark that lets the key through, a wait that is about to count the key as missed
ends in the answer "finished" and a mark below the key, and nothing but the read or the count can
follow.
-/
import LoadVerifier.Proofs.ReaderLife
import LoadVerifier.Proofs.Schedule

namespace LoadVerifier

/-- How far the wait for a key is. -/
inductive Wait
  | unclaimed
  | looking
  | asking
  | pausing
  | lookingAgain
  | reading
  | missing
  | closed
  deriving DecidableEq

namespace ReadPlan

open ReaderLife (Ripe)

/-- The key may be read when the first look at the watermark gives the mark: the whole range is
written, or the key is a window behind the mark. -/
def Readable (plan : ReadPlan) (key mark : Int) : Prop :=
  plan.range.last ≤ mark ∨ key ≤ mark - plan.keyWindow

instance (plan : ReadPlan) (key mark : Int) : Decidable (plan.Readable key mark) :=
  inferInstanceAs (Decidable (_ ∨ _))

/-- Where the wait for a key goes with the next sight of it. -/
def waitAfter (plan : ReadPlan) (key : Int) : Wait → Sight → Option Wait
  | .unclaimed, .claimed => some .looking
  | .looking, .mark mark => some (if plan.Readable key mark then .reading else .asking)
  | .asking, .finished answer => some (if answer then .lookingAgain else .pausing)
  | .pausing, .slept stopped => some (if stopped then .closed else .looking)
  | .lookingAgain, .mark mark => some (if key ≤ mark then .reading else .missing)
  | .reading, .read _ => some .closed
  | .missing, .unreachable => some .closed
  | _, _ => none

/-- The sights of a key lead from its claim to a place of the wait. -/
def Leads (plan : ReadPlan) (key : Int) (sights : List Sight) (wait : Wait) : Prop :=
  replay (plan.waitAfter key) .unclaimed sights = some wait

variable {plan : ReadPlan} {key : Int}

theorem ripe_iff_readable (inside : key ≤ plan.range.last) (mark : Int) :
    Ripe plan.range.last plan.keyWindow key mark ↔ plan.Readable key mark := by
  unfold Ripe Readable readableUpTo
  split
  · rename_i reached
    exact ⟨fun _ => Or.inl reached, fun _ => inside⟩
  · rename_i unreached
    exact ⟨Or.inr, fun readable => readable.resolve_left unreached⟩

theorem leads_nil : plan.Leads key [] .unclaimed := rfl

/-- Another sight leads on from where the sights so far have led. -/
theorem Leads.snoc {sights : List Sight} {wait later : Wait} (leads : plan.Leads key sights wait)
    (sight : Sight) (goes : plan.waitAfter key wait sight = some later) :
    plan.Leads key (sights ++ [sight]) later := by
  rw [Leads, replay_append, show replay _ _ sights = _ from leads, Option.bind_some, replay, goes]
  rfl

/-! ### What comes before -/

theorem finished_of_lookingAgain (wait : Wait) (sight : Sight)
    (goes : plan.waitAfter key wait sight = some .lookingAgain) : sight = .finished true := by
  cases wait <;> cases sight <;> simp only [waitAfter, reduceCtorEq, Option.some.injEq] at goes
  all_goals split at goes <;> simp_all

/-- A wait that is about to look again has just been told that the source is finished. -/
theorem Leads.eq_of_lookingAgain {sights : List Sight}
    (leads : plan.Leads key sights .lookingAgain) :
    ∃ earlier, sights = earlier ++ [Sight.finished true] := by
  obtain ⟨earlier, sight, wait, rfl, _, goes⟩ := replay_last _ _ sights (by decide) leads
  exact ⟨earlier, by rw [finished_of_lookingAgain wait sight goes]⟩

theorem mark_of_reading (wait : Wait) (sight : Sight)
    (goes : plan.waitAfter key wait sight = some .reading) :
    (∃ mark, sight = .mark mark ∧ plan.Readable key mark) ∨
      (wait = .lookingAgain ∧ ∃ mark, sight = .mark mark ∧ key ≤ mark) := by
  cases wait <;> cases sight <;> simp only [waitAfter, reduceCtorEq, Option.some.injEq] at goes
  all_goals split at goes <;> simp_all

/-- A wait that is about to read has just seen a mark that lets the key through: one that makes it
readable, or one that reaches it after the source was finished. -/
theorem Leads.eq_of_reading {sights : List Sight} (leads : plan.Leads key sights .reading) :
    (∃ earlier mark, sights = earlier ++ [Sight.mark mark] ∧ plan.Readable key mark) ∨
      ∃ earlier mark, sights = earlier ++ [Sight.finished true, .mark mark] ∧ key ≤ mark := by
  obtain ⟨earlier, sight, wait, rfl, came, goes⟩ := replay_last _ _ sights (by decide) leads
  rcases mark_of_reading wait sight goes with ⟨mark, rfl, readable⟩ | ⟨rfl, mark, rfl, reached⟩
  · exact Or.inl ⟨earlier, mark, rfl, readable⟩
  · obtain ⟨start, rfl⟩ := Leads.eq_of_lookingAgain came
    exact Or.inr ⟨start, mark, List.append_assoc _ _ _, reached⟩

theorem mark_of_missing (wait : Wait) (sight : Sight)
    (goes : plan.waitAfter key wait sight = some .missing) :
    wait = .lookingAgain ∧ ∃ mark, sight = .mark mark ∧ mark < key := by
  cases wait <;> cases sight <;> simp only [waitAfter, reduceCtorEq, Option.some.injEq] at goes
  all_goals split at goes <;> simp_all

/-- A wait that is about to count its key as missed has just been told that the source is finished,
and then seen a mark below the key. -/
theorem Leads.eq_of_missing {sights : List Sight} (leads : plan.Leads key sights .missing) :
    ∃ earlier mark, sights = earlier ++ [Sight.finished true, .mark mark] ∧ mark < key := by
  obtain ⟨earlier, sight, wait, rfl, came, goes⟩ := replay_last _ _ sights (by decide) leads
  obtain ⟨rfl, mark, rfl, missed⟩ := mark_of_missing wait sight goes
  obtain ⟨start, rfl⟩ := Leads.eq_of_lookingAgain came
  exact ⟨start, mark, List.append_assoc _ _ _, missed⟩

theorem reading_of_read (wait later : Wait) (verify : Bool)
    (goes : plan.waitAfter key wait (.read verify) = some later) : wait = .reading := by
  cases wait <;> simp only [waitAfter, reduceCtorEq] at goes
  rfl

theorem missing_of_unreachable (wait later : Wait)
    (goes : plan.waitAfter key wait .unreachable = some later) : wait = .missing := by
  cases wait <;> simp only [waitAfter, reduceCtorEq] at goes
  rfl

/-! ### What comes after -/

variable {final : Wait} {after : List Sight}

theorem eq_nil_of_closed (ran : replay (plan.waitAfter key) .closed after = some final) :
    after = [] := by
  cases after with
  | nil => rfl
  | cons sight rest => cases ran

/-- Nothing but the read follows a wait that is about to read. -/
theorem after_reading (ran : replay (plan.waitAfter key) .reading after = some final) :
    after = [] ∨ ∃ verify, after = [.read verify] := by
  cases after with
  | nil => exact Or.inl rfl
  | cons sight rest =>
    cases sight with
    | read verify => exact Or.inr ⟨verify, by rw [eq_nil_of_closed ran]⟩
    | _ => cases ran

/-- Nothing but the count follows a wait that is about to count its key as missed. -/
theorem after_missing (ran : replay (plan.waitAfter key) .missing after = some final) :
    after = [] ∧ final = .missing ∨ after = [.unreachable] := by
  cases after with
  | nil => exact Or.inl ⟨rfl, (Option.some.inj ran).symm⟩
  | cons sight rest =>
    cases sight with
    | unreachable => exact Or.inr (by rw [eq_nil_of_closed ran])
    | _ => cases ran

/-- After the answer "finished" there is one more mark, and then the read or the count. -/
theorem after_lookingAgain
    (ran : replay (plan.waitAfter key) .lookingAgain after = some final) :
    after = [] ∨ ∃ mark, after = [.mark mark] ∨
      (key ≤ mark ∧ ∃ verify, after = [.mark mark, .read verify]) ∨
      (mark < key ∧ after = [.mark mark, .unreachable]) := by
  cases after with
  | nil => exact Or.inl rfl
  | cons sight rest =>
    cases sight with
    | mark mark =>
      refine Or.inr ⟨mark, ?_⟩
      rw [replay, waitAfter, Option.bind_some] at ran
      split at ran
      · rename_i reached
        rcases after_reading ran with rfl | ⟨verify, rfl⟩
        · exact Or.inl rfl
        · exact Or.inr (Or.inl ⟨reached, verify, rfl⟩)
      · rename_i missed
        rcases after_missing ran with ⟨rfl, _⟩ | rfl
        · exact Or.inl rfl
        · exact Or.inr (Or.inr ⟨not_le.mp missed, rfl⟩)
    | _ => cases ran

end ReadPlan

end LoadVerifier
