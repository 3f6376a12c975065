/-
This file replays schedules. A system is a step function on events, and a schedule is a list of
events in the order in which they happen; an event that cannot happen has no step. Whatever holds
at the start and is kept by every step holds after every schedule.
-/

namespace LoadVerifier

variable {State Event : Type} {step : State → Event → Option State}

/-- The state after the events of a schedule, unless one of them cannot happen. -/
def replay (step : State → Event → Option State) : State → List Event → Option State
  | state, [] => some state
  | state, event :: rest => (step state event).bind fun next => replay step next rest

/-- What every step of an allowed event keeps, every schedule of allowed events keeps. -/
theorem replay_invariant_of_allowed (allowed : Event → Prop) (invariant : State → Prop)
    (kept : ∀ state event next, allowed event → invariant state →
      step state event = some next → invariant next)
    (start final : State) (schedule : List Event) (all : ∀ event ∈ schedule, allowed event)
    (holds : invariant start) (ran : replay step start schedule = some final) :
    invariant final := by
  induction schedule generalizing start with
  | nil =>
    rw [replay] at ran
    exact Option.some.inj ran ▸ holds
  | cons event rest inductionHypothesis =>
    rw [replay] at ran
    obtain ⟨next, stepped, continued⟩ := Option.bind_eq_some_iff.mp ran
    exact inductionHypothesis next (fun other member => all other (List.mem_cons_of_mem _ member))
      (kept start event next (all event List.mem_cons_self) holds stepped) continued

/-- What every step keeps, every schedule keeps. -/
theorem replay_invariant (invariant : State → Prop)
    (kept : ∀ state event next, invariant state → step state event = some next → invariant next)
    (start final : State) (schedule : List Event) (holds : invariant start)
    (ran : replay step start schedule = some final) : invariant final :=
  replay_invariant_of_allowed (fun _ => True) invariant
    (fun state event next _ => kept state event next) start final schedule (fun _ _ => trivial)
    holds ran

/-- When every step lowers a potential, no schedule is longer than the potential at its start. -/
theorem replay_length_le (invariant : State → Prop)
    (kept : ∀ state event next, invariant state → step state event = some next → invariant next)
    (potential : State → Nat)
    (lowered : ∀ state event next, invariant state → step state event = some next →
      potential next < potential state)
    (start final : State) (schedule : List Event) (holds : invariant start)
    (ran : replay step start schedule = some final) :
    schedule.length + potential final ≤ potential start := by
  induction schedule generalizing start with
  | nil =>
    rw [replay] at ran
    cases ran
    exact Nat.le_of_eq (Nat.zero_add _)
  | cons event rest inductionHypothesis =>
    rw [replay] at ran
    obtain ⟨next, stepped, continued⟩ := Option.bind_eq_some_iff.mp ran
    have further := inductionHypothesis next (kept start event next holds stepped) continued
    have less := lowered start event next holds stepped
    rw [List.length_cons]
    omega

/-- When an allowed event can lead from every state nearer to a goal, a schedule of allowed events
can lead to it. -/
theorem exists_replay_of_nearer {Distance : Type} [WellFoundedRelation Distance]
    (allowed : Event → Prop) (invariant goal : State → Prop) (distance : State → Distance)
    (nearer : ∀ state, invariant state → ¬goal state → ∃ event next, allowed event ∧
      step state event = some next ∧ invariant next ∧
        WellFoundedRelation.rel (distance next) (distance state))
    (start : State) (holds : invariant start) :
    ∃ schedule final, (∀ event ∈ schedule, allowed event) ∧
      replay step start schedule = some final ∧ invariant final ∧ goal final := by
  induction start using (InvImage.wf distance WellFoundedRelation.wf).induction with
  | _ start inductionHypothesis =>
    by_cases reached : goal start
    · exact ⟨[], start, nofun, rfl, holds, reached⟩
    · obtain ⟨event, next, isAllowed, stepped, kept, less⟩ := nearer start holds reached
      obtain ⟨rest, final, allAllowed, ran, ends⟩ := inductionHypothesis next less kept
      refine ⟨event :: rest, final, List.forall_mem_cons.mpr ⟨isAllowed, allAllowed⟩, ?_, ends⟩
      rw [replay, stepped]
      exact ran

/-- A schedule in two parts passes through a state between them. -/
theorem replay_append (start : State) (first second : List Event) :
    replay step start (first ++ second) =
      (replay step start first).bind fun state => replay step state second := by
  induction first generalizing start with
  | nil => rfl
  | cons event rest inductionHypothesis =>
    rw [List.cons_append, replay, replay, Option.bind_assoc]
    exact congrArg _ (funext fun next => inductionHypothesis next)

/-- A schedule passes through a state before each of its events and one after it. -/
theorem replay_middle (start final : State) (before after : List Event) (event : Event)
    (ran : replay step start (before ++ event :: after) = some final) :
    ∃ state next, replay step start before = some state ∧ step state event = some next ∧
      replay step next after = some final := by
  rw [replay_append] at ran
  obtain ⟨state, came, continued⟩ := Option.bind_eq_some_iff.mp ran
  obtain ⟨next, stepped, went⟩ := Option.bind_eq_some_iff.mp continued
  exact ⟨state, next, came, stepped, went⟩

/-- A schedule that leads anywhere but to its start has a last event. -/
theorem replay_last (start final : State) (schedule : List Event) (different : start ≠ final)
    (ran : replay step start schedule = some final) :
    ∃ before event state, schedule = before ++ [event] ∧ replay step start before = some state ∧
      step state event = some final := by
  rcases List.eq_nil_or_concat schedule with rfl | ⟨before, event, equal⟩
  · exact absurd (Option.some.inj ran) different
  · rw [List.concat_eq_append] at equal
    subst equal
    obtain ⟨state, next, came, stepped, went⟩ := replay_middle start final before [] event ran
    exact ⟨before, event, state, rfl, came, stepped.trans went⟩

end LoadVerifier
