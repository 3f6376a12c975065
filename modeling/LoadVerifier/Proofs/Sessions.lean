/-
This file lets somebody use an engine in any way: its methods are called in any order and with any
arguments, while its workers take their steps and the world is changed by others. Each event gives a
reply, and a call that would have to wait has none yet.

A session is orderly when three things hold of it. A refused call leaves everything as it was, so it
is as if it had not been made. Once a start was accepted, every further call that would set the
engine up is refused. And what the engine was told before the start stays as it is.

All sessions are orderly with an engine that is lawful: it has to keep these rules in single calls
and single steps of its workers.
-/
import LoadVerifier.Proofs.Methods
import LoadVerifier.Proofs.ReaderAudit
import LoadVerifier.Proofs.WriterUndisturbed

namespace LoadVerifier

/-! ### Replies -/

section Transcript

variable {State Event Answer Thing : Type} {respond : State → Event → Option (Answer × State)}

/-- The answers to the events of a schedule and the state after them, unless one of the events
cannot happen. -/
def transcript (respond : State → Event → Option (Answer × State)) :
    State → List Event → Option (List Answer × State)
  | state, [] => some ([], state)
  | state, event :: rest =>
    (respond state event).bind fun (answer, next) =>
      (transcript respond next rest).map fun (answers, final) => (answer :: answers, final)

/-- What every answer keeps, given the events so far with their answers, every schedule keeps. -/
theorem transcript_invariant (invariant : List (Event × Answer) → State → Prop)
    (kept : ∀ past state event answer next, invariant past state →
      respond state event = some (answer, next) → invariant (past ++ [(event, answer)]) next)
    (past : List (Event × Answer)) (start final : State) (schedule : List Event)
    (answers : List Answer) (holds : invariant past start)
    (ran : transcript respond start schedule = some (answers, final)) :
    invariant (past ++ schedule.zip answers) final := by
  induction schedule generalizing start past answers with
  | nil =>
    cases ran
    rw [List.zip_nil_left, List.append_nil]
    exact holds
  | cons event rest inductionHypothesis =>
    rw [transcript] at ran
    obtain ⟨⟨answer, next⟩, answered, continued⟩ := Option.bind_eq_some_iff.mp ran
    obtain ⟨⟨later, last⟩, went, equal⟩ := Option.map_eq_some_iff.mp continued
    cases equal
    have further := inductionHypothesis (past ++ [(event, answer)]) next later
      (kept past start event answer next holds answered) went
    rw [List.append_assoc] at further
    exact further

/-- The last thing that was told. -/
def latest? (tell : Event × Answer → Option Thing) (past : List (Event × Answer)) : Option Thing :=
  (past.filterMap tell).getLast?

theorem latest?_concat (tell : Event × Answer → Option Thing) (past : List (Event × Answer))
    (new : Event × Answer) : latest? tell (past ++ [new]) = (tell new).or (latest? tell past) := by
  rw [latest?, latest?, List.filterMap_append, List.getLast?_append]
  congr 1
  cases told : tell new <;> simp [told]

end Transcript

/-! ### Sessions -/

/-- What a call gives: the result of a wait that ends well, or nothing, or the failure that it
raises. -/
abbrev Reply (Result : Type) := Except Failure (Option Result)

/-- What can happen in a session. -/
inductive SessionEvent (Call World : Type)
  | call (call : Call)
  | work (worker : Nat)
  | outside (world : World)

/-- An engine, and the world that its workers work on. -/
structure Session (Engine World : Type) where
  engine : Engine
  world : World

/-- A kind of engine: what a call gives and what it leaves, unless it has to wait; what a step of a
worker does; which calls set the engine up, and which of them start it; whether it is started; and
what its workers go by. -/
structure EngineKind (Engine World Call Result Settings : Type) where
  perform : Engine → Call → Option (Reply Result × Engine)
  work : Engine → World → Nat → Option (Engine × World)
  prepares : Call → Bool
  starts : Call → Bool
  started : Engine → Bool
  settings : Engine → Settings

namespace EngineKind

variable {Engine World Call Result Settings : Type}

/-- The reply to an event and the session after it; `none` when the event cannot happen. -/
def respond (kind : EngineKind Engine World Call Result Settings)
    (session : Session Engine World) :
    SessionEvent Call World → Option (Reply Result × Session Engine World)
  | .call call =>
    (kind.perform session.engine call).map fun (reply, engine) => (reply, { session with engine })
  | .work worker =>
    (kind.work session.engine session.world worker).map fun (engine, world) =>
      (.ok none, ⟨engine, world⟩)
  | .outside world => some (.ok none, { session with world })

/-- What can be relied on from some moment of a session on. -/
structure Orderly (kind : EngineKind Engine World Call Result Settings)
    (session : Session Engine World) : Prop where
  /-- A refused call leaves everything as it was. -/
  refused : ∀ call error next,
    kind.respond session (.call call) = some (.error (.config error), next) → next = session
  /-- All that follows a refused call goes as if it had not been made. -/
  unmade : ∀ call error next rest,
    kind.respond session (.call call) = some (.error (.config error), next) →
      transcript kind.respond session (.call call :: rest) =
        (transcript kind.respond session rest).map fun (replies, final) =>
          (.error (.config error) :: replies, final)
  /-- After an accepted start the settings stay as they are, and every call that would set the
  engine up or start it once more is refused. -/
  settled : ∀ call answer next, kind.starts call = true →
    kind.respond session (.call call) = some (.ok answer, next) →
      ∀ rest replies later, transcript kind.respond next rest = some (replies, later) →
        kind.settings later.engine = kind.settings next.engine ∧
          ∀ other, kind.prepares other = true → ∃ error,
            kind.respond later (.call other) = some (.error (.config error), later)

/-- The rules that an engine keeps in single calls and in single steps of its workers. -/
structure Lawful (kind : EngineKind Engine World Call Result Settings) : Prop where
  eq_of_error : ∀ engine next call failure,
    kind.perform engine call = some (.error failure, next) → next = engine
  started_of_start : ∀ engine next call answer, kind.starts call = true →
    kind.perform engine call = some (.ok answer, next) → kind.started next = true
  refused_of_started : ∀ engine call, kind.started engine = true → kind.prepares call = true →
    ∃ error, kind.perform engine call = some (.error (.config error), engine)
  settled_of_call : ∀ engine next call reply, kind.started engine = true →
    kind.prepares call = false → kind.perform engine call = some (reply, next) →
      kind.started next = true ∧ kind.settings next = kind.settings engine
  settled_of_work : ∀ engine next world after worker, kind.started engine = true →
    kind.work engine world worker = some (next, after) →
      kind.started next = true ∧ kind.settings next = kind.settings engine

variable {kind : EngineKind Engine World Call Result Settings} {session next : Session Engine World}

theorem perform_of_respond (call : Call) (reply : Reply Result)
    (answered : kind.respond session (.call call) = some (reply, next)) :
    kind.perform session.engine call = some (reply, next.engine) ∧ next.world = session.world := by
  obtain ⟨⟨given, engine⟩, performed, equal⟩ := Option.map_eq_some_iff.mp answered
  cases equal
  exact ⟨performed, rfl⟩

theorem Lawful.eq_of_refused (lawful : kind.Lawful) (call : Call) (failure : Failure)
    (refused : kind.respond session (.call call) = some (.error failure, next)) :
    next = session := by
  obtain ⟨performed, sameWorld⟩ := perform_of_respond call _ refused
  have sameEngine := lawful.eq_of_error _ _ call failure performed
  cases session
  cases next
  cases sameEngine
  cases sameWorld
  rfl

theorem Lawful.respond_of_started (lawful : kind.Lawful) (call : Call)
    (started : kind.started session.engine = true) (prepares : kind.prepares call = true) :
    ∃ error, kind.respond session (.call call) = some (.error (.config error), session) := by
  obtain ⟨error, refused⟩ := lawful.refused_of_started session.engine call started prepares
  exact ⟨error, by rw [respond, refused]; rfl⟩

/-- An engine that is started stays started, and nothing changes what its workers go by. -/
theorem Lawful.settled_of_respond (lawful : kind.Lawful) (event : SessionEvent Call World)
    (reply : Reply Result) (started : kind.started session.engine = true)
    (answered : kind.respond session event = some (reply, next)) :
    kind.started next.engine = true ∧
      kind.settings next.engine = kind.settings session.engine := by
  cases event with
  | outside world =>
    cases answered
    exact ⟨started, rfl⟩
  | work worker =>
    obtain ⟨⟨engine, world⟩, worked, equal⟩ := Option.map_eq_some_iff.mp answered
    cases equal
    exact lawful.settled_of_work _ _ _ _ worker started worked
  | call call =>
    cases prepares : kind.prepares call with
    | true =>
      obtain ⟨error, refused⟩ := lawful.respond_of_started call started prepares
      cases refused.symm.trans answered
      exact ⟨started, rfl⟩
    | false =>
      exact lawful.settled_of_call _ _ call reply started prepares
        (perform_of_respond call reply answered).1

/-- All sessions with a lawful engine are orderly. -/
theorem Lawful.orderly (lawful : kind.Lawful) (session : Session Engine World) :
    kind.Orderly session where
  refused call error next := lawful.eq_of_refused call (.config error)
  unmade call error next rest refused := by
    cases lawful.eq_of_refused call (.config error) refused
    rw [transcript, refused]
    rfl
  settled call answer next starts accepted rest replies later ran := by
    have started := lawful.started_of_start _ _ call answer starts
      (perform_of_respond call _ accepted).1
    obtain ⟨stillStarted, same⟩ := transcript_invariant
      (fun _ later => kind.started later.engine = true ∧
        kind.settings later.engine = kind.settings next.engine)
      (fun _ middle event reply after ⟨held, same⟩ answered =>
        (lawful.settled_of_respond event reply held answered).imp_right (·.trans same))
      [] next later rest replies ⟨started, rfl⟩ ran
    exact ⟨same, fun other prepares => lawful.respond_of_started other stillStarted prepares⟩

/-! ### Engines before their start -/

/-- The calls among the events, with their replies. -/
def callsOf (past : List (SessionEvent Call World × Reply Result)) : List (Call × Reply Result) :=
  past.filterMap fun
    | (.call call, reply) => some (call, reply)
    | (.work _, _) | (.outside _, _) => none

/-- An engine that is not started is what the calls so far have made of a new one. -/
def Prepared (kind : EngineKind Engine World Call Result Settings)
    (prepared : List (Call × Reply Result) → Engine)
    (past : List (SessionEvent Call World × Reply Result)) (session : Session Engine World) :
    Prop :=
  kind.started session.engine = false → session.engine = prepared (callsOf past)

end EngineKind

/-! ### Replies of methods -/

/-- The reply of a method that gives nothing. -/
def Method.reply {Engine Result : Type} :
    Except ConfigError Unit × Engine → Reply Result × Engine
  | (.ok _, engine) => (.ok none, engine)
  | (.error error, engine) => (.error (.config error), engine)

theorem Method.reply_atOnce_eq_ok {Engine Result : Type} (engine next : Engine)
    (changed : Except ConfigError Engine) (answer : Option Result)
    (accepted : Method.reply (Method.atOnce engine changed) = (.ok answer, next)) :
    changed = .ok next := by
  cases changed with
  | ok after => cases accepted; rfl
  | error error => cases accepted

theorem Method.reply_atOnce_eq_error {Engine Result : Type} (engine next : Engine)
    (changed : Except ConfigError Engine) (failure : Failure)
    (refused : Method.reply (Method.atOnce engine changed) =
      ((.error failure, next) : Reply Result × Engine)) :
    next = engine := by
  cases changed with
  | ok after => cases refused
  | error error => cases refused; rfl

end LoadVerifier
