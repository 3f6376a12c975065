/-
This file follows the connections of a store on their way. A connection that was opened is closed,
or registered, or in the hands of somebody who closes the registered ones, or still being prepared,
or it was given up because a statement that prepares it was refused (`Tracked`).

A step of a call passes a connection on from one of these to the next: what is opened is prepared,
what is prepared is registered or given up, what is registered is taken over by who closes it, and
what is taken over is closed.
-/
import LoadVerifier.Proofs.SessionOwners

namespace LoadVerifier

/-! ### Connections on their way -/

namespace CallStage

/-- The connections that a stage still has to close. -/
def closes : CallStage → List Nat
  | .close connections => connections
  | _ => []

/-- The connection that a stage prepares. -/
def preparing? : CallStage → Option Nat
  | .quiet _ connection | .relax _ connection | .register _ connection => some connection
  | _ => none

theorem closes_of_isEnded {stage : CallStage} (ended : stage.isEnded = true) :
    stage.closes = [] := by
  cases stage <;> first | rfl | cases ended

theorem preparing?_of_isEnded {stage : CallStage} (ended : stage.isEnded = true) :
    stage.preparing? = none := by
  cases stage <;> first | rfl | cases ended

end CallStage

namespace SessionLife

section Steps

variable {Server : Type} [Database Server] {sound : Server → Prop} {given : Server → Nat → Prop}
  {table : Table} {synchronousCommit : Bool} {life : SessionLife Server}

/-- A statement that prepares a connection was refused on it. -/
def SettingRefused (ledger : List (Caller × Deed)) (caller : Caller) (connection : Nat) : Prop :=
  ∃ statement failure, (statement = quietStatement ∨ statement = asynchronousStatement) ∧
    (caller, Deed.asks (.execute connection statement []) (.error failure)) ∈ ledger

omit [Database Server] in
theorem SettingRefused.append {ledger more : List (Caller × Deed)} {caller : Caller}
    {connection : Nat} (refused : SettingRefused ledger caller connection) :
    SettingRefused (ledger ++ more) caller connection := by
  obtain ⟨statement, failure, setting, member⟩ := refused
  exact ⟨statement, failure, setting, List.mem_append_left _ member⟩

/-- A connection is closed, or registered, or about to be closed. -/
def Kept (life : SessionLife Server) (connection : Nat) : Prop :=
  Database.isClosed life.store.server connection = true ∨ connection ∈ life.store.opened ∨
    ∃ caller, connection ∈ (life.stages caller).closes

/-- No connection is lost, except where preparing it was refused. -/
structure Tracked (life : SessionLife Server) : Prop where
  opened : ∀ caller connection, Opened life.ledger caller connection →
    life.Kept connection ∨ (life.stages caller).preparing? = some connection ∨
      SettingRefused life.ledger caller connection
  sessions : ∀ caller connection, life.store.session? caller = some connection →
    life.Kept connection

/-- What is kept stays so when a caller moves on, if it passes on what is registered and closes or
passes on what it had to close. -/
theorem Kept.advance {connection : Nat} (kept : life.Kept connection) (caller : Caller)
    (store : SessionStore Server) (deeds : List Deed) (stage : CallStage)
    (closed : ∀ connection, Database.isClosed life.store.server connection = true →
      Database.isClosed store.server connection = true)
    (passed : ∀ connection ∈ life.store.opened, connection ∈ store.opened ∨
      connection ∈ stage.closes)
    (closing : ∀ connection ∈ (life.stages caller).closes, connection ∈ stage.closes ∨
      Database.isClosed store.server connection = true) :
    ({ life with store }.advance caller deeds stage).Kept connection := by
  rcases kept with before | opened | ⟨who, member⟩
  · exact .inl (closed connection before)
  · refine .inr ((passed connection opened).imp_right fun his => ⟨caller, ?_⟩)
    rw [stages_advance_self]
    exact his
  · by_cases same : who = caller
    · subst same
      rcases closing connection member with still | after
      · refine .inr (.inr ⟨who, ?_⟩)
        rw [stages_advance_self]
        exact still
      · exact .inl after
    · refine .inr (.inr ⟨who, ?_⟩)
      rw [stages_advance_of_ne _ same]
      exact member

/-- Nothing is lost when a caller moves on, if it passes on or closes what it has to, prepares what
it opened, and gives up a connection only where preparing it was refused. -/
theorem Tracked.advance (tracked : life.Tracked) (caller : Caller) (store : SessionStore Server)
    (deeds : List Deed) (stage : CallStage)
    (closed : ∀ connection, Database.isClosed life.store.server connection = true →
      Database.isClosed store.server connection = true)
    (passed : ∀ connection ∈ life.store.opened, connection ∈ store.opened ∨
      connection ∈ stage.closes)
    (closing : ∀ connection ∈ (life.stages caller).closes, connection ∈ stage.closes ∨
      Database.isClosed store.server connection = true)
    (fresh : ∀ connection ∈ deeds.filterMap Deed.opens?, stage.preparing? = some connection)
    (prepares : ∀ connection, (life.stages caller).preparing? = some connection →
      stage.preparing? = some connection ∨ connection ∈ store.opened ∨
        SettingRefused (life.ledger ++ deeds.map fun deed => (caller, deed)) caller connection)
    (sessions : ∀ who connection, store.session? who = some connection →
      life.store.session? who = some connection ∨ connection ∈ store.opened) :
    ({ life with store }.advance caller deeds stage).Tracked where
  opened who connection opened := by
    rcases (opened_append_iff deeds caller who connection).mp opened with old | ⟨rfl, new⟩
    · rcases tracked.opened who connection old with kept | preparing | refused
      · exact .inl (kept.advance caller store deeds stage closed passed closing)
      · by_cases same : who = caller
        · subst same
          rw [stages_advance_self]
          rcases prepares connection preparing with still | registered | refused
          · exact .inr (.inl still)
          · exact .inl (.inr (.inl registered))
          · exact .inr (.inr refused)
        · rw [stages_advance_of_ne _ same]
          exact .inr (.inl preparing)
      · exact .inr (.inr refused.append)
    · rw [stages_advance_self]
      exact .inr (.inl (fresh connection new))
  sessions who connection has := by
    rcases sessions who connection has with old | new
    · exact (tracked.sessions who connection old).advance caller store deeds stage closed passed
        closing
    · exact .inr (.inl new)

/-- A caller that neither prepares nor closes a connection loses none. -/
theorem Tracked.served (tracked : life.Tracked) {caller : Caller} {now : CallStage}
    (here : life.stages caller = now) (serves : now.closes = [] ∧ now.preparing? = none)
    (server : Server)
    (closed : ∀ connection, Database.isClosed life.store.server connection = true →
      Database.isClosed server connection = true)
    (deeds : List Deed) (stage : CallStage)
    (fresh : ∀ connection ∈ deeds.filterMap Deed.opens?, stage.preparing? = some connection) :
    ((life.onServer server).advance caller deeds stage).Tracked := by
  refine tracked.advance caller { life.store with server } deeds stage closed
    (fun _ member => .inl member) ?_ fresh ?_ (fun _ _ has => .inl has)
  · rw [here, serves.1]
    exact List.forall_mem_nil _
  · rw [here, serves.2]
    intro _ preparing
    cases preparing

theorem Tracked.ask (laws : ConnectionLaws sound given) (tracked : life.Tracked)
    (owned : Owned sound given table synchronousCommit life) (caller : Caller) (demand : Demand)
    (next : Except DatabaseFailure DatabaseReply → CallStage)
    (owner : ∃ owner, Opened life.ledger owner demand.connection)
    (closing : ∀ connection ∈ (life.stages caller).closes,
      connection ∈ (next (demand.ask life.store.server).1).closes ∨
        Database.isClosed (demand.ask life.store.server).2 connection = true)
    (prepares : ∀ connection answer, (life.stages caller).preparing? = some connection →
      (next answer).preparing? = some connection ∨
        SettingRefused (life.ledger ++ [(caller, .asks demand answer)]) caller connection) :
    (life.ask caller demand next).Tracked := by
  obtain ⟨owner, opened⟩ := owner
  have later := laws.ask life.store.server demand owned.sound
    (owned.given owner demand.connection opened)
  rw [SessionLife.ask]
  cases asked : demand.ask life.store.server with
  | mk answer server =>
    rw [asked] at later closing
    exact tracked.advance caller { life.store with server } [.asks demand answer] (next answer)
      later.closed (fun _ member => .inl member) closing (List.forall_mem_nil _)
      (fun connection preparing => (prepares connection answer preparing).imp_right .inr)
      (fun _ _ has => .inl has)

/-- A caller that neither prepares nor closes a connection loses none. -/
theorem Tracked.ask_served (laws : ConnectionLaws sound given) (tracked : life.Tracked)
    (owned : Owned sound given table synchronousCommit life) {caller : Caller} {now : CallStage}
    (here : life.stages caller = now) (serves : now.closes = [] ∧ now.preparing? = none)
    (demand : Demand) (next : Except DatabaseFailure DatabaseReply → CallStage)
    (holds : Holds life.ledger caller demand.connection) :
    (life.ask caller demand next).Tracked := by
  refine tracked.ask laws owned caller demand next ⟨caller, holds.opened⟩ ?_ ?_
  · rw [here, serves.1]
    exact List.forall_mem_nil _
  · rw [here, serves.2]
    intro _ _ preparing
    cases preparing

/-- A refused setting gives its connection up; a granted one goes on with it. -/
theorem Tracked.ask_setting (laws : ConnectionLaws sound given) (tracked : life.Tracked)
    (owned : Owned sound given table synchronousCommit life) {caller : Caller} {now : CallStage}
    {connection : Nat} (here : life.stages caller = now)
    (prepares : now.closes = [] ∧ now.preparing? = some connection) (statement : Statement)
    (setting : statement = quietStatement ∨ statement = asynchronousStatement)
    (next : Except DatabaseFailure DatabaseReply → CallStage)
    (goesOn : ∀ reply, (next (.ok reply)).preparing? = some connection)
    (holds : Holds life.ledger caller connection) :
    (life.ask caller (.execute connection statement []) next).Tracked := by
  refine tracked.ask laws owned caller _ next ⟨caller, holds.opened⟩ ?_ ?_
  · rw [here, prepares.1]
    exact List.forall_mem_nil _
  · rw [here, prepares.2]
    rintro other answer same
    cases same
    cases answer with
    | ok reply => exact .inl (goesOn reply)
    | error failure =>
      exact .inr ⟨statement, failure, setting,
        List.mem_append_right _ (List.mem_singleton_self _)⟩

/-- No step of a call loses a connection. -/
theorem Tracked.act (laws : ClosingLaws sound given) (tracked : life.Tracked)
    (owned : Owned sound given table synchronousCommit life) (caller : Caller) (now : CallStage)
    (here : life.stages caller = now) : (life.act caller now).Tracked := by
  have asking := laws.toConnectionLaws
  have fits := owned.fits caller
  rw [here] at fits
  cases now with
  | lookUp call =>
    exact tracked.served here ⟨rfl, rfl⟩ life.store.server (fun _ before => before) _ _
      (List.forall_mem_nil _)
  | connect call =>
    have later := laws.connect life.store.server life.store.dsn true owned.sound
    rw [SessionLife.act]
    cases connects : Database.connect life.store.server life.store.dsn true with
    | mk answer server =>
      rw [connects] at later
      cases answer with
      | error failure =>
        exact tracked.served here ⟨rfl, rfl⟩ server later.closed _ _ (List.forall_mem_nil _)
      | ok connection =>
        exact tracked.served here ⟨rfl, rfl⟩ server later.closed _ (.quiet call connection)
          (List.forall_mem_singleton.mpr rfl)
  | quiet call connection =>
    rw [SessionLife.act]
    refine tracked.ask_setting asking owned here ⟨rfl, rfl⟩ quietStatement (.inl rfl) _
      (fun reply => ?_) fits
    cases life.store.synchronousCommit <;> rfl
  | relax call connection =>
    rw [SessionLife.act]
    exact tracked.ask_setting asking owned here ⟨rfl, rfl⟩ asynchronousStatement (.inr rfl) _
      (fun reply => rfl) fits.1
  | register call connection =>
    refine tracked.advance caller (life.store.register caller connection) [] _
      (fun _ before => before) (fun other member => .inl (List.mem_append_left _ member)) ?_
      (List.forall_mem_nil _) ?_ fun who other has => ?_
    · rw [here]
      exact List.forall_mem_nil _
    · rw [here]
      rintro other same
      cases same
      exact .inr (.inl (List.mem_append_right _ (List.mem_singleton_self _)))
    · rw [SessionStore.session?_register] at has
      split at has
      · cases has
        exact .inr (List.mem_append_right _ (List.mem_singleton_self _))
      · exact .inl has
  | begin rows connection =>
    rw [SessionLife.act]
    exact tracked.ask_served asking owned here ⟨rfl, rfl⟩ (.begin connection) _ fits.1
  | store rows connection =>
    rw [SessionLife.act]
    exact tracked.ask_served asking owned here ⟨rfl, rfl⟩ (.executeMany connection _ rows) _ fits.1
  | commit connection =>
    rw [SessionLife.act]
    exact tracked.ask_served asking owned here ⟨rfl, rfl⟩ (.commit connection) _ fits.1
  | rollback connection failure =>
    rw [SessionLife.act]
    exact tracked.ask_served asking owned here ⟨rfl, rfl⟩ (.rollback connection) _ fits.1
  | select key connection =>
    rw [SessionLife.act]
    exact tracked.ask_served asking owned here ⟨rfl, rfl⟩ (.execute connection _ [key]) _ fits.1
  | release =>
    refine tracked.advance caller { life.store with opened := [] } [] (.close life.store.opened)
      (fun _ before => before) (fun _ member => .inr member) ?_ (List.forall_mem_nil _) ?_
      (fun _ _ has => .inl has)
    · rw [here]
      exact List.forall_mem_nil _
    · rw [here]
      intro _ preparing
      cases preparing
  | close connections =>
    cases connections with
    | nil =>
      exact tracked.served here ⟨rfl, rfl⟩ life.store.server (fun _ before => before) [] _
        (List.forall_mem_nil _)
    | cons connection rest =>
      obtain ⟨owner, opened⟩ := fits connection List.mem_cons_self
      obtain ⟨after, closes, isClosed⟩ := laws.close life.store.server connection owned.sound
        (owned.given owner connection opened)
      have asked : (Demand.close connection).ask life.store.server = (.ok .done, after) := by
        rw [Demand.ask, closes]
        rfl
      rw [SessionLife.act]
      -- the first one is closed by now, and the others are still to be closed
      refine tracked.ask asking owned caller (.close connection) _ ⟨owner, opened⟩ ?_ ?_
      · rw [here, asked]
        intro other member
        rcases List.mem_cons.mp member with rfl | rest
        · exact .inr isClosed
        · exact .inl rest
      · rw [here]
        intro _ _ preparing
        cases preparing
  | ended result =>
    exact tracked.served here ⟨rfl, rfl⟩ life.store.server (fun _ before => before) [] _
      (List.forall_mem_nil _)

theorem Tracked.begun (tracked : life.Tracked) {caller : Caller}
    (idle : (life.stages caller).isEnded = true) (stage : CallStage) :
    (life.advance caller [] stage).Tracked :=
  tracked.served rfl ⟨CallStage.closes_of_isEnded idle, CallStage.preparing?_of_isEnded idle⟩
    life.store.server (fun _ before => before) [] stage (List.forall_mem_nil _)

theorem Tracked.outside (tracked : life.Tracked) (server : Server)
    (closed : ∀ connection, Database.isClosed life.store.server connection = true →
      Database.isClosed server connection = true) : (life.onServer server).Tracked where
  opened caller connection opened :=
    (tracked.opened caller connection opened).imp_left fun kept =>
      kept.imp_left (closed connection)
  sessions caller connection has :=
    (tracked.sessions caller connection has).imp_left (closed connection)

theorem Tracked.step (laws : ClosingLaws sound given) (tracked : life.Tracked)
    (owned : Owned sound given table synchronousCommit life) (event : Event Server)
    (next : SessionLife Server) (allowed : event.Allowed sound given)
    (stepped : life.step event = some next) : next.Tracked := by
  rcases step_cases stepped with ⟨caller, stage, -, idle, rfl⟩ | ⟨caller, rfl, -, rfl⟩ |
    ⟨change, rfl, rfl⟩
  · exact tracked.begun idle stage
  · exact tracked.act laws owned caller _ rfl
  · exact tracked.outside _ (allowed life.store.server owned.sound).closed

/-- No course from a store that nobody has called yet loses a connection. -/
theorem tracked_of_replay (laws : ClosingLaws sound given) {store : SessionStore Server}
    (isSound : sound store.server) (sessions : store.sessions = []) (opened : store.opened = [])
    (schedule : List (Event Server)) (allowed : ∀ event ∈ schedule, event.Allowed sound given)
    (ran : replay SessionLife.step { store } schedule = some life) :
    Owned sound given store.table store.synchronousCommit life ∧ life.Tracked := by
  refine replay_invariant_of_allowed (Event.Allowed sound given)
    (fun life => Owned sound given store.table store.synchronousCommit life ∧ life.Tracked)
    (fun _ event next isAllowed before stepped =>
      ⟨before.1.step laws.toConnectionLaws event next isAllowed stepped,
        before.2.step laws before.1 event next isAllowed stepped⟩)
    _ _ schedule allowed ⟨owned_new store isSound sessions opened, ?_⟩ ran
  refine ⟨fun _ _ before => absurd before List.not_mem_nil, fun caller connection has => ?_⟩
  have none : store.session? caller = none := by rw [SessionStore.session?, sessions]; rfl
  cases none.symm.trans has

end Steps

end SessionLife

end LoadVerifier
