/-
This file says when a caller gets itself a new connection. What a caller has opened and prepared it
remembers, and it goes on with it until it finds it closed. So whenever it asks for a new
connection, it has found closed every one that it opened and prepared before.

That is said of the ledger alone, and not of the sessions that the store remembers: a store that
forgot them would open a new connection for every call, and its ledger would show that.
-/
import LoadVerifier.Proofs.SessionOwners

namespace LoadVerifier

/-- Whether a deed brings a connection nearer to use: it opens one, or a statement that prepares it
is carried out. -/
def Deed.readies : Deed → Bool
  | .connects (.ok _) => true
  | .asks demand (.ok _) => demand.isSetting
  | _ => false

/-- Whether a call is about to get its caller a new connection. -/
def CallStage.renews : CallStage → Bool
  | .connect _ | .quiet _ _ | .relax _ _ | .register _ _ => true
  | _ => false

theorem RowCall.renews_serve (call : RowCall) (connection : Nat) :
    (call.serve connection).renews = false := by
  cases call <;> rfl

namespace SessionLife

/-! ### What a caller has found closed -/

/-- A caller looked at a connection and found it closed. -/
def SeenClosed (ledger : List (Caller × Deed)) (caller : Caller) (connection : Nat) : Prop :=
  (caller, Deed.looks (some (connection, true))) ∈ ledger

/-- A caller has found closed every connection that it opened and prepared. -/
def Forsaken (synchronousCommit : Bool) (ledger : List (Caller × Deed)) (caller : Caller) : Prop :=
  ∀ connection, Opened ledger caller connection →
    Prepared ledger caller connection synchronousCommit → SeenClosed ledger caller connection

section Growth

variable {ledger more : List (Caller × Deed)} {caller : Caller} {connection : Nat}

theorem SeenClosed.append (seen : SeenClosed ledger caller connection) :
    SeenClosed (ledger ++ more) caller connection :=
  List.mem_append_left _ seen

/-- Nothing among the deeds brings a connection of the caller nearer to use. -/
def Unready (caller : Caller) (more : List (Caller × Deed)) : Prop :=
  ∀ entry ∈ more, entry.1 = caller → entry.2.readies = false

theorem Opened.of_append (unready : Unready caller more)
    (opened : Opened (ledger ++ more) caller connection) : Opened ledger caller connection := by
  refine (List.mem_append.mp opened).resolve_right fun new => ?_
  cases unready _ new rfl

theorem Ran.of_append {statement : Statement} (unready : Unready caller more)
    (ran : Ran (ledger ++ more) caller connection statement) :
    Ran ledger caller connection statement := by
  obtain ⟨reply, member⟩ := ran
  refine ⟨reply, (List.mem_append.mp member).resolve_right fun new => ?_⟩
  cases unready _ new rfl

theorem Prepared.of_append {synchronousCommit : Bool} (unready : Unready caller more)
    (prepared : Prepared (ledger ++ more) caller connection synchronousCommit) :
    Prepared ledger caller connection synchronousCommit :=
  ⟨prepared.quiet.of_append unready,
    fun asynchronous => (prepared.relaxed asynchronous).of_append unready⟩

/-- A statement that was carried out was carried out before, or is the one asked for last. -/
theorem Ran.of_concat {demand : Demand} {answer : Except DatabaseFailure DatabaseReply}
    {statement : Statement}
    (ran : Ran (ledger ++ [(caller, .asks demand answer)]) caller connection statement) :
    Ran ledger caller connection statement ∨ demand = .execute connection statement [] := by
  obtain ⟨reply, member⟩ := ran
  refine (List.mem_append.mp member).imp (fun old => ⟨reply, old⟩) fun new => ?_
  cases List.mem_singleton.mp new
  rfl

/-- A connection that was prepared was prepared before, or the last setting was made on it. -/
theorem Prepared.of_concat {synchronousCommit : Bool} {other : Nat} {statement : Statement}
    {answer : Except DatabaseFailure DatabaseReply} (different : connection ≠ other)
    (prepared : Prepared (ledger ++ [(caller, .asks (.execute other statement []) answer)]) caller
      connection synchronousCommit) :
    Prepared ledger caller connection synchronousCommit := by
  have before : ∀ {former : Statement},
      Ran (ledger ++ [(caller, .asks (.execute other statement []) answer)]) caller connection
        former → Ran ledger caller connection former := fun ran =>
    ran.of_concat.resolve_right fun same => different (Demand.execute.inj same).1.symm
  exact ⟨before prepared.quiet, fun asynchronous => before (prepared.relaxed asynchronous)⟩

end Growth

/-! ### What a caller remembers -/

/-- What holds of a caller with this session at this stage of a call. What it has opened and
prepared is its session, or about to be, or was found closed. If it is getting a new connection, its
session was found closed, and on the new one only the settings were made that the stage says. -/
structure Remembers (synchronousCommit : Bool) (session : Option Nat)
    (ledger : List (Caller × Deed)) (caller : Caller) (stage : CallStage) : Prop where
  prepared : ∀ connection, Opened ledger caller connection →
    Prepared ledger caller connection synchronousCommit →
      session = some connection ∨ SeenClosed ledger caller connection ∨
        ∃ call, stage = .register call connection
  renews : stage.renews = true → ∀ connection, session = some connection →
    SeenClosed ledger caller connection
  fresh : ∀ call connection, stage = .quiet call connection →
    ∀ statement, ¬Ran ledger caller connection statement
  unrelaxed : ∀ call connection, stage = .relax call connection →
    ¬Ran ledger caller connection asynchronousStatement

section Remembering

variable {synchronousCommit : Bool} {session : Option Nat} {ledger more : List (Caller × Deed)}
  {caller : Caller} {before stage : CallStage}

theorem Remembers.append (unready : Unready caller more)
    (remembers : Remembers synchronousCommit session ledger caller stage) :
    Remembers synchronousCommit session (ledger ++ more) caller stage where
  prepared connection opened prepared :=
    (remembers.prepared connection (opened.of_append unready)
      (prepared.of_append unready)).imp_right (Or.imp_left SeenClosed.append)
  renews isRenewing connection has := (remembers.renews isRenewing connection has).append
  fresh call connection here statement ran :=
    remembers.fresh call connection here statement (ran.of_append unready)
  unrelaxed call connection here ran :=
    remembers.unrelaxed call connection here (ran.of_append unready)

/-- A caller that has registered what it prepared, and gets no new connection, has nothing else to
remember. -/
theorem Remembers.calm (remembers : Remembers synchronousCommit session ledger caller before)
    (registered : ∀ call connection, before ≠ .register call connection)
    (calm : stage.renews = false) :
    Remembers synchronousCommit session ledger caller stage where
  prepared connection opened prepared := by
    refine (remembers.prepared connection opened prepared).imp_right (Or.imp_right ?_)
    exact fun ⟨call, here⟩ => absurd here (registered call connection)
  renews isRenewing := Bool.noConfusion (calm.symm.trans isRenewing)
  fresh _ _ here := by
    rw [here] at calm
    cases calm
  unrelaxed _ _ here := by
    rw [here] at calm
    cases calm

/-- A caller that is about to ask for a new connection has found all others closed. -/
theorem Remembers.forsaken {call : RowCall}
    (remembers : Remembers synchronousCommit session ledger caller (.connect call)) :
    Forsaken synchronousCommit ledger caller := by
  intro connection opened prepared
  rcases remembers.prepared connection opened prepared with has | seen | ⟨_, here⟩
  · exact remembers.renews rfl connection has
  · exact seen
  · cases here

/-- A setting was made on the new connection of a caller, which goes on to the next one or to
registering it. -/
theorem Remembers.prepare {connection : Nat} {statement : Statement}
    {answer : Except DatabaseFailure DatabaseReply}
    (remembers : Remembers synchronousCommit session ledger caller before)
    (renewed : before.renews = true)
    (registered : ∀ call other, before ≠ .register call other)
    (own : Prepared (ledger ++ [(caller, .asks (.execute connection statement []) answer)]) caller
      connection synchronousCommit → ∃ call, stage = .register call connection)
    (settled : ∀ call other, stage ≠ .quiet call other)
    (unrelaxed : ∀ call other, stage = .relax call other →
      ¬Ran (ledger ++ [(caller, .asks (.execute connection statement []) answer)]) caller other
        asynchronousStatement) :
    Remembers synchronousCommit session
      (ledger ++ [(caller, .asks (.execute connection statement []) answer)]) caller stage where
  prepared other opened prepared := by
    by_cases same : other = connection
    · subst same
      exact .inr (.inr (own prepared))
    · have old : Opened ledger caller other :=
        (List.mem_append.mp opened).resolve_right fun new => by cases List.mem_singleton.mp new
      rcases remembers.prepared other old (prepared.of_concat same) with has | seen | ⟨call, here⟩
      · exact .inl has
      · exact .inr (.inl seen.append)
      · exact absurd here (registered call other)
  renews _ other has := (remembers.renews renewed other has).append
  fresh call other here := absurd here (settled call other)
  unrelaxed := unrelaxed

end Remembering

/-! ### What every step keeps -/

/-- What a deed shows of getting new connections, given the deeds before it: whoever asks for one
has found closed all that it opened and prepared. -/
def Renews (synchronousCommit : Bool) (past : List (Caller × Deed)) : Caller × Deed → Prop
  | (caller, .connects _) => Forsaken synchronousCommit past caller
  | (_, .looks _) | (_, .asks _ _) => True

/-- Every caller remembers what it has opened and prepared, and gets new connections accordingly. -/
structure Renewing {Server : Type} (synchronousCommit : Bool) (life : SessionLife Server) :
    Prop where
  remembers : ∀ caller, Remembers synchronousCommit (life.store.session? caller) life.ledger caller
    (life.stages caller)
  orderly : Orderly (Renews synchronousCommit) life.ledger

section Steps

variable {Server : Type} {synchronousCommit : Bool} {life : SessionLife Server}

/-- A caller moves on, and the others remember what they did. -/
theorem Renewing.advance (renewing : Renewing synchronousCommit life) (caller : Caller)
    (store : SessionStore Server) (deeds : List Deed) (stage : CallStage)
    (others : ∀ who ≠ caller, store.session? who = life.store.session? who)
    (own : Remembers synchronousCommit (store.session? caller)
      (life.ledger ++ deeds.map fun deed => (caller, deed)) caller stage)
    (orderly : Orderly (Renews synchronousCommit)
      (life.ledger ++ deeds.map fun deed => (caller, deed))) :
    Renewing synchronousCommit ({ life with store }.advance caller deeds stage) where
  remembers who := by
    by_cases same : who = caller
    · subst same
      rw [stages_advance_self]
      exact own
    · have unready : Unready who (deeds.map fun deed => (caller, deed)) := by
        rintro entry member rfl
        obtain ⟨deed, -, rfl⟩ := List.mem_map.mp member
        exact absurd rfl same
      rw [stages_advance_of_ne _ same]
      show Remembers _ (store.session? who) _ _ _
      rw [others who same]
      exact (renewing.remembers who).append unready
  orderly := orderly

/-- A caller that gets no new connection moves on without a deed. -/
theorem Renewing.moveOn (renewing : Renewing synchronousCommit life) (caller : Caller)
    (store : SessionStore Server) (stage : CallStage)
    (sessions : store.session? = life.store.session?)
    (registered : ∀ call connection, life.stages caller ≠ .register call connection)
    (calm : stage.renews = false) :
    Renewing synchronousCommit ({ life with store }.advance caller [] stage) := by
  refine renewing.advance caller store [] stage (fun who _ => congrFun sessions who) ?_ ?_
  · rw [List.map_nil, List.append_nil, sessions]
    exact (renewing.remembers caller).calm registered calm
  · rw [List.map_nil, List.append_nil]
    exact renewing.orderly

variable [Database Server]

/-- A caller asks for something, and what it does then fits the answer. -/
theorem Renewing.ask (renewing : Renewing synchronousCommit life) (caller : Caller)
    (demand : Demand) (next : Except DatabaseFailure DatabaseReply → CallStage)
    (own : ∀ answer, Remembers synchronousCommit (life.store.session? caller)
      (life.ledger ++ [(caller, .asks demand answer)]) caller (next answer)) :
    Renewing synchronousCommit (life.ask caller demand next) := by
  rw [SessionLife.ask]
  cases asked : demand.ask life.store.server with
  | mk answer server =>
    exact renewing.advance caller { life.store with server } [.asks demand answer] (next answer)
      (fun _ _ => rfl) (own answer) (renewing.orderly.concat _ trivial)

/-- A caller asks for something that prepares no connection, and gets no new one. -/
theorem Renewing.ask_calm (renewing : Renewing synchronousCommit life) (caller : Caller)
    (demand : Demand) (next : Except DatabaseFailure DatabaseReply → CallStage)
    (registered : ∀ call connection, life.stages caller ≠ .register call connection)
    (serves : demand.isSetting = false) (calm : ∀ answer, (next answer).renews = false) :
    Renewing synchronousCommit (life.ask caller demand next) := by
  refine renewing.ask caller demand next fun answer => ?_
  have unready : Unready caller [(caller, .asks demand answer)] := by
    refine List.forall_mem_singleton.mpr fun _ => ?_
    cases answer with
    | error failure => rfl
    | ok reply => exact serves
  exact ((renewing.remembers caller).calm registered (calm answer)).append unready

/-- A setting that is refused ends the call, and one that is granted leads on. -/
theorem Renewing.prepare (renewing : Renewing synchronousCommit life) (caller : Caller)
    (connection : Nat) (statement : Statement)
    (next : Except DatabaseFailure DatabaseReply → CallStage)
    (registered : ∀ call other, life.stages caller ≠ .register call other)
    (refused : ∀ failure, (next (.error failure)).renews = false)
    (granted : ∀ reply, Remembers synchronousCommit (life.store.session? caller)
      (life.ledger ++ [(caller, .asks (.execute connection statement []) (.ok reply))]) caller
        (next (.ok reply))) :
    Renewing synchronousCommit (life.ask caller (.execute connection statement []) next) := by
  refine renewing.ask caller _ next fun answer => ?_
  cases answer with
  | error failure =>
    have unready : Unready caller
        [(caller, .asks (.execute connection statement []) (.error failure))] :=
      List.forall_mem_singleton.mpr fun _ => rfl
    exact ((renewing.remembers caller).calm registered (refused failure)).append unready
  | ok reply => exact granted reply

/-- A caller that looks goes on with an open session, or has found it closed. -/
theorem Renewing.lookUp (renewing : Renewing synchronousCommit life) (caller : Caller)
    (call : RowCall) (here : life.stages caller = .lookUp call) :
    Renewing synchronousCommit (life.act caller (.lookUp call)) := by
  have registered : ∀ call connection, life.stages caller ≠ .register call connection := by
    rw [here]
    exact fun _ _ => CallStage.noConfusion
  have unready : Unready caller [(caller, .looks (life.look caller))] :=
    List.forall_mem_singleton.mpr fun _ => rfl
  refine renewing.advance caller life.store _ _ (fun _ _ => rfl) ?_
    (renewing.orderly.concat _ trivial)
  have remembers := renewing.remembers caller
  cases live : life.store.liveSession? caller with
  | some connection =>
    exact (remembers.calm registered (call.renews_serve connection)).append unready
  | none =>
    have calm : Remembers synchronousCommit (life.store.session? caller) life.ledger caller
        (.lookUp call) := remembers.calm registered rfl
    have known := calm.append unready
    refine ⟨fun connection opened prepared => ?_, fun _ connection has => ?_,
      fun _ _ => CallStage.noConfusion, fun _ _ => CallStage.noConfusion⟩
    · refine (known.prepared connection opened prepared).imp_right (Or.imp_right ?_)
      exact fun ⟨_, there⟩ => CallStage.noConfusion there
    · rw [SessionStore.liveSession?, Option.filter_eq_none_iff] at live
      have isClosed := live connection has
      rw [Bool.not_not_eq] at isClosed
      refine List.mem_append_right _ (List.mem_singleton.mpr ?_)
      rw [look, has, Option.map_some, isClosed]

variable {sound : Server → Prop} {given : Server → Nat → Prop} {table : Table}

omit [Database Server] in
/-- Whoever uses a connection has opened it. -/
theorem Owned.opened_of_use (owned : Owned sound given table synchronousCommit life)
    {caller : Caller} {demand : Demand} {answer : Except DatabaseFailure DatabaseReply}
    (member : (caller, Deed.asks demand answer) ∈ life.ledger) (isUse : demand.isUse = true) :
    Opened life.ledger caller demand.connection := by
  obtain ⟨past, rest, equal⟩ := List.append_of_mem member
  have holds := (owned.orderly past _ rest equal).1 isUse
  exact equal ▸ holds.opened.append

omit [Database Server] in
theorem Owned.opened_of_ran (owned : Owned sound given table synchronousCommit life)
    {caller : Caller} {connection : Nat} {statement : Statement}
    (ran : Ran life.ledger caller connection statement) :
    Opened life.ledger caller connection :=
  ran.elim fun _ member => owned.opened_of_use member rfl

/-- A caller that asks for a new connection has found closed what it had, and nothing was carried
out on the new one yet. -/
theorem Renewing.connect (laws : ConnectionLaws sound given)
    (owned : Owned sound given table synchronousCommit life)
    (renewing : Renewing synchronousCommit life) (caller : Caller) (call : RowCall)
    (here : life.stages caller = .connect call) :
    Renewing synchronousCommit (life.act caller (.connect call)) := by
  have remembers := renewing.remembers caller
  rw [here] at remembers
  have registered : ∀ call connection, life.stages caller ≠ .register call connection := by
    rw [here]
    exact fun _ _ => CallStage.noConfusion
  have forsaken := remembers.forsaken
  rw [act]
  cases connects : Database.connect life.store.server life.store.dsn true with
  | mk answer server =>
    cases answer with
    | error failure =>
      have unready : Unready caller [(caller, .connects (.error failure))] :=
        List.forall_mem_singleton.mpr fun _ => rfl
      exact renewing.advance caller { life.store with server } _ _ (fun _ _ => rfl)
        (((renewing.remembers caller).calm registered rfl).append unready)
        (renewing.orderly.concat _ forsaken)
    | ok connection =>
      obtain ⟨unknown, -, -⟩ := laws.fresh _ _ _ _ _ owned.sound connects
      have unused : ∀ statement, ¬Ran life.ledger caller connection statement := fun _ ran =>
        unknown (owned.given caller connection (owned.opened_of_ran ran))
      -- Neither opening a connection nor looking at it carries out a statement.
      have before : ∀ {other statement}, Ran (life.ledger ++
          [.connects (.ok connection), .looks (some (connection, Database.isClosed server
            connection))].map fun deed => (caller, deed)) caller other statement →
            Ran life.ledger caller other statement := by
        rintro other statement ⟨reply, member⟩
        refine ⟨reply, (List.mem_append.mp member).resolve_right fun new => ?_⟩
        rcases List.mem_cons.mp new with same | last
        · cases same
        · cases List.mem_singleton.mp last
      refine renewing.advance caller { life.store with server } _ _ (fun _ _ => rfl)
        ⟨?_, ?_, ?_, ?_⟩ ?_
      · intro other opened prepared
        have former : Prepared life.ledger caller other synchronousCommit :=
          ⟨before prepared.quiet, fun asynchronous => before (prepared.relaxed asynchronous)⟩
        exact .inr (.inl (forsaken other (owned.opened_of_ran former.quiet) former).append)
      · exact fun _ other has => (remembers.renews rfl other has).append
      · rintro _ _ ⟨⟩ statement ran
        exact unused statement (before ran)
      · exact fun _ _ => CallStage.noConfusion
      · rw [List.map_cons, List.append_cons]
        exact (renewing.orderly.concat (caller, .connects (.ok connection)) forsaken).concat _
          trivial

/-- A call keeps in mind what its caller has prepared, with each of its steps. -/
theorem Renewing.act (laws : ConnectionLaws sound given)
    (owned : Owned sound given table synchronousCommit life)
    (renewing : Renewing synchronousCommit life) (caller : Caller) (now : CallStage)
    (here : life.stages caller = now) : Renewing synchronousCommit (life.act caller now) := by
  have remembers := renewing.remembers caller
  rw [here] at remembers
  have registered : (∀ call connection, now ≠ .register call connection) →
      ∀ call connection, life.stages caller ≠ .register call connection := by
    rw [here]
    exact id
  cases now with
  | lookUp call => exact renewing.lookUp caller call here
  | connect call => exact renewing.connect laws owned caller call here
  | quiet call connection =>
    have unset := remembers.fresh call connection rfl
    rw [SessionLife.act, owned.sameCommits]
    refine renewing.prepare caller connection quietStatement _
      (registered fun _ _ => CallStage.noConfusion) (fun _ => rfl) fun reply => ?_
    -- Only the first statement was carried out so far.
    have unrelaxed : ¬Ran (life.ledger ++
        [(caller, .asks (.execute connection quietStatement []) (.ok reply))]) caller connection
          asynchronousStatement := fun ran =>
      ran.of_concat.elim (unset _) fun same =>
        quietStatement_ne_asynchronousStatement (Demand.execute.inj same).2.1
    cases synchronousCommit with
    | true =>
      exact remembers.prepare rfl (fun _ _ => CallStage.noConfusion) (fun _ => ⟨call, rfl⟩)
        (fun _ _ => CallStage.noConfusion) fun _ _ => CallStage.noConfusion
    | false =>
      refine remembers.prepare rfl (fun _ _ => CallStage.noConfusion)
        (fun prepared => absurd (prepared.relaxed rfl) unrelaxed)
        (fun _ _ => CallStage.noConfusion) ?_
      rintro _ _ ⟨⟩
      exact unrelaxed
  | relax call connection =>
    rw [SessionLife.act]
    exact renewing.prepare caller connection asynchronousStatement _
      (registered fun _ _ => CallStage.noConfusion) (fun _ => rfl) fun reply =>
        remembers.prepare rfl (fun _ _ => CallStage.noConfusion) (fun _ => ⟨call, rfl⟩)
          (fun _ _ => CallStage.noConfusion) fun _ _ => CallStage.noConfusion
  | register call connection =>
    refine renewing.advance caller (life.store.register caller connection) [] _
      (fun who other => ?_) ?_ ?_
    · rw [SessionStore.session?_register, if_neg other]
    · rw [SessionStore.session?_register, if_pos rfl, List.map_nil, List.append_nil]
      refine ⟨fun other opened prepared => ?_, fun isRenewing => ?_, fun _ _ serves => ?_,
        fun _ _ serves => ?_⟩
      · rcases remembers.prepared other opened prepared with has | seen | ⟨_, same⟩
        · exact .inr (.inl (remembers.renews rfl other has))
        · exact .inr (.inl seen)
        · cases same
          exact .inl rfl
      · rw [call.renews_serve] at isRenewing
        cases isRenewing
      · cases call <;> cases serves
      · cases call <;> cases serves
    · rw [List.map_nil, List.append_nil]
      exact renewing.orderly
  | begin rows connection =>
    rw [SessionLife.act]
    exact renewing.ask_calm caller _ _ (registered fun _ _ => CallStage.noConfusion) rfl
      fun answer => by cases answer <;> rfl
  | store rows connection =>
    rw [SessionLife.act]
    exact renewing.ask_calm caller _ _ (registered fun _ _ => CallStage.noConfusion) rfl
      fun answer => by cases answer <;> rfl
  | commit connection =>
    rw [SessionLife.act]
    exact renewing.ask_calm caller _ _ (registered fun _ _ => CallStage.noConfusion) rfl
      fun _ => rfl
  | rollback connection failure =>
    rw [SessionLife.act]
    exact renewing.ask_calm caller _ _ (registered fun _ _ => CallStage.noConfusion) rfl
      fun answer => by cases answer <;> rfl
  | select key connection =>
    rw [SessionLife.act]
    exact renewing.ask_calm caller _ _ (registered fun _ _ => CallStage.noConfusion) rfl
      fun _ => rfl
  | release =>
    exact renewing.moveOn caller { life.store with opened := [] } _ rfl
      (registered fun _ _ => CallStage.noConfusion) rfl
  | close connections =>
    cases connections with
    | nil =>
      exact renewing.moveOn caller life.store _ rfl (registered fun _ _ => CallStage.noConfusion)
        rfl
    | cons connection rest =>
      rw [SessionLife.act]
      exact renewing.ask_calm caller _ _ (registered fun _ _ => CallStage.noConfusion) rfl
        fun answer => by cases answer <;> rfl
  | ended result =>
    exact renewing.moveOn caller life.store _ rfl (registered fun _ _ => CallStage.noConfusion) rfl

theorem Renewing.step (laws : ConnectionLaws sound given)
    (owned : Owned sound given table synchronousCommit life)
    (renewing : Renewing synchronousCommit life) (event : Event Server)
    (next : SessionLife Server) (stepped : life.step event = some next) :
    Renewing synchronousCommit next := by
  rcases step_cases stepped with ⟨caller, stage, begun, idle, rfl⟩ | ⟨caller, rfl, -, rfl⟩ |
    ⟨change, rfl, rfl⟩
  · refine renewing.moveOn caller life.store stage rfl (fun call connection here => ?_) ?_
    · rw [here] at idle
      cases idle
    · rcases begun with ⟨call, -, rfl⟩ | ⟨-, rfl⟩ <;> rfl
  · exact renewing.act laws owned caller _ rfl
  · exact ⟨renewing.remembers, renewing.orderly⟩

omit [Database Server] in
/-- A store that nobody has called yet. -/
theorem renewing_new (store : SessionStore Server) : Renewing synchronousCommit { store } where
  remembers caller := by
    refine ⟨fun _ opened => absurd opened List.not_mem_nil, fun isRenewing => ?_,
      fun _ _ => CallStage.noConfusion, fun _ _ => CallStage.noConfusion⟩
    cases isRenewing
  orderly past entry rest equal :=
    absurd (List.append_eq_nil_iff.mp equal.symm).2 (List.cons_ne_nil _ _)

/-- All courses from a store that nobody has called yet keep everything in order and in mind. -/
theorem renewing_of_replay (laws : ConnectionLaws sound given) {store : SessionStore Server}
    (isSound : sound store.server) (sessions : store.sessions = []) (opened : store.opened = [])
    (schedule : List (Event Server)) (allowed : ∀ event ∈ schedule, event.Allowed sound given)
    (ran : replay SessionLife.step { store } schedule = some life) :
    Owned sound given store.table store.synchronousCommit life ∧
      Renewing store.synchronousCommit life :=
  replay_invariant_of_allowed (Event.Allowed sound given)
    (fun life => Owned sound given store.table store.synchronousCommit life ∧
      Renewing store.synchronousCommit life)
    (fun _ event next isAllowed ⟨owned, renewing⟩ stepped =>
      ⟨owned.step laws event next isAllowed stepped, renewing.step laws owned event next stepped⟩)
    _ _ schedule allowed ⟨owned_new store isSound sessions opened, renewing_new store⟩ ran

end Steps

/-! ### Sessions of their own -/

/-- What a ledger shows of the sessions in it. -/
structure OwnSessions (table : Table) (synchronousCommit : Bool) (ledger : List (Caller × Deed)) :
    Prop where
  /-- Cells are stored and selected on a connection that its caller opened, found open when it
  picked it up, and prepared, for asynchronous commits exactly if they are wanted. -/
  data : ∀ (past rest : List (Caller × Deed)) (caller : Caller) (demand : Demand) answer,
    ledger = past ++ (caller, Deed.asks demand answer) :: rest → demand.IsData table →
      lastLook past caller = some (some (demand.connection, false)) ∧
        Opened past caller demand.connection ∧
        Ran past caller demand.connection quietStatement ∧
        (Ran past caller demand.connection asynchronousStatement ↔ synchronousCommit = false)
  /-- A connection is used by one caller only. -/
  sole : ∀ (caller other : Caller) (demand another : Demand) answer reply,
    (caller, Deed.asks demand answer) ∈ ledger → (other, Deed.asks another reply) ∈ ledger →
      demand.isUse = true → another.isUse = true → demand.connection = another.connection →
        caller = other
  /-- Whoever asks for a new connection has found closed every one that it opened and prepared
  before, and when it looked last it had none, or the one that it had was closed. -/
  reopens : ∀ (past rest : List (Caller × Deed)) (caller : Caller) answer,
    ledger = past ++ (caller, Deed.connects answer) :: rest →
      Forsaken synchronousCommit past caller ∧ Lost past caller

section Steps

variable {Server : Type} [Database Server] {sound : Server → Prop} {given : Server → Nat → Prop}
  {table : Table} {synchronousCommit : Bool} {life : SessionLife Server}

omit [Database Server] in
theorem Owned.ownSessions (owned : Owned sound given table synchronousCommit life)
    (renewing : Renewing synchronousCommit life) :
    OwnSessions table synchronousCommit life.ledger where
  data past rest caller demand answer equal data := by
    obtain ⟨holds, prepared, -⟩ := owned.orderly past _ rest equal
    have held := holds data.isUse
    have ready := prepared data
    refine ⟨held.found, held.opened, ready.quiet, fun asynchronous => ?_, ready.relaxed⟩
    obtain ⟨reply, ran⟩ := asynchronous
    -- the statement was proper when it was asked, and then commits are not waited for
    obtain ⟨before, after, split⟩ := List.append_of_mem ran
    rw [split, List.append_assoc, List.cons_append] at equal
    exact (owned.orderly before _ _ equal).2.2 _ rfl
  sole caller other demand another answer reply first second isUse isAlso same := by
    refine owned.sole caller other demand.connection (owned.opened_of_use first isUse) ?_
    rw [same]
    exact owned.opened_of_use second isAlso
  reopens past rest caller answer equal :=
    ⟨renewing.orderly past _ rest equal, owned.orderly past _ rest equal⟩

/-- In every course of overlapping calls, with whatever is refused and broken, the statements that
store or select cells run on prepared sessions of their callers, and a caller keeps its session
until it finds it closed. Each call that nobody interrupts is the call of the store. -/
theorem own_sessions (laws : ConnectionLaws sound given) {store : SessionStore Server}
    (isSound : sound store.server) (sessions : store.sessions = []) (opened : store.opened = [])
    (schedule : List (Event Server)) (allowed : ∀ event ∈ schedule, event.Allowed sound given)
    (ran : replay SessionLife.step { store } schedule = some life) :
    OwnSessions store.table store.synchronousCommit life.ledger ∧
      ∀ caller, (life.stages caller).isEnded = true → life.Uninterrupted caller := by
  obtain ⟨owned, renewing⟩ := renewing_of_replay laws isSound sessions opened schedule allowed ran
  exact ⟨owned.ownSessions renewing, fun caller idle => life.uninterrupted caller idle⟩

end Steps

/-- Who stores or selects cells on which connection. -/
def dataOf : Caller × Deed → Option (Caller × Nat)
  | (caller, .asks (.executeMany connection _ _) _) => some (caller, connection)
  | (caller, .asks (.execute connection _ (_ :: _)) _) => some (caller, connection)
  | _ => none

/-- A store that nobody has called yet, on an empty database. -/
def newSessions : SessionStore ScriptedDatabase where
  server := {}
  dsn := "dbname=kv"
  table := ⟨Table.defaultSchema, Table.defaultName⟩

/-- Two callers in turn get their connections. The second one selects, and closes the store while
the first one is in its transaction; the connection of the first one breaks, too. Then the first one
reads, on a new connection. -/
def closedInBetween (first second : Caller) : List (Event ScriptedDatabase) :=
  [.call first (.write 5 (ColumnMap.single 0 [1])), .call second (.read 5), .work first,
    .work second, .work first, .work second, .work first, .work second, .work first, .work second,
    .work first, .work second, .work second, .work first, .close second, .work second, .work second,
    .work first, .outside (ScriptedDatabase.breakConnection 1), .work second, .work second,
    .work first, .call first (.read 5), .work first, .work first, .work first, .work first,
    .work first, .work first]

theorem allowed_closedInBetween (first second : Caller) :
    ∀ event ∈ closedInBetween first second,
      event.Allowed ScriptedDatabase.Closing ScriptedDatabase.Given := by
  have breaks := fun (server : ScriptedDatabase) (closing : server.Closing) =>
    ScriptedDatabase.later_breakConnection 1 closing
  simpa [closedInBetween, Event.Allowed] using breaks

theorem own_sessions_of_closed_in_between :
    ∃ life, replay SessionLife.step { store := newSessions }
        (closedInBetween ⟨.writer, 0⟩ ⟨.reader, 0⟩) = some life ∧
      life.ledger.filterMap dataOf =
        [(⟨.reader, 0⟩, 2), (⟨.writer, 0⟩, 1), (⟨.writer, 0⟩, 3)] ∧
      OwnSessions newSessions.table false life.ledger := by
  have closing : newSessions.server.Closing := ⟨List.forall_mem_nil _, List.forall_mem_nil _⟩
  have known : (replay SessionLife.step { store := newSessions }
      (closedInBetween ⟨.writer, 0⟩ ⟨.reader, 0⟩)).map (fun life => life.ledger.filterMap dataOf) =
        some [(⟨.reader, 0⟩, 2), (⟨.writer, 0⟩, 1), (⟨.writer, 0⟩, 3)] := by
    decide +kernel
  obtain ⟨life, ran, used⟩ := Option.map_eq_some_iff.mp known
  exact ⟨life, ran, used, (own_sessions ScriptedDatabase.closingLaws.toConnectionLaws closing rfl
    rfl _ (allowed_closedInBetween _ _) ran).1⟩

end SessionLife

end LoadVerifier
