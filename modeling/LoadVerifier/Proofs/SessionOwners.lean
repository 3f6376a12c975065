/-
This file says on which connections the statements of overlapping calls run. Every statement that
stores or selects is asked of a connection that its caller opened itself and found open when it last
looked, and that was prepared before; nobody else ever uses that connection.

Each step of a call keeps this because of where its caller stands, and the steps of others add
nothing to what a caller did (`Owned.act`, `Owned.step`).
-/
import LoadVerifier.Proofs.SessionLedger

namespace LoadVerifier

namespace SessionStore

variable {Server : Type} {store : SessionStore Server} {caller : Caller}

/-- A registered connection is the session of its caller, and no other session changes. -/
theorem session?_register (connection : Nat) (who : Caller) :
    (store.register caller connection).session? who =
      if who = caller then some connection else store.session? who := by
  rw [session?, register, List.find?_cons]
  by_cases same : who = caller
  · subst same
    simp
  · have other : (caller == who) = false := beq_eq_false_iff_ne.mpr (Ne.symm same)
    rw [if_neg same, other, session?, List.find?_filter]
    refine congrArg (Option.map Prod.snd) ?_
    refine congrArg (store.sessions.find? ·) (funext fun session => ?_)
    by_cases his : session.1 = who
    · simp [his, same]
    · simp [his]

end SessionStore

namespace SessionLife

/-! ### What every step keeps -/

section Steps

variable {Server : Type} [Database Server] {sound : Server → Prop} {given : Server → Nat → Prop}
  {table : Table} {synchronousCommit : Bool} {life : SessionLife Server}

/-- Everything in a ledger is proper, connections have one owner each, sessions are prepared, and
every call is where the ledger says. -/
structure Owned (sound : Server → Prop) (given : Server → Nat → Prop) (table : Table)
    (synchronousCommit : Bool) (life : SessionLife Server) : Prop where
  sound : sound life.store.server
  sameTable : life.store.table = table
  sameCommits : life.store.synchronousCommit = synchronousCommit
  given : ∀ caller connection, Opened life.ledger caller connection →
    given life.store.server connection
  sole : ∀ caller other connection, Opened life.ledger caller connection →
    Opened life.ledger other connection → caller = other
  registered : ∀ connection ∈ life.store.opened, ∃ owner, Opened life.ledger owner connection
  sessions : ∀ caller connection, life.store.session? caller = some connection →
    Opened life.ledger caller connection ∧
      Prepared life.ledger caller connection synchronousCommit
  fits : ∀ caller, Fits synchronousCommit life.ledger caller (life.stages caller)
  orderly : Orderly (Proper table synchronousCommit) life.ledger

omit [Database Server] in
theorem opened_append_iff (deeds : List Deed) (caller who : Caller) (connection : Nat) :
    Opened (life.ledger ++ deeds.map fun deed => (caller, deed)) who connection ↔
      Opened life.ledger who connection ∨
        who = caller ∧ connection ∈ deeds.filterMap Deed.opens? := by
  rw [Opened, Opened, List.mem_append, List.mem_map, List.mem_filterMap]
  refine or_congr_right ⟨fun found => ?_, fun found => ?_⟩
  · obtain ⟨deed, member, equal⟩ := found
    cases equal
    exact ⟨rfl, _, member, rfl⟩
  · obtain ⟨rfl, deed, member, opens⟩ := found
    rw [Deed.opens?_eq_some_iff] at opens
    exact ⟨deed, member, by rw [opens]⟩

/-- A caller moves on, and all stays in order: it did what was proper, a connection it got is a new
one, what is registered and remembered is its own, and the ledger fits the stage that it is at. -/
theorem Owned.advance (owned : Owned sound given table synchronousCommit life) (caller : Caller)
    (store : SessionStore Server) (deeds : List Deed) (stage : CallStage)
    (later : Later sound given life.store.server store.server)
    (settings : store.table = life.store.table ∧
      store.synchronousCommit = life.store.synchronousCommit)
    (fresh : ∀ connection ∈ deeds.filterMap Deed.opens?,
      ¬given life.store.server connection ∧ given store.server connection)
    (registered : ∀ connection ∈ store.opened, connection ∈ life.store.opened ∨
      Opened life.ledger caller connection)
    (sessions : ∀ who connection, store.session? who = some connection →
      life.store.session? who = some connection ∨
        Opened life.ledger who connection ∧
          Prepared life.ledger who connection synchronousCommit)
    (orderly : Orderly (Proper table synchronousCommit)
      (life.ledger ++ deeds.map fun deed => (caller, deed)))
    (fits : Fits synchronousCommit (life.ledger ++ deeds.map fun deed => (caller, deed)) caller
      stage) :
    Owned sound given table synchronousCommit ({ life with store }.advance caller deeds stage) where
  sound := later.sound
  sameTable := settings.1.trans owned.sameTable
  sameCommits := settings.2.trans owned.sameCommits
  given who connection opened := by
    rcases (opened_append_iff deeds caller who connection).mp opened with old | ⟨-, new⟩
    · exact later.given connection (owned.given who connection old)
    · exact (fresh connection new).2
  sole who other connection opened another := by
    -- what is opened now was given to nobody before, so both are old or both are new
    rcases (opened_append_iff deeds caller who connection).mp opened with old | ⟨rfl, new⟩
    · rcases (opened_append_iff deeds caller other connection).mp another with old' | ⟨rfl, new⟩
      · exact owned.sole who other connection old old'
      · exact absurd (owned.given who connection old) (fresh connection new).1
    · rcases (opened_append_iff deeds who other connection).mp another with old | ⟨rfl, -⟩
      · exact absurd (owned.given other connection old) (fresh connection new).1
      · rfl
  registered connection member := by
    rcases registered connection member with old | opened
    · exact (owned.registered connection old).imp fun _ opened => opened.append
    · exact ⟨caller, opened.append⟩
  sessions who connection has := by
    rcases sessions who connection has with old | ⟨opened, prepared⟩
    · have before := owned.sessions who connection old
      exact ⟨before.1.append, before.2.append⟩
    · exact ⟨opened.append, prepared.append⟩
  fits who := by
    by_cases same : who = caller
    · subst same
      rw [stages_advance_self]
      exact fits
    · -- nobody else has looked since
      rw [stages_advance_of_ne _ same]
      refine (owned.fits who).append (lastLook_append fun entry member => ?_)
      obtain ⟨deed, -, rfl⟩ := List.mem_map.mp member
      exact lookOf_eq_none_of_ne same deed
  orderly := orderly

/-- A caller moves on without a deed, and what it leaves registered and remembered is its own. -/
theorem Owned.move (owned : Owned sound given table synchronousCommit life) (caller : Caller)
    (store : SessionStore Server) (stage : CallStage)
    (settings : store.server = life.store.server ∧ store.table = life.store.table ∧
      store.synchronousCommit = life.store.synchronousCommit)
    (registered : ∀ connection ∈ store.opened, connection ∈ life.store.opened ∨
      Opened life.ledger caller connection)
    (sessions : ∀ who connection, store.session? who = some connection →
      life.store.session? who = some connection ∨
        Opened life.ledger who connection ∧
          Prepared life.ledger who connection synchronousCommit)
    (fits : Fits synchronousCommit life.ledger caller stage) :
    Owned sound given table synchronousCommit ({ life with store }.advance caller [] stage) := by
  have same : Later sound given life.store.server store.server := by
    rw [settings.1]
    exact .refl owned.sound
  refine owned.advance caller store [] stage same settings.2 (List.forall_mem_nil _) registered
    sessions ?_ ?_
  · rw [List.map_nil, List.append_nil]
    exact owned.orderly
  · rw [List.map_nil, List.append_nil]
    exact fits

/-- A caller moves on without a deed and without touching the store. -/
theorem Owned.moveOn (owned : Owned sound given table synchronousCommit life) (caller : Caller)
    (stage : CallStage) (fits : Fits synchronousCommit life.ledger caller stage) :
    Owned sound given table synchronousCommit (life.advance caller [] stage) :=
  owned.move caller life.store stage ⟨rfl, rfl, rfl⟩ (fun _ member => .inl member)
    (fun _ _ has => .inl has) fits

/-- What a request leaves in order, when it was proper and the stage after it fits. -/
theorem Owned.ask (laws : ConnectionLaws sound given)
    (owned : Owned sound given table synchronousCommit life) (caller : Caller) (demand : Demand)
    (next : Except DatabaseFailure DatabaseReply → CallStage)
    (owner : ∃ owner, Opened life.ledger owner demand.connection)
    (proper : ∀ answer, Proper table synchronousCommit life.ledger (caller, .asks demand answer))
    (fits : ∀ answer, Fits synchronousCommit (life.ledger ++ [(caller, .asks demand answer)]) caller
      (next answer)) :
    Owned sound given table synchronousCommit (life.ask caller demand next) := by
  obtain ⟨owner, opened⟩ := owner
  have later := laws.ask life.store.server demand owned.sound
    (owned.given owner demand.connection opened)
  rw [SessionLife.ask]
  cases asked : demand.ask life.store.server with
  | mk answer server =>
    rw [asked] at later
    exact owned.advance caller { life.store with server } [.asks demand answer] (next answer) later
      ⟨rfl, rfl⟩ (List.forall_mem_nil _) (fun _ member => .inl member) (fun _ _ has => .inl has)
      (owned.orderly.concat _ (proper answer)) (fits answer)

/-- A request that is a use of a held connection, on the way to a stage that holds it too. -/
theorem Owned.ask_held (laws : ConnectionLaws sound given)
    (owned : Owned sound given table synchronousCommit life) {caller : Caller} {connection : Nat}
    (held : Holds life.ledger caller connection ∧
      Prepared life.ledger caller connection synchronousCommit)
    (demand : Demand) (same : demand.connection = connection)
    (serves : demand.isSetting = false)
    (next : Except DatabaseFailure DatabaseReply → CallStage)
    (fits : ∀ answer ledger, Holds ledger caller connection ∧
      Prepared ledger caller connection synchronousCommit →
        Fits synchronousCommit ledger caller (next answer)) :
    Owned sound given table synchronousCommit (life.ask caller demand next) := by
  subst same
  refine owned.ask laws caller demand next ⟨caller, held.1.opened⟩
    (fun _ => ⟨fun _ => held.1, fun _ => held.2, fun connection equal => ?_⟩)
    fun answer => fits answer _ ⟨?_, held.2.append⟩
  · rw [equal] at serves
    cases serves
  · exact held.1.append (lastLook_append (List.forall_mem_singleton.mpr rfl))

/-- What is seen of a usable connection. -/
theorem look_of_live (caller : Caller) (connection : Nat)
    (live : life.store.liveSession? caller = some connection) :
    life.look caller = some (connection, false) ∧
      life.store.session? caller = some connection := by
  obtain ⟨has, isOpen⟩ := Option.filter_eq_some_iff.mp live
  rw [Bool.not_eq_true'] at isOpen
  rw [look, has, Option.map_some, isOpen]
  exact ⟨rfl, rfl⟩

/-- What is seen without a usable connection. -/
theorem look_of_not_live (caller : Caller) (live : life.store.liveSession? caller = none) :
    life.look caller = none ∨ ∃ connection, life.look caller = some (connection, true) := by
  rw [look]
  rw [SessionStore.liveSession?, Option.filter_eq_none_iff] at live
  cases has : life.store.session? caller with
  | none => exact .inl rfl
  | some connection =>
    have isClosed := live connection has
    rw [Bool.not_not_eq] at isClosed
    exact .inr ⟨connection, by rw [Option.map_some, isClosed]⟩

theorem Fits.serve {ledger : List (Caller × Deed)} {caller : Caller} {connection : Nat}
    (call : RowCall) (holds : Holds ledger caller connection)
    (prepared : Prepared ledger caller connection synchronousCommit) :
    Fits synchronousCommit ledger caller (call.serve connection) := by
  cases call <;> exact ⟨holds, prepared⟩

/-- A caller that looks goes on with its prepared session, or knows that it needs one. -/
theorem Owned.lookUp (owned : Owned sound given table synchronousCommit life) (caller : Caller)
    (call : RowCall) :
    Owned sound given table synchronousCommit (life.act caller (.lookUp call)) := by
  refine owned.advance caller life.store _ _ (.refl owned.sound) ⟨rfl, rfl⟩
    (List.forall_mem_nil _) (fun _ member => .inl member) (fun _ _ has => .inl has)
    (owned.orderly.concat _ trivial) ?_
  have seen := lastLook_looks life.ledger caller (life.look caller)
  cases live : life.store.liveSession? caller with
  | some connection =>
    obtain ⟨looked, has⟩ := life.look_of_live caller connection live
    obtain ⟨opened, prepared⟩ := owned.sessions caller connection has
    exact Fits.serve call ⟨opened.append, seen.trans (congrArg some looked)⟩ prepared.append
  | none =>
    exact (life.look_of_not_live caller live).imp (fun looked => seen.trans (congrArg some looked))
      (Exists.imp fun _ looked => seen.trans (congrArg some looked))

/-- A caller without a usable connection gets one that is its own. -/
theorem Owned.connect (laws : ConnectionLaws sound given)
    (owned : Owned sound given table synchronousCommit life) (caller : Caller) (call : RowCall)
    (lost : Lost life.ledger caller) :
    Owned sound given table synchronousCommit (life.act caller (.connect call)) := by
  have later := laws.connect life.store.server life.store.dsn true owned.sound
  rw [act]
  cases connects : Database.connect life.store.server life.store.dsn true with
  | mk answer server =>
    rw [connects] at later
    cases answer with
    | error failure =>
      exact owned.advance caller { life.store with server } _ _ later ⟨rfl, rfl⟩
        (List.forall_mem_nil _) (fun _ member => .inl member) (fun _ _ has => .inl has)
        (owned.orderly.concat _ lost) trivial
    | ok connection =>
      obtain ⟨unknown, given, isOpen⟩ := laws.fresh _ _ _ _ _ owned.sound connects
      refine owned.advance caller { life.store with server } _ _ later ⟨rfl, rfl⟩
        (List.forall_mem_singleton.mpr ⟨unknown, given⟩) (fun _ member => .inl member)
        (fun _ _ has => .inl has) ?_ ?_
      · rw [List.map_cons, List.append_cons]
        exact (owned.orderly.concat (caller, .connects (.ok connection)) lost).concat _ trivial
      · rw [List.map_cons, List.append_cons, isOpen]
        exact ⟨Opened.append (List.mem_append_right _ (List.mem_singleton_self _)),
          lastLook_looks _ _ _⟩

theorem quietStatement_ne_asynchronousStatement : quietStatement ≠ asynchronousStatement := by
  decide

/-- The statements that prepare a connection are asked by the caller that opened it. -/
theorem Owned.prepare (laws : ConnectionLaws sound given)
    (owned : Owned sound given table synchronousCommit life) {caller : Caller} {connection : Nat}
    (holds : Holds life.ledger caller connection) (statement : Statement)
    (relaxes : statement = asynchronousStatement → synchronousCommit = false)
    (next : Except DatabaseFailure DatabaseReply → CallStage)
    (refused : ∀ failure, ∃ result, next (.error failure) = .ended result)
    (granted : ∀ reply ledger, Holds ledger caller connection →
      Ran ledger caller connection statement →
        (∀ other, Ran life.ledger caller connection other → Ran ledger caller connection other) →
          Fits synchronousCommit ledger caller (next (.ok reply))) :
    Owned sound given table synchronousCommit
      (life.ask caller (.execute connection statement []) next) := by
  refine owned.ask laws caller _ next ⟨caller, holds.opened⟩ (fun _ => ⟨fun _ => holds, fun data =>
    absurd rfl data.parameters_ne_nil, fun _ equal => ?_⟩) fun answer => ?_
  · exact relaxes (Demand.execute.inj equal).2.1
  · cases answer with
    | error failure =>
      obtain ⟨result, ended⟩ := refused failure
      rw [ended]
      trivial
    | ok reply =>
      refine granted reply _ (holds.append ?_) ⟨reply, ?_⟩ fun _ ran => ran.append
      · exact lastLook_append (List.forall_mem_singleton.mpr rfl)
      · exact List.mem_append_right _ (List.mem_singleton_self _)

/-- A call keeps everything in order with each of its steps. -/
theorem Owned.act (laws : ConnectionLaws sound given)
    (owned : Owned sound given table synchronousCommit life) (caller : Caller) (now : CallStage)
    (fits : Fits synchronousCommit life.ledger caller now) :
    Owned sound given table synchronousCommit (life.act caller now) := by
  cases now with
  | lookUp call => exact owned.lookUp caller call
  | connect call => exact owned.connect laws caller call fits
  | quiet call connection =>
    rw [SessionLife.act, owned.sameCommits]
    refine owned.prepare laws fits quietStatement
      (fun equal => absurd equal quietStatement_ne_asynchronousStatement) _
      (fun failure => ⟨_, rfl⟩) fun reply ledger holds ran _ => ?_
    cases synchronousCommit with
    | true => exact ⟨holds, ran, fun isFalse => Bool.noConfusion isFalse⟩
    | false => exact ⟨holds, ran, rfl⟩
  | relax call connection =>
    obtain ⟨holds, quiet, asynchronous⟩ := fits
    rw [SessionLife.act]
    exact owned.prepare laws holds asynchronousStatement (fun _ => asynchronous) _
      (fun failure => ⟨_, rfl⟩) fun reply ledger holds ran kept =>
        ⟨holds, kept quietStatement quiet, fun _ => ran⟩
  | register call connection =>
    obtain ⟨holds, prepared⟩ := fits
    refine owned.move caller (life.store.register caller connection) _ ⟨rfl, rfl, rfl⟩
      (fun other member => ?_) (fun who other has => ?_) (Fits.serve call holds prepared)
    · refine (List.mem_append.mp member).imp_right fun new => ?_
      exact List.mem_singleton.mp new ▸ holds.opened
    · rw [SessionStore.session?_register] at has
      split at has
      · rename_i same
        cases has
        exact .inr (same ▸ ⟨holds.opened, prepared⟩)
      · exact .inl has
  | begin rows connection =>
    rw [SessionLife.act]
    refine owned.ask_held laws fits (.begin connection) rfl rfl _ fun answer ledger held => ?_
    cases answer with
    | error failure => trivial
    | ok _ => exact held
  | store rows connection =>
    rw [SessionLife.act]
    refine owned.ask_held laws fits (.executeMany connection _ rows) rfl rfl _
      fun answer ledger held => ?_
    cases answer <;> exact held
  | commit connection =>
    rw [SessionLife.act]
    exact owned.ask_held laws fits (.commit connection) rfl rfl _ fun _ _ _ => trivial
  | rollback connection failure =>
    rw [SessionLife.act]
    refine owned.ask_held laws fits (.rollback connection) rfl rfl _ fun answer _ _ => ?_
    cases answer <;> trivial
  | select key connection =>
    rw [SessionLife.act]
    exact owned.ask_held laws fits (.execute connection _ [key]) rfl rfl _ fun _ _ _ => trivial
  | release =>
    exact owned.move caller { life.store with opened := [] } _ ⟨rfl, rfl, rfl⟩
      (List.forall_mem_nil _) (fun _ _ has => .inl has) owned.registered
  | close connections =>
    cases connections with
    | nil => exact owned.moveOn caller _ trivial
    | cons connection rest =>
      rw [SessionLife.act]
      refine owned.ask laws caller (.close connection) _ (fits connection List.mem_cons_self)
        (fun _ => ⟨fun isUse => ?_, fun data => ?_, fun _ equal => ?_⟩) fun answer => ?_
      · cases isUse
      · cases data
      · cases equal
      · cases answer with
        | error failure => trivial
        | ok reply =>
          exact fun other member =>
            (fits other (List.mem_cons_of_mem _ member)).imp fun _ opened => opened.append
  | ended result => exact owned.moveOn caller _ trivial

/-- Whatever changes a database from outside leaves a later one. -/
def Event.Allowed (sound : Server → Prop) (given : Server → Nat → Prop) : Event Server → Prop
  | .outside change => ∀ server, sound server → Later sound given server (change server)
  | _ => True

theorem Owned.step (laws : ConnectionLaws sound given)
    (owned : Owned sound given table synchronousCommit life) (event : Event Server)
    (next : SessionLife Server) (allowed : event.Allowed sound given)
    (stepped : life.step event = some next) :
    Owned sound given table synchronousCommit next := by
  rcases step_cases stepped with ⟨caller, stage, begun, -, rfl⟩ | ⟨caller, rfl, -, rfl⟩ |
    ⟨change, rfl, rfl⟩
  · rcases begun with ⟨call, -, rfl⟩ | ⟨-, rfl⟩
    · exact owned.moveOn caller (.lookUp call) trivial
    · exact owned.moveOn caller .release trivial
  · exact owned.act laws caller _ (owned.fits caller)
  · have later := allowed life.store.server owned.sound
    exact { owned with
      sound := later.sound
      given := fun caller connection opened =>
        later.given connection (owned.given caller connection opened) }

omit [Database Server] in
/-- A store that nobody has called yet. -/
theorem owned_new (store : SessionStore Server) (isSound : sound store.server)
    (sessions : store.sessions = []) (opened : store.opened = []) :
    Owned sound given store.table store.synchronousCommit { store } where
  sound := isSound
  sameTable := rfl
  sameCommits := rfl
  given _ _ before := absurd before List.not_mem_nil
  sole _ _ _ before := absurd before List.not_mem_nil
  registered := opened ▸ List.forall_mem_nil _
  sessions caller connection has := by
    have none : store.session? caller = none := by rw [SessionStore.session?, sessions]; rfl
    cases none.symm.trans has
  fits _ := trivial
  orderly past entry rest equal :=
    absurd (List.append_eq_nil_iff.mp equal.symm).2 (List.cons_ne_nil _ _)

end Steps

end SessionLife

end LoadVerifier
