/-
This file follows a store with sessions through calls that overlap. A call goes from one request of
the database to the next, and between two of its steps other callers take theirs, connections may
break, and somebody may close all that are registered. What is looked at and asked for is noted in a
ledger, with the answers.

A call that nobody interrupts is the call of the store: the same answer, and the same store in the
end (`uninterrupted`). So calls in any order, one after another, are among the courses that are
followed here.
-/
import LoadVerifier.Proofs.ConnectionLaws
import LoadVerifier.Proofs.Schedule
import LoadVerifier.Proofs.SessionCalls
import Mathlib.Logic.Function.Basic

namespace LoadVerifier

/-! ### The course of a call -/

/-- What a caller did: it looked at the connection it has and whether that one is closed, it asked
for a new one, or it asked for something on a connection. -/
inductive Deed
  | looks (found : Option (Nat × Bool))
  | connects (answer : Except DatabaseFailure Nat)
  | asks (demand : Demand) (answer : Except DatabaseFailure DatabaseReply)

/-- What a call does next. -/
inductive CallStage
  | lookUp (call : RowCall)
  | connect (call : RowCall)
  | quiet (call : RowCall) (connection : Nat)
  | relax (call : RowCall) (connection : Nat)
  | register (call : RowCall) (connection : Nat)
  | begin (rows : List CellRow) (connection : Nat)
  | store (rows : List CellRow) (connection : Nat)
  | commit (connection : Nat)
  | rollback (connection : Nat) (failure : DatabaseFailure)
  | select (key : Int) (connection : Nat)
  | release
  | close (connections : List Nat)
  | ended (result : Except DatabaseFailure (Option Columns))

/-- Whether a call is over. -/
def CallStage.isEnded : CallStage → Bool
  | .ended _ => true
  | _ => false

namespace RowCall

/-- What a call does once it has a connection. -/
def serve (connection : Nat) : RowCall → CallStage
  | .write key columns => .begin (SessionStore.cellRows key columns) connection
  | .read key => .select key connection

/-- What a call does with a connection, or without one. -/
def proceed (call : RowCall) : Except DatabaseFailure Nat → CallStage
  | .error failure => .ended (.error failure)
  | .ok connection => call.serve connection

/-- What a call comes to on a connection. -/
def answer {Server : Type} [Database Server] (store : SessionStore Server) (connection : Nat) :
    RowCall → Except DatabaseFailure (Option Columns) × SessionStore Server
  | .write key columns =>
    let (result, server) := SessionStore.inTransaction store.server connection
      store.table.insertStatement (SessionStore.cellRows key columns)
    (result.map fun _ => none, { store with server })
  | .read key =>
    let (result, server) :=
      Database.execute store.server connection store.table.selectStatement [key]
    (result.map SessionStore.rowOf, { store with server })

/-- What a call tells its caller. -/
def tell (result : Except DatabaseFailure (Option Columns)) :
    RowCall → CallResult (Option Columns)
  | .write key _ => SessionStore.callResult "write" key result
  | .read key => SessionStore.callResult "read" key result

section Performed

variable {Server : Type} [Database Server] {store next : SessionStore Server} {caller : Caller}

theorem perform_of_error (call : RowCall) (failure : DatabaseFailure)
    (refused : store.connection caller = (.error failure, next)) :
    call.perform store caller = (call.tell (.error failure), next) := by
  cases call with
  | write key columns =>
    rw [perform, SessionStore.write_eq, SessionStore.writeRow, refused]
    rfl
  | read key =>
    rw [perform, SessionStore.read_eq, SessionStore.readRow, refused]
    rfl

theorem perform_of_ok (call : RowCall) (connection : Nat)
    (connects : store.connection caller = (.ok connection, next)) :
    call.perform store caller =
      (call.tell (call.answer next connection).1, (call.answer next connection).2) := by
  cases call with
  | write key columns =>
    rw [perform, SessionStore.write_eq, SessionStore.writeRow, connects]
    dsimp only [answer, tell]
    cases (SessionStore.inTransaction next.server connection next.table.insertStatement
      (SessionStore.cellRows key columns)).1 <;> rfl
  | read key =>
    rw [perform, SessionStore.read_eq, SessionStore.readRow, connects]
    rfl

end Performed

end RowCall

/-- A store with sessions, where each caller stands, and everything that was done, with the latest
deed last. -/
structure SessionLife (Server : Type) where
  store : SessionStore Server
  stages : Caller → CallStage := fun _ => .ended (.ok none)
  ledger : List (Caller × Deed) := []

namespace SessionLife

variable {Server : Type}

/-- The life with another database. -/
def onServer (life : SessionLife Server) (server : Server) : SessionLife Server :=
  { life with store := { life.store with server } }

/-- The life with a caller at a stage, after some deeds of it. -/
def advance (life : SessionLife Server) (caller : Caller) (deeds : List Deed) (stage : CallStage) :
    SessionLife Server :=
  { life with
    stages := Function.update life.stages caller stage
    ledger := life.ledger ++ deeds.map fun deed => (caller, deed) }

theorem stages_advance_self (life : SessionLife Server) (caller : Caller) (deeds : List Deed)
    (stage : CallStage) : (life.advance caller deeds stage).stages caller = stage :=
  Function.update_self ..

theorem stages_advance_of_ne (life : SessionLife Server) {caller who : Caller}
    (other : who ≠ caller) (deeds : List Deed) (stage : CallStage) :
    (life.advance caller deeds stage).stages who = life.stages who :=
  Function.update_of_ne other ..

variable [Database Server]

/-- Asks for something, and goes on with the answer. -/
def ask (life : SessionLife Server) (caller : Caller) (demand : Demand)
    (next : Except DatabaseFailure DatabaseReply → CallStage) : SessionLife Server :=
  let (answer, server) := demand.ask life.store.server
  (life.onServer server).advance caller [.asks demand answer] (next answer)

/-- What a caller sees of the connection that it has. -/
def look (life : SessionLife Server) (caller : Caller) : Option (Nat × Bool) :=
  (life.store.session? caller).map fun connection =>
    (connection, Database.isClosed life.store.server connection)

/-- One step of a call, from its stage. -/
def act (life : SessionLife Server) (caller : Caller) : CallStage → SessionLife Server
  | .lookUp call =>
    life.advance caller [.looks (life.look caller)]
      (match life.store.liveSession? caller with
      | some connection => call.serve connection
      | none => .connect call)
  | .connect call =>
    match Database.connect life.store.server life.store.dsn true with
    | (.error failure, server) =>
      (life.onServer server).advance caller [.connects (.error failure)] (.ended (.error failure))
    | (.ok connection, server) =>
      (life.onServer server).advance caller [.connects (.ok connection),
        .looks (some (connection, Database.isClosed server connection))] (.quiet call connection)
  | .quiet call connection =>
    life.ask caller (.execute connection quietStatement []) fun
      | .error failure => .ended (.error failure)
      | .ok _ =>
        if life.store.synchronousCommit then .register call connection else .relax call connection
  | .relax call connection =>
    life.ask caller (.execute connection asynchronousStatement []) fun
      | .error failure => .ended (.error failure)
      | .ok _ => .register call connection
  | .register call connection =>
    { life with store := life.store.register caller connection }.advance caller []
      (call.serve connection)
  | .begin rows connection =>
    life.ask caller (.begin connection) fun
      | .error failure => .ended (.error failure)
      | .ok _ => .store rows connection
  | .store rows connection =>
    life.ask caller (.executeMany connection life.store.table.insertStatement rows) fun
      | .error failure => .rollback connection failure
      | .ok _ => .commit connection
  | .commit connection =>
    life.ask caller (.commit connection) fun answer => .ended (answer.map fun _ => none)
  | .rollback connection failure =>
    life.ask caller (.rollback connection) fun
      | .error another => .ended (.error another)
      | .ok _ => .ended (.error failure)
  | .select key connection =>
    life.ask caller (.execute connection life.store.table.selectStatement [key]) fun answer =>
      .ended (answer.map SessionStore.rowOf)
  | .release =>
    { life with store := { life.store with opened := [] } }.advance caller []
      (.close life.store.opened)
  | .close [] => life.advance caller [] (.ended (.ok none))
  | .close (connection :: rest) =>
    life.ask caller (.close connection) fun
      | .error failure => .ended (.error failure)
      | .ok _ => .close rest
  | .ended result => life.advance caller [] (.ended result)

/-- What can happen to a store with sessions: somebody begins a call, somebody wants it closed, a
call takes a step, or the database changes by itself. -/
inductive Event (Server : Type)
  | call (caller : Caller) (call : RowCall)
  | close (caller : Caller)
  | work (caller : Caller)
  | outside (change : Server → Server)

/-- The life after an event. A caller is in one call at a time. -/
def step (life : SessionLife Server) : Event Server → Option (SessionLife Server)
  | .call caller call =>
    if (life.stages caller).isEnded then some (life.advance caller [] (.lookUp call)) else none
  | .close caller =>
    if (life.stages caller).isEnded then some (life.advance caller [] .release) else none
  | .work caller =>
    if (life.stages caller).isEnded then none else some (life.act caller (life.stages caller))
  | .outside change => some (life.onServer (change life.store.server))

/-- What an event can do: it begins something for a caller that is in no call, it is one step of a
call, or it changes the database. -/
theorem step_cases {life next : SessionLife Server} {event : Event Server}
    (stepped : life.step event = some next) :
    (∃ caller stage, ((∃ call, event = .call caller call ∧ stage = .lookUp call) ∨
        event = .close caller ∧ stage = .release) ∧
      (life.stages caller).isEnded = true ∧ next = life.advance caller [] stage) ∨
    (∃ caller, event = .work caller ∧ (life.stages caller).isEnded = false ∧
      next = life.act caller (life.stages caller)) ∨
    ∃ change, event = .outside change ∧ next = life.onServer (change life.store.server) := by
  cases event with
  | call caller call =>
    rw [step, Option.ite_none_right_eq_some] at stepped
    obtain ⟨idle, equal⟩ := stepped
    exact .inl ⟨caller, _, .inl ⟨call, rfl, rfl⟩, idle, (Option.some.inj equal).symm⟩
  | close caller =>
    rw [step, Option.ite_none_right_eq_some] at stepped
    obtain ⟨idle, equal⟩ := stepped
    exact .inl ⟨caller, _, .inr ⟨rfl, rfl⟩, idle, (Option.some.inj equal).symm⟩
  | work caller =>
    rw [step, Option.ite_none_left_eq_some] at stepped
    obtain ⟨busy, equal⟩ := stepped
    exact .inr (.inl ⟨caller, rfl, Bool.eq_false_iff.mpr busy, (Option.some.inj equal).symm⟩)
  | outside change => exact .inr (.inr ⟨change, rfl, (Option.some.inj stepped).symm⟩)

/-! ### Calls that nobody interrupts -/

/-- A caller who takes its steps alone comes to a stage, and the store is then as given. -/
def Comes (life : SessionLife Server) (caller : Caller) (store : SessionStore Server)
    (stage : CallStage) : Prop :=
  ∃ steps final, replay step life (List.replicate steps (.work caller)) = some final ∧
    final.store = store ∧ final.stages = Function.update life.stages caller stage

section Alone

variable {life : SessionLife Server} {caller : Caller} {store : SessionStore Server}
  {stage : CallStage}

theorem comes_of_stage (here : life.stages caller = stage) : life.Comes caller life.store stage :=
  ⟨0, life, rfl, rfl, by rw [← here, Function.update_eq_self]⟩

theorem advance_comes (deeds : List Deed) :
    (life.advance caller deeds stage).Comes caller life.store stage :=
  comes_of_stage (life.stages_advance_self caller deeds stage)

/-- Each step of the way sets the stage of its caller, and no other. -/
theorem stages_act (life : SessionLife Server) (caller : Caller) (now : CallStage) :
    ∃ stage, (life.act caller now).stages = Function.update life.stages caller stage := by
  cases now with
  | connect call =>
    rw [act]
    split <;> exact ⟨_, rfl⟩
  | close connections => cases connections <;> exact ⟨_, rfl⟩
  | _ => exact ⟨_, rfl⟩

theorem comes_of_act (now : CallStage) (here : life.stages caller = now)
    (goesOn : now.isEnded = false) (comes : (life.act caller now).Comes caller store stage) :
    life.Comes caller store stage := by
  obtain ⟨steps, final, ran, sameStore, sameStages⟩ := comes
  obtain ⟨between, stages⟩ := life.stages_act caller now
  refine ⟨steps + 1, final, ?_, sameStore, ?_⟩
  · rw [List.replicate_succ, replay, step, here, goesOn]
    exact ran
  · rw [sameStages, stages, Function.update_idem]

/-- A caller who asks for something comes to where the answer leads. -/
theorem comes_of_ask {demand : Demand} {next : Except DatabaseFailure DatabaseReply → CallStage}
    (answer : Except DatabaseFailure DatabaseReply) (server : Server)
    (asked : demand.ask life.store.server = (answer, server))
    (comes : ((life.onServer server).advance caller [.asks demand answer] (next answer)).Comes
      caller store stage) : (life.ask caller demand next).Comes caller store stage := by
  rw [ask, asked]
  exact comes

theorem comes_of_commit {connection : Nat} (here : life.stages caller = .commit connection)
    (answer : Except DatabaseFailure Unit) (server : Server)
    (commits : Database.commit life.store.server connection = (answer, server)) :
    life.Comes caller { life.store with server } (.ended (answer.map fun _ => none)) := by
  refine comes_of_act _ here rfl ?_
  rw [act, ask, Demand.ask, commits]
  cases answer <;> exact advance_comes _

theorem comes_of_rollback {connection : Nat} {failure : DatabaseFailure}
    (here : life.stages caller = .rollback connection failure)
    (answer : Except DatabaseFailure Unit) (server : Server)
    (rollsBack : Database.rollback life.store.server connection = (answer, server)) :
    life.Comes caller { life.store with server }
      (.ended (answer.bind fun _ => .error failure)) := by
  refine comes_of_act _ here rfl ?_
  rw [act, ask, Demand.ask, rollsBack]
  cases answer <;> exact advance_comes _

/-- A transaction that was begun is committed, or rolled back. -/
theorem comes_of_store {rows : List CellRow} {connection : Nat} {first : Server}
    (here : life.stages caller = .store rows connection)
    (begins : Database.begin first connection = (.ok (), life.store.server)) :
    life.Comes caller
      { life.store with server := (SessionStore.inTransaction first connection
          life.store.table.insertStatement rows).2 }
      (.ended ((SessionStore.inTransaction first connection
        life.store.table.insertStatement rows).1.map fun _ => none)) := by
  rw [SessionStore.inTransaction, begins]
  cases stores : Database.executeMany life.store.server connection
      life.store.table.insertStatement rows with
  | mk stored second =>
    refine comes_of_act _ here rfl ?_
    rw [act]
    refine comes_of_ask _ _ (by rw [Demand.ask, stores]) ?_
    cases stored with
    | ok _ =>
      dsimp only
      rw [stores]
      exact comes_of_commit (stages_advance_self ..) _ _ rfl
    | error failure =>
      dsimp only
      rw [stores]
      cases rollsBack : Database.rollback second connection with
      | mk answer third =>
        dsimp only
        rw [rollsBack]
        cases answer with
        | ok _ => exact comes_of_rollback (stages_advance_self ..) (.ok ()) third rollsBack
        | error another =>
          exact comes_of_rollback (stages_advance_self ..) (.error another) third rollsBack

/-- A transaction. -/
theorem comes_of_begin {rows : List CellRow} {connection : Nat}
    (here : life.stages caller = .begin rows connection) :
    life.Comes caller
      { life.store with server := (SessionStore.inTransaction life.store.server connection
          life.store.table.insertStatement rows).2 }
      (.ended ((SessionStore.inTransaction life.store.server connection
        life.store.table.insertStatement rows).1.map fun _ => none)) := by
  cases begins : Database.begin life.store.server connection with
  | mk begun server =>
    refine comes_of_act _ here rfl ?_
    rw [act]
    refine comes_of_ask _ _ (by rw [Demand.ask, begins]) ?_
    cases begun with
    | error failure =>
      rw [SessionStore.inTransaction, begins]
      exact advance_comes _
    | ok _ => exact comes_of_store (stages_advance_self ..) begins

/-- A prepared connection is registered, and the call goes on with it. -/
theorem comes_of_register {call : RowCall} {connection : Nat}
    (here : life.stages caller = .register call connection) :
    life.Comes caller (life.store.register caller connection) (call.serve connection) :=
  comes_of_act _ here rfl (advance_comes _)

theorem comes_of_relax {call : RowCall} {connection : Nat}
    (here : life.stages caller = .relax call connection)
    (answer : Except DatabaseFailure DatabaseReply) (server : Server)
    (relaxes : Database.execute life.store.server connection asynchronousStatement [] =
      (answer, server)) :
    match answer with
    | .error failure => life.Comes caller { life.store with server } (.ended (.error failure))
    | .ok _ =>
      life.Comes caller ({ life.store with server }.register caller connection)
        (call.serve connection) := by
  have goesOn : ∀ store stage, ((life.onServer server).advance caller
      [.asks (.execute connection asynchronousStatement []) answer] (match answer with
        | .error failure => .ended (.error failure)
        | .ok _ => .register call connection)).Comes caller store stage →
      life.Comes caller store stage := by
    intro store stage comes
    refine comes_of_act _ here rfl ?_
    rw [act]
    exact comes_of_ask _ _ relaxes comes
  cases answer with
  | error failure => exact goesOn _ _ (advance_comes _)
  | ok reply => exact goesOn _ _ (comes_of_register (stages_advance_self ..))

/-- A new connection is prepared, and registered if that goes well. -/
theorem comes_of_quiet (life : SessionLife Server) {call : RowCall} {connection : Nat}
    (here : life.stages caller = .quiet call connection) :
    match SessionStore.prepare life.store.server connection life.store.synchronousCommit with
    | (.error failure, server) =>
      life.Comes caller { life.store with server } (.ended (.error failure))
    | (.ok _, server) =>
      life.Comes caller ({ life.store with server }.register caller connection)
        (call.serve connection) := by
  rw [SessionStore.prepare]
  cases quiets : Database.execute life.store.server connection quietStatement [] with
  | mk answer first =>
    have goesOn : ∀ store stage, ((life.onServer first).advance caller
        [.asks (.execute connection quietStatement []) answer] (match answer with
          | .error failure => .ended (.error failure)
          | .ok _ =>
            if life.store.synchronousCommit then .register call connection
            else .relax call connection)).Comes caller store stage →
        life.Comes caller store stage := by
      intro store stage comes
      refine comes_of_act _ here rfl ?_
      rw [act]
      exact comes_of_ask _ _ quiets comes
    cases answer with
    | error failure => exact goesOn _ _ (advance_comes _)
    | ok reply =>
      dsimp only at goesOn ⊢
      by_cases commits : life.store.synchronousCommit = true
      · rw [if_pos commits] at goesOn ⊢
        exact goesOn _ _ (comes_of_register (stages_advance_self ..))
      · rw [if_neg commits] at goesOn ⊢
        cases relaxes : Database.execute first connection asynchronousStatement [] with
        | mk relaxed second =>
          cases relaxed with
          | error failure =>
            exact goesOn _ _
              (comes_of_relax (stages_advance_self ..) (.error failure) second relaxes)
          | ok reply =>
            exact goesOn _ _ (comes_of_relax (stages_advance_self ..) (.ok reply) second relaxes)

/-- A caller without a usable connection gets a new one. -/
theorem comes_of_connect {call : RowCall} (here : life.stages caller = .connect call)
    (live : life.store.liveSession? caller = none) :
    life.Comes caller (life.store.connection caller).2
      (call.proceed (life.store.connection caller).1) := by
  refine comes_of_act _ here rfl ?_
  rw [act, SessionStore.connection, live]
  cases opens : Database.connect life.store.server life.store.dsn true with
  | mk answer first =>
    cases answer with
    | error failure => exact advance_comes _
    | ok connection =>
      have prepared := comes_of_quiet ((life.onServer first).advance caller
        [.connects (.ok connection), .looks (some (connection, Database.isClosed first connection))]
        (.quiet call connection)) (stages_advance_self ..)
      change match SessionStore.prepare first connection life.store.synchronousCommit with
        | (.error failure, server) => _
        | (.ok _, server) => _ at prepared
      dsimp only
      cases prepares : SessionStore.prepare first connection life.store.synchronousCommit with
      | mk settled second =>
        rw [prepares] at prepared
        cases settled with
        | error failure => exact prepared
        | ok _ => exact prepared

/-- A caller uses the connection that it has, or gets a new one. -/
theorem comes_of_lookUp {call : RowCall} (here : life.stages caller = .lookUp call) :
    life.Comes caller (life.store.connection caller).2
      (call.proceed (life.store.connection caller).1) := by
  refine comes_of_act _ here rfl ?_
  rw [act]
  cases live : life.store.liveSession? caller with
  | some connection =>
    rw [SessionStore.connection, live]
    exact advance_comes _
  | none => exact comes_of_connect (stages_advance_self ..) live

/-- With a connection a call does what it is there for. -/
theorem comes_of_serve {call : RowCall} {connection : Nat}
    (here : life.stages caller = call.serve connection) :
    life.Comes caller (call.answer life.store connection).2
      (.ended (call.answer life.store connection).1) := by
  cases call with
  | write key columns => exact comes_of_begin here
  | read key =>
    refine comes_of_act (.select key connection) here rfl ?_
    rw [act]
    cases selects : Database.execute life.store.server connection life.store.table.selectStatement
        [key] with
    | mk answer server =>
      refine comes_of_ask _ _ selects ?_
      rw [RowCall.answer, selects]
      exact advance_comes _

/-- Connections are closed one after another, up to the first that is refused. -/
theorem comes_of_close {connections : List Nat} (here : life.stages caller = .close connections) :
    life.Comes caller
      { life.store with server := (SessionStore.closeAll life.store.server connections).2 }
      (.ended ((SessionStore.closeAll life.store.server connections).1.map fun _ => none)) := by
  induction connections generalizing life with
  | nil =>
    refine comes_of_act _ here rfl ?_
    exact advance_comes _
  | cons connection rest inductionHypothesis =>
    refine comes_of_act _ here rfl ?_
    rw [act, SessionStore.closeAll]
    cases closes : Database.close life.store.server connection with
    | mk closed server =>
      refine comes_of_ask _ _ (by rw [Demand.ask, closes]) ?_
      cases closed with
      | error failure => exact advance_comes _
      | ok _ => exact inductionHypothesis (stages_advance_self ..)

/-- A caller who is followed by a further way comes to where that leads. -/
theorem Comes.trans {middle : SessionStore Server} {now : CallStage}
    (first : life.Comes caller middle now)
    (second : ∀ next : SessionLife Server, next.store = middle → next.stages caller = now →
      next.Comes caller store stage) :
    life.Comes caller store stage := by
  obtain ⟨steps, next, ran, sameStore, sameStages⟩ := first
  obtain ⟨further, final, went, lastStore, lastStages⟩ :=
    second next sameStore (by rw [sameStages, Function.update_self])
  refine ⟨steps + further, final, ?_, lastStore, ?_⟩
  · rw [List.replicate_add, replay_append, ran]
    exact went
  · rw [lastStages, sameStages, Function.update_idem]

/-- A call that nobody interrupts is the call of the store. -/
theorem comes_of_perform (life : SessionLife Server) (call : RowCall)
    (here : life.stages caller = .lookUp call) :
    ∃ result, call.tell result = (call.perform life.store caller).1 ∧
      life.Comes caller (call.perform life.store caller).2 (.ended result) := by
  have looked := comes_of_lookUp here
  cases connects : life.store.connection caller with
  | mk answer next =>
    rw [connects] at looked
    cases answer with
    | error failure =>
      rw [RowCall.perform_of_error call failure connects]
      exact ⟨_, rfl, looked⟩
    | ok connection =>
      rw [RowCall.perform_of_ok call connection connects]
      refine ⟨_, rfl, looked.trans ?_⟩
      rintro later rfl there
      exact comes_of_serve there

/-- A close that nobody interrupts is the close of the store. -/
theorem comes_of_release (life : SessionLife Server) (here : life.stages caller = .release) :
    life.Comes caller life.store.close.2 (.ended (life.store.close.1.map fun _ => none)) :=
  comes_of_act _ here rfl (comes_of_close (stages_advance_self ..))

end Alone

/-- What a caller does that nobody interrupts is what the store does at once. -/
structure Uninterrupted (life : SessionLife Server) (caller : Caller) : Prop where
  call : ∀ call : RowCall, ∃ steps final result,
    replay step life (.call caller call :: List.replicate steps (.work caller)) = some final ∧
      (call.tell result, final.store) = call.perform life.store caller ∧
      final.stages = Function.update life.stages caller (.ended result)
  close : ∃ steps final,
    replay step life (.close caller :: List.replicate steps (.work caller)) = some final ∧
      final.store = life.store.close.2 ∧
      final.stages = Function.update life.stages caller
        (.ended (life.store.close.1.map fun _ => none))

/-- A caller who is in no call can call the store, and close it. -/
theorem uninterrupted (life : SessionLife Server) (caller : Caller)
    (idle : (life.stages caller).isEnded = true) : life.Uninterrupted caller where
  call call := by
    obtain ⟨result, told, steps, final, ran, sameStore, sameStages⟩ :=
      (life.advance caller [] (.lookUp call)).comes_of_perform call (stages_advance_self ..)
    refine ⟨steps, final, result, ?_, Prod.ext told sameStore, ?_⟩
    · rw [replay, step, idle]
      exact ran
    · rw [sameStages]
      exact Function.update_idem ..
  close := by
    obtain ⟨steps, final, ran, sameStore, sameStages⟩ :=
      (life.advance caller [] .release).comes_of_release (stages_advance_self ..)
    refine ⟨steps, final, ?_, sameStore, ?_⟩
    · rw [replay, step, idle]
      exact ran
    · rw [sameStages]
      exact Function.update_idem ..

end SessionLife

end LoadVerifier
