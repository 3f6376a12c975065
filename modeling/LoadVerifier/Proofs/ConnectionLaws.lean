/-
This file says what can be relied on about the connections of a database, whatever it refuses. A new
connection is one that was never given out before, and it is open. What was given out stays so, and
what is closed stays closed, through every request on a connection that was given out. No more is
said of when a connection breaks: any request may close any connection, and a refusal leaves open
what was done.

A database that closes for certain grants in addition every request to close, and the connection is
closed then. The database in memory keeps all of this as long as its script refuses no close.
-/
import LoadVerifier.Database.Scripted
import LoadVerifier.Store.Session

namespace LoadVerifier

/-! ### Requests on a connection -/

/-- A request on a connection. -/
inductive Demand
  | execute (connection : Nat) (statement : Statement) (parameters : List Int)
  | executeMany (connection : Nat) (statement : Statement) (rows : List CellRow)
  | begin (connection : Nat)
  | commit (connection : Nat)
  | rollback (connection : Nat)
  | close (connection : Nat)

namespace Demand

/-- The connection that a request is made on. -/
def connection : Demand → Nat
  | .execute connection _ _ | .executeMany connection _ _ | .begin connection
  | .commit connection | .rollback connection | .close connection => connection

/-- Whether a request uses its connection. Closing it is no use of it. -/
def isUse : Demand → Bool
  | .close _ => false
  | _ => true

/-- Whether a request is a statement without parameters, as those are that prepare a connection. -/
def isSetting : Demand → Bool
  | .execute _ _ [] => true
  | _ => false

/-- An answer without a value, as one to any request. -/
def plain {Server : Type} : Except DatabaseFailure Unit × Server →
    Except DatabaseFailure DatabaseReply × Server
  | (.error failure, server) => (.error failure, server)
  | (.ok _, server) => (.ok .done, server)

/-- Asks a database for something, and gives its answer and the database after it. -/
def ask {Server : Type} [Database Server] (server : Server) :
    Demand → Except DatabaseFailure DatabaseReply × Server
  | .execute connection statement parameters =>
    Database.execute server connection statement parameters
  | .executeMany connection statement rows =>
    plain (Database.executeMany server connection statement rows)
  | .begin connection => plain (Database.begin server connection)
  | .commit connection => plain (Database.commit server connection)
  | .rollback connection => plain (Database.rollback server connection)
  | .close connection => plain (Database.close server connection)

theorem plain_snd {Server : Type} (answered : Except DatabaseFailure Unit × Server) :
    (plain answered).2 = answered.2 := by
  obtain ⟨answer, server⟩ := answered
  cases answer <;> rfl

end Demand

/-! ### Laws -/

section Laws

variable {Server : Type} [Database Server]

/-- A database is later than another: it is sound, and it has the connections given out that the
other one has, and the closed ones among them still closed. -/
structure Later (sound : Server → Prop) (given : Server → Nat → Prop) (server after : Server) :
    Prop where
  sound : sound after
  given : ∀ connection, given server connection → given after connection
  closed : ∀ connection, Database.isClosed server connection = true →
    Database.isClosed after connection = true

theorem Later.refl {sound : Server → Prop} {given : Server → Nat → Prop} {server : Server}
    (isSound : sound server) : Later sound given server server :=
  ⟨isSound, fun _ before => before, fun _ before => before⟩

/-- A sound database numbers its connections: each new one is open and was not given out before. -/
structure ConnectionLaws (sound : Server → Prop) (given : Server → Nat → Prop) : Prop where
  connect : ∀ server dsn autocommit, sound server →
    Later sound given server (Database.connect server dsn autocommit).2
  fresh : ∀ server after dsn autocommit connection, sound server →
    Database.connect server dsn autocommit = (.ok connection, after) →
      ¬given server connection ∧ given after connection ∧
        Database.isClosed after connection = false
  ask : ∀ server (demand : Demand), sound server → given server demand.connection →
    Later sound given server (demand.ask server).2

/-- A sound database closes what it is asked to close. -/
structure ClosingLaws (sound : Server → Prop) (given : Server → Nat → Prop) : Prop
    extends ConnectionLaws sound given where
  close : ∀ server connection, sound server → given server connection →
    ∃ after, Database.close server connection = (.ok (), after) ∧
      Database.isClosed after connection = true

variable {sound : Server → Prop} {given : Server → Nat → Prop} {server : Server}

theorem Later.trans {between after : Server} (first : Later sound given server between)
    (second : Later sound given between after) : Later sound given server after where
  sound := second.sound
  given connection before := second.given connection (first.given connection before)
  closed connection before := second.closed connection (first.closed connection before)

/-- Preparing a connection is two requests on it. -/
theorem ConnectionLaws.prepare (laws : ConnectionLaws sound given) (isSound : sound server)
    (connection : Nat) (isGiven : given server connection) (synchronousCommit : Bool) :
    Later sound given server
      (SessionStore.prepare server connection synchronousCommit).2 := by
  have quiets := laws.ask server (.execute connection quietStatement []) isSound isGiven
  rw [Demand.ask] at quiets
  rw [SessionStore.prepare]
  cases quiet : Database.execute server connection quietStatement [] with
  | mk answer first =>
    rw [quiet] at quiets
    cases answer with
    | error failure => exact quiets
    | ok _ =>
      have relaxes := laws.ask first (.execute connection asynchronousStatement []) quiets.sound
        (quiets.given connection isGiven)
      rw [Demand.ask] at relaxes
      cases synchronousCommit with
      | true => exact quiets
      | false =>
        dsimp only
        cases relax : Database.execute first connection asynchronousStatement [] with
        | mk answer second =>
          rw [relax] at relaxes
          cases answer <;> exact quiets.trans relaxes

/-- Everything that was given out can be closed, one after another. -/
theorem ClosingLaws.closeAll (laws : ClosingLaws sound given) (isSound : sound server)
    (connections : List Nat) (isGiven : ∀ connection ∈ connections, given server connection) :
    ∃ after, SessionStore.closeAll server connections = (.ok (), after) ∧
      Later sound given server after ∧
        ∀ connection ∈ connections, Database.isClosed after connection = true := by
  induction connections generalizing server with
  | nil => exact ⟨server, rfl, .refl isSound, List.forall_mem_nil _⟩
  | cons connection rest inductionHypothesis =>
    obtain ⟨first, closes, isClosed⟩ :=
      laws.close server connection isSound (isGiven connection List.mem_cons_self)
    have later := laws.ask server (.close connection) isSound
      (isGiven connection List.mem_cons_self)
    rw [Demand.ask, Demand.plain_snd, closes] at later
    obtain ⟨after, closesRest, laterStill, allClosed⟩ := inductionHypothesis later.sound
      fun other member => later.given other (isGiven other (List.mem_cons_of_mem _ member))
    refine ⟨after, ?_, later.trans laterStill, ?_⟩
    · rw [SessionStore.closeAll, closes]
      exact closesRest
    · exact List.forall_mem_cons.mpr ⟨laterStill.closed connection isClosed, allClosed⟩

end Laws

/-! ### The database in memory -/

namespace ScriptedDatabase

/-- The connections that were given out. -/
def Given (database : ScriptedDatabase) (connection : Nat) : Prop :=
  connection ≤ database.connections

/-- The script refuses no close, and only connections that were given out are closed. -/
structure Closing (database : ScriptedDatabase) : Prop where
  granted : ∀ fault ∈ database.faults, fault.kind ≠ .close
  closed : ∀ connection ∈ database.closed, connection ≤ database.connections

/-- A database with the connections and the script of another one. -/
structure SameConnections (database after : ScriptedDatabase) : Prop where
  connections : after.connections = database.connections
  closed : after.closed = database.closed
  faults : after.faults = database.faults

variable {database after : ScriptedDatabase}

theorem isClosed_iff (connection : Nat) :
    Database.isClosed database connection = true ↔ connection ∈ database.closed :=
  List.contains_iff_mem

theorem kind_countDown (kind : RequestKind) (fault : Fault) :
    (fault.countDown kind).kind = fault.kind := by
  rw [Fault.countDown]
  split <;> rfl

theorem later_of_subset (closing : after.Closing)
    (connections : database.connections ≤ after.connections)
    (closed : ∀ connection ∈ database.closed, connection ∈ after.closed) :
    Later Closing Given database after where
  sound := closing
  given _ before := Nat.le_trans before connections
  closed connection before := by
    rw [isClosed_iff] at before ⊢
    exact closed connection before

theorem Closing.note (closing : database.Closing) (request : Request) :
    (database.note request).2.Closing where
  granted fault member := by
    obtain ⟨before, among, rfl⟩ := List.mem_map.mp member
    rw [kind_countDown]
    exact closing.granted before among
  closed := closing.closed

theorem Closing.markClosed (closing : database.Closing) (connection : Nat)
    (given : database.Given connection) : (database.markClosed connection).Closing where
  granted := closing.granted
  closed := List.forall_mem_cons.mpr ⟨given, closing.closed⟩

theorem Closing.same (closing : database.Closing) (same : database.SameConnections after) :
    after.Closing where
  granted fault member := closing.granted fault (same.faults ▸ member)
  closed connection member := by
    rw [same.connections]
    exact closing.closed connection (same.closed ▸ member)

/-- A request that is carried out without closing or giving out anything may still break its
connection. -/
theorem later_submit {Value : Type} (closing : database.Closing) (request : Request)
    (carryOut : ScriptedDatabase → Value × ScriptedDatabase)
    (same : ∀ noted : ScriptedDatabase, noted.SameConnections (carryOut noted).2)
    (given : database.Given request.connection) :
    Later Closing Given database (database.submit request carryOut).2 := by
  have noted := closing.note request
  rw [submit]
  split
  · rename_i fault after refused
    obtain rfl : (database.note request).2 = after := congrArg Prod.snd refused
    dsimp only
    split
    · exact later_of_subset (noted.markClosed _ given) Nat.le.refl
        fun _ member => List.mem_cons_of_mem _ member
    · exact later_of_subset noted Nat.le.refl fun _ member => member
  · rename_i after granted
    obtain rfl : (database.note request).2 = after := congrArg Prod.snd granted
    have kept := same (database.note request).2
    exact later_of_subset (noted.same kept) (Nat.le_of_eq kept.connections.symm)
      fun _ member => kept.closed ▸ member

theorem sameConnections_run (statement : String) (parameters : List Int)
    (database : ScriptedDatabase) :
    database.SameConnections (run statement parameters database).2 := by
  rw [run]
  split
  · exact ⟨rfl, rfl, rfl⟩
  · split
    · exact ⟨rfl, rfl, rfl⟩
    · split <;> exact ⟨rfl, rfl, rfl⟩

/-- A close is granted when the script refuses none. -/
theorem close_eq (closing : database.Closing) (connection : Nat) :
    Database.close database connection =
      (.ok (), (database.note (.close connection)).2.markClosed connection) := by
  have due : (database.note (.close connection)).1 = none := by
    refine List.find?_eq_none.mpr fun fault member => ?_
    have other := closing.granted fault member
    simp [Request.kind, other]
  change submitUnbroken database (.close connection)
    (fun noted => ((), noted.markClosed connection)) = _
  rw [submitUnbroken]
  split
  · rename_i fault after refused
    rw [refused] at due
    cases due
  · rename_i after granted
    rw [granted]

/-- A new connection has the next number, whether it is granted or not. -/
theorem connect_eq (database : ScriptedDatabase) (dsn : String) (autocommit : Bool) :
    ∃ request, (Database.connect database dsn autocommit).2 =
        ({ database with connections := database.connections + 1 }.note request).2 ∧
      ∀ connection, (Database.connect database dsn autocommit).1 = .ok connection →
        connection = database.connections + 1 := by
  refine ⟨.connect (database.connections + 1) dsn autocommit, ?_⟩
  change (submitUnbroken _ _ _).2 = _ ∧ ∀ _, (submitUnbroken _ _ _).1 = _ → _
  rw [submitUnbroken]
  split
  · rename_i fault after refused
    rw [refused]
    refine ⟨rfl, fun connection equal => ?_⟩
    cases equal
  · rename_i after granted
    rw [granted]
    exact ⟨rfl, fun _ equal => (Except.ok.inj equal).symm⟩

theorem later_connect (closing : database.Closing) (dsn : String) (autocommit : Bool) :
    Later Closing Given database (Database.connect database dsn autocommit).2 := by
  obtain ⟨request, equal, _⟩ := database.connect_eq dsn autocommit
  have more : ({ database with connections := database.connections + 1 } :
      ScriptedDatabase).Closing :=
    ⟨closing.granted, fun connection member => Nat.le_succ_of_le (closing.closed connection member)⟩
  rw [equal]
  exact later_of_subset (more.note request) (Nat.le_succ _) fun _ member => member

theorem fresh_connect (closing : database.Closing) (dsn : String) (autocommit : Bool)
    (connection : Nat)
    (connects : Database.connect database dsn autocommit = (.ok connection, after)) :
    ¬database.Given connection ∧ after.Given connection ∧
      Database.isClosed after connection = false := by
  obtain ⟨request, equal, next⟩ := database.connect_eq dsn autocommit
  rw [connects] at equal next
  obtain rfl := next connection rfl
  obtain rfl : after = _ := equal
  refine ⟨Nat.not_succ_le_self _, Nat.le.refl, Bool.eq_false_iff.mpr fun isClosed => ?_⟩
  have old := closing.closed _ ((isClosed_iff _).mp isClosed)
  exact Nat.not_succ_le_self _ old

theorem closingLaws : ClosingLaws Closing Given where
  connect _ dsn autocommit closing := later_connect closing dsn autocommit
  fresh _ _ dsn autocommit connection closing connects :=
    fresh_connect closing dsn autocommit connection connects
  ask server demand closing given := by
    cases demand with
    | execute connection statement parameters =>
      exact later_submit closing _ _ (sameConnections_run _ _) given
    | executeMany connection statement rows =>
      rw [Demand.ask, Demand.plain_snd]
      exact later_submit closing _ _ (fun _ => ⟨rfl, rfl, rfl⟩) given
    | begin connection =>
      rw [Demand.ask, Demand.plain_snd]
      exact later_submit closing _ _ (fun _ => ⟨rfl, rfl, rfl⟩) given
    | commit connection =>
      rw [Demand.ask, Demand.plain_snd]
      exact later_submit closing _ _ (fun _ => ⟨rfl, rfl, rfl⟩) given
    | rollback connection =>
      rw [Demand.ask, Demand.plain_snd]
      exact later_submit closing _ _ (fun _ => ⟨rfl, rfl, rfl⟩) given
    | close connection =>
      rw [Demand.ask, Demand.plain_snd, close_eq closing]
      exact later_of_subset ((closing.note _).markClosed _ given) Nat.le.refl
        fun _ member => List.mem_cons_of_mem _ member
  close server connection closing given :=
    ⟨_, close_eq closing connection, (isClosed_iff connection).mpr List.mem_cons_self⟩

/-- A connection breaks by itself, if it was given out. -/
def breakConnection (connection : Nat) (database : ScriptedDatabase) : ScriptedDatabase :=
  if connection ≤ database.connections then database.markClosed connection else database

theorem later_breakConnection (connection : Nat) (closing : database.Closing) :
    Later Closing Given database (breakConnection connection database) := by
  rw [breakConnection]
  split
  · rename_i given
    exact later_of_subset (closing.markClosed connection given) Nat.le.refl
      fun _ member => List.mem_cons_of_mem _ member
  · exact .refl closing

end ScriptedDatabase

end LoadVerifier
