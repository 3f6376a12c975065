/-
This file brings writers and readers into sessions: what a call on one of them gives and what it
leaves, and that both keep the rules of a session.

The calls are the methods, statement by statement, and a refused one changes nothing. Before the
start an engine is always a new one that was told what the last accepted calls have told it, so the
start begins with exactly these settings. After the start whatever would change them is refused, and
the workers change nothing but their counts.

A reader is linked to a writer by name, and it asks that writer, however far it is by then.
-/
import LoadVerifier.Proofs.Sessions

namespace LoadVerifier

theorem Pool.started_eq_isSome_range? {State Task : Type} (pool : Pool State Task) :
    pool.started = pool.range?.isSome := by
  rw [started, range?, Option.isSome_map]

variable {Storage : Type} [Store Storage]

/-! ### The calls on a writer -/

/-- The calls on a writer. -/
inductive WriterCall
  | configure (multiPut : Bool) (minColumns maxColumns minSize maxSize : Int)
  | start (range : KeyRange) (threads : Int) (now : Float)
  | stop
  | wait

namespace WriterCall

/-- Whether a call sets the writer up or starts it. -/
def prepares : WriterCall → Bool
  | .configure .. | .start .. => true
  | .stop | .wait => false

def starts : WriterCall → Bool
  | .start .. => true
  | .configure .. | .stop | .wait => false

/-- Whether the writer was asked to stop. -/
def stopped (calls : List (WriterCall × Reply WriteResult)) : Bool :=
  calls.any fun
    | (.stop, _) => true
    | (.configure .., _) | (.start .., _) | (.wait, _) => false

end WriterCall

/-- What a writer is told when it is configured. -/
structure WriterSetting where
  multiPut : Bool
  minColumns : Int
  maxColumns : Int
  minSize : Int
  maxSize : Int

namespace WriterSetting

/-- The bounds of a setting, or why there are none. -/
def bounds (setting : WriterSetting) : Except ConfigError Bounds :=
  Bounds.make setting.minColumns setting.maxColumns setting.minSize setting.maxSize

/-- The setting of an accepted configuration. -/
def ofCall? : WriterCall × Reply WriteResult → Option WriterSetting
  | (.configure multiPut minColumns maxColumns minSize maxSize, .ok _) =>
    some ⟨multiPut, minColumns, maxColumns, minSize, maxSize⟩
  | _ => none

end WriterSetting

namespace Writer

/-- What a call gives, and the writer after it; `none` as long as a wait has to go on. -/
def perform (writer : Writer) : WriterCall → Option (Reply WriteResult × Writer)
  | .configure multiPut minColumns maxColumns minSize maxSize =>
    some (Method.reply
      ((configureMethod multiPut minColumns maxColumns minSize maxSize).call writer))
  | .start range threads now => some (Method.reply ((startMethod range threads now).call writer))
  | .stop => some (.ok none, writer.stop)
  | .wait => writer.wait.map fun waited => (waited.map some, writer)

/-- What the workers of a writer go by, and how many they are. -/
def settings (writer : Writer) : Option Bounds × Bool × Option KeyRange × Nat :=
  (writer.state.bounds, writer.state.multiPut, writer.range?, writer.workerCount)

/-- Writers as engines. -/
def kind : EngineKind Writer Storage WriterCall WriteResult
    (Option Bounds × Bool × Option KeyRange × Nat) where
  perform := perform
  work writer store worker :=
    (writer.step store worker).map fun (writer, store, _) => (writer, store)
  prepares := WriterCall.prepares
  starts := WriterCall.starts
  started := Pool.started
  settings := settings

theorem perform_configure (writer : Writer) (multiPut : Bool)
    (minColumns maxColumns minSize maxSize : Int) :
    writer.perform (.configure multiPut minColumns maxColumns minSize maxSize) =
      some (Method.reply (Method.atOnce writer
        (writer.configure multiPut minColumns maxColumns minSize maxSize))) := by
  rw [perform, call_configureMethod]

theorem perform_start (writer : Writer) (range : KeyRange) (threads : Int) (now : Float) :
    writer.perform (.start range threads now) =
      some (Method.reply (Method.atOnce writer (writer.start range threads now))) := by
  rw [perform, call_startMethod]

/-- A call that fails leaves the writer as it was. -/
theorem eq_of_perform_eq_error (writer next : Writer) (call : WriterCall) (failure : Failure)
    (failed : writer.perform call = some (.error failure, next)) : next = writer := by
  cases call with
  | configure multiPut minColumns maxColumns minSize maxSize =>
    rw [perform_configure] at failed
    exact Method.reply_atOnce_eq_error writer next _ failure (Option.some.inj failed)
  | start range threads now =>
    rw [perform_start] at failed
    exact Method.reply_atOnce_eq_error writer next _ failure (Option.some.inj failed)
  | stop => cases failed
  | wait =>
    obtain ⟨waited, _, equal⟩ := Option.map_eq_some_iff.mp failed
    exact (Prod.mk.inj equal).2.symm

theorem start_of_perform (writer next : Writer) (range : KeyRange) (threads : Int) (now : Float)
    (answer : Option WriteResult)
    (accepted : writer.perform (.start range threads now) = some (.ok answer, next)) :
    writer.start range threads now = .ok next := by
  rw [perform_start] at accepted
  exact Method.reply_atOnce_eq_ok writer next _ answer (Option.some.inj accepted)

theorem started_of_perform (writer next : Writer) (call : WriterCall)
    (answer : Option WriteResult) (starts : call.starts = true)
    (accepted : writer.perform call = some (.ok answer, next)) : Pool.started next = true := by
  cases call with
  | start range threads now =>
    rw [(start_eq_ok _ _ _ _ _ (start_of_perform _ _ _ _ _ answer accepted)).2]
    rfl
  | configure => cases starts
  | stop => cases starts
  | wait => cases starts

/-- A writer that can be started has no range yet, and has bounds. -/
theorem ready_of_start (writer next : Writer) (range : KeyRange) (threads : Int) (now : Float)
    (started : writer.start range threads now = .ok next) :
    Pool.started writer = false ∧ ∃ bounds, writer.state.bounds = some bounds := by
  rw [start_eq_parts] at started
  cases begun : writer.begin? range threads with
  | error error => rw [begun] at started; cases started
  | ok ranged =>
    refine ⟨?_, (begin?_eq_ok _ _ _ _ begun).1⟩
    rw [begin?] at begun
    split at begun
    · cases begun
    · exact (Pool.begin_eq_ok _ _ _ _ _ begun).1

/-- A writer that is started refuses to be set up. -/
theorem perform_of_started (writer : Writer) (call : WriterCall)
    (started : Pool.started writer = true) (prepares : call.prepares = true) :
    ∃ error, writer.perform call = some (.error (.config error), writer) := by
  cases call with
  | configure multiPut minColumns maxColumns minSize maxSize =>
    refine ⟨.configuredLate poolName, ?_⟩
    rw [perform_configure, configure]
    simp only [started, if_true]
    rfl
  | start range threads now =>
    rw [perform_start]
    cases ended : writer.start range threads now with
    | error error => exact ⟨error, rfl⟩
    | ok next =>
      have unstarted := (ready_of_start _ _ _ _ _ ended).1
      exact Bool.noConfusion (started.symm.trans unstarted)
  | stop => cases prepares
  | wait => cases prepares

/-- The workers change nothing that they go by. -/
theorem settings_of_step (writer next : Writer) (store after : Storage) (worker : Nat)
    (notices : List Notice) (stepped : writer.step store worker = some (next, after, notices)) :
    next.settings = writer.settings := by
  have change := WriterLife.change_of_work ⟨writer, store, {}⟩ ⟨next, after, _⟩ worker
    (by rw [WriterLife.work, stepped]; rfl)
  obtain ⟨before, arrived, moved⟩ := change.moved
  rw [settings, settings, change.settings_eq.1, change.settings_eq.2, change.range?_eq,
    moved.workerCount_eq]

/-- A writer with the settings of a started one is started. -/
theorem settled_of_settings (writer next : Writer) (started : Pool.started writer = true)
    (same : next.settings = writer.settings) :
    Pool.started next = true ∧ next.settings = writer.settings := by
  have ranged : next.range? = writer.range? := congrArg (·.2.2.1) same
  rw [Pool.started_eq_isSome_range?] at started ⊢
  exact ⟨ranged ▸ started, same⟩

theorem lawful : (@kind Storage _).Lawful where
  eq_of_error := eq_of_perform_eq_error
  started_of_start := started_of_perform
  refused_of_started := perform_of_started
  settled_of_call writer next call reply started unprepared performed := by
    refine settled_of_settings writer next started ?_
    cases call with
    | stop =>
      rw [← (Prod.mk.inj (Option.some.inj performed)).2]
      rfl
    | wait =>
      obtain ⟨waited, _, equal⟩ := Option.map_eq_some_iff.mp performed
      rw [(Prod.mk.inj equal).2]
    | configure => cases unprepared
    | start => cases unprepared
  settled_of_work writer next store after worker started worked := by
    obtain ⟨⟨other, world, notices⟩, took, equal⟩ := Option.map_eq_some_iff.mp worked
    cases equal
    exact settled_of_settings _ _ started (settings_of_step _ _ _ _ worker notices took)

/-- A writer that was told a setting, if it was, and asked to stop, if it was, and nothing else. -/
def prepared (calls : List (WriterCall × Reply WriteResult)) : Writer where
  shared := { stopRequested := WriterCall.stopped calls }
  state := {
    bounds := (latest? WriterSetting.ofCall? calls).bind (·.bounds.toOption)
    multiPut := (latest? WriterSetting.ofCall? calls).any (·.multiPut) }

end Writer

/-! ### The calls on a reader -/

/-- The calls on a reader; a link names the writer. -/
inductive ReaderCall
  | configure (verifyPercent maxErrors keyWindow : Int)
  | link (writer : Nat)
  | start (range : KeyRange) (threads : Int) (now : Float)
  | stop
  | wait

namespace ReaderCall

/-- Whether a call sets the reader up or starts it. -/
def prepares : ReaderCall → Bool
  | .configure .. | .link _ | .start .. => true
  | .stop | .wait => false

def starts : ReaderCall → Bool
  | .start .. => true
  | .configure .. | .link _ | .stop | .wait => false

/-- Whether the reader was asked to stop. -/
def stopped (calls : List (ReaderCall × Reply ReadResult)) : Bool :=
  calls.any fun
    | (.stop, _) => true
    | (.configure .., _) | (.link _, _) | (.start .., _) | (.wait, _) => false

/-- The writer of an accepted link. -/
def linked? : ReaderCall × Reply ReadResult → Option Nat
  | (.link writer, .ok _) => some writer
  | _ => none

end ReaderCall

/-- What a reader is told when it is configured, and what it goes by when it is not. -/
structure ReaderSetting where
  verifyPercent : Int := 0
  maxErrors : Int := defaultMaxErrors
  keyWindow : Int := defaultKeyWindow

namespace ReaderSetting

/-- The setting of an accepted configuration. -/
def ofCall? : ReaderCall × Reply ReadResult → Option ReaderSetting
  | (.configure verifyPercent maxErrors keyWindow, .ok _) =>
    some ⟨verifyPercent, maxErrors, keyWindow⟩
  | _ => none

/-- What a reader with these bounds and this seed is to do with a range. -/
def plan (setting : ReaderSetting) (bounds : Bounds) (seed : Given Int) (range : KeyRange) :
    ReadPlan :=
  ⟨bounds, seed, setting.verifyPercent, setting.maxErrors, setting.keyWindow, range⟩

end ReaderSetting

/-- A store, and the writers that a reader may be linked to. -/
structure ReaderSurroundings (Storage Source : Type) where
  store : Storage
  writers : Nat → Source

namespace LinkableReader

variable {Source : Type} [WatermarkSource Source]

/-- Applies a change to the reader and leaves the link alone. -/
def withReader (engine : LinkableReader) {Answer : Type} (changed : Answer × Reader) :
    Answer × LinkableReader :=
  (changed.1, { engine with reader := changed.2 })

/-- What a call gives, and the reader after it; `none` as long as a wait has to go on. -/
def perform (engine : LinkableReader) : ReaderCall → Option (Reply ReadResult × LinkableReader)
  | .configure verifyPercent maxErrors keyWindow =>
    some (engine.withReader (Method.reply
      ((Reader.configureMethod verifyPercent maxErrors keyWindow).call engine.reader)))
  | .link writer => some (Method.reply ((linkMethod writer).call engine))
  | .start range threads now =>
    some (engine.withReader (Method.reply
      ((Reader.startMethod range threads now).call engine.reader)))
  | .stop => some (.ok none, { engine with reader := engine.reader.stop })
  | .wait => engine.reader.wait.map fun waited => (waited.map some, engine)

/-- What a reader works on: the store, and the writer that it is linked to. -/
def world (engine : LinkableReader) (around : ReaderSurroundings Storage Source) :
    ReaderWorld Storage Source :=
  ⟨around.store, engine.link?.map around.writers⟩

/-- The surroundings after a step of a worker, which may have asked the linked writer. -/
def surroundings (engine : LinkableReader) (around : ReaderSurroundings Storage Source)
    (world : ReaderWorld Storage Source) : ReaderSurroundings Storage Source where
  store := world.store
  writers := match engine.link?, world.source with
    | some writer, some source => Function.update around.writers writer source
    | _, _ => around.writers

/-- What the workers of a reader go by, and how many they are. -/
def settings (engine : LinkableReader) : ReaderState × Option KeyRange × Nat × Option Nat :=
  ({ engine.reader.state with tally := {}, aborted := false }, engine.reader.range?,
    engine.reader.workerCount, engine.link?)

/-- Readers as engines. -/
def kind : EngineKind LinkableReader (ReaderSurroundings Storage Source) ReaderCall ReadResult
    (ReaderState × Option KeyRange × Nat × Option Nat) where
  perform := perform
  work engine around worker :=
    (engine.reader.step (engine.world around) worker).map fun (reader, world, _) =>
      ({ engine with reader }, engine.surroundings around world)
  prepares := ReaderCall.prepares
  starts := ReaderCall.starts
  started engine := Pool.started engine.reader
  settings := settings

theorem perform_configure (engine : LinkableReader) (verifyPercent maxErrors keyWindow : Int) :
    engine.perform (.configure verifyPercent maxErrors keyWindow) =
      some (engine.withReader (Method.reply (Method.atOnce engine.reader
        (engine.reader.configure verifyPercent maxErrors keyWindow)))) := by
  rw [perform, Reader.call_configureMethod]

theorem perform_link (engine : LinkableReader) (writer : Nat) :
    engine.perform (.link writer) = some (Method.reply (Method.atOnce engine
      (engine.reader.checkLink.map fun _ => { engine with link? := some writer }))) := by
  rw [perform, call_linkMethod]

theorem perform_start (engine : LinkableReader) (range : KeyRange) (threads : Int)
    (now : Float) :
    engine.perform (.start range threads now) =
      some (engine.withReader (Method.reply (Method.atOnce engine.reader
        (engine.reader.start range threads now)))) := by
  rw [perform, Reader.call_startMethod]

omit [Store Storage] [WatermarkSource Source] in
theorem withReader_atOnce_eq_error (engine next : LinkableReader)
    (changed : Except ConfigError Reader) (failure : Failure)
    (refused : engine.withReader (Method.reply (Method.atOnce engine.reader changed)) =
      ((.error failure, next) : Reply ReadResult × LinkableReader)) : next = engine := by
  cases changed with
  | ok after => cases refused
  | error error => cases refused; rfl

theorem withReader_atOnce_eq_ok (engine next : LinkableReader)
    (changed : Except ConfigError Reader) (answer : Option ReadResult)
    (accepted : engine.withReader (Method.reply (Method.atOnce engine.reader changed)) =
      (.ok answer, next)) : changed = .ok next.reader ∧ next.link? = engine.link? := by
  cases changed with
  | ok after => cases accepted; exact ⟨rfl, rfl⟩
  | error error => cases accepted

/-- A call that fails leaves the reader and its link as they were. -/
theorem eq_of_perform_eq_error (engine next : LinkableReader) (call : ReaderCall)
    (failure : Failure) (failed : engine.perform call = some (.error failure, next)) :
    next = engine := by
  cases call with
  | configure verifyPercent maxErrors keyWindow =>
    rw [perform_configure] at failed
    exact withReader_atOnce_eq_error engine next _ failure (Option.some.inj failed)
  | link writer =>
    rw [perform_link] at failed
    exact Method.reply_atOnce_eq_error engine next _ failure (Option.some.inj failed)
  | start range threads now =>
    rw [perform_start] at failed
    exact withReader_atOnce_eq_error engine next _ failure (Option.some.inj failed)
  | stop => cases failed
  | wait =>
    obtain ⟨waited, _, equal⟩ := Option.map_eq_some_iff.mp failed
    exact (Prod.mk.inj equal).2.symm

theorem start_of_perform (engine next : LinkableReader) (range : KeyRange) (threads : Int)
    (now : Float) (answer : Option ReadResult)
    (accepted : engine.perform (.start range threads now) = some (.ok answer, next)) :
    engine.reader.start range threads now = .ok next.reader ∧ next.link? = engine.link? := by
  rw [perform_start] at accepted
  exact withReader_atOnce_eq_ok engine next _ answer (Option.some.inj accepted)

theorem started_of_perform (engine next : LinkableReader) (call : ReaderCall)
    (answer : Option ReadResult) (starts : call.starts = true)
    (accepted : engine.perform call = some (.ok answer, next)) :
    Pool.started next.reader = true := by
  cases call with
  | start range threads now =>
    obtain ⟨ended, _⟩ := start_of_perform _ _ _ _ _ answer accepted
    rw [(Reader.start_eq_ok _ _ _ _ _ ended).2.2]
    rfl
  | configure => cases starts
  | link => cases starts
  | stop => cases starts
  | wait => cases starts

/-- A reader that is started refuses to be set up. -/
theorem perform_of_started (engine : LinkableReader) (call : ReaderCall)
    (started : Pool.started engine.reader = true) (prepares : call.prepares = true) :
    ∃ error, engine.perform call = some (.error (.config error), engine) := by
  cases call with
  | configure verifyPercent maxErrors keyWindow =>
    refine ⟨.configuredLate Reader.poolName, ?_⟩
    rw [perform_configure, Reader.configure, if_pos started]
    rfl
  | link writer =>
    refine ⟨.linkedLate, ?_⟩
    rw [perform_link, Reader.checkLink, if_pos started]
    rfl
  | start range threads now =>
    rw [perform_start]
    cases ended : engine.reader.start range threads now with
    | error error => exact ⟨error, rfl⟩
    | ok next =>
      have unstarted := (Reader.start_eq_ok _ _ _ _ _ ended).1
      exact Bool.noConfusion (started.symm.trans unstarted)
  | stop => cases prepares
  | wait => cases prepares

/-- The workers change nothing that they go by. -/
theorem settings_of_step (engine : LinkableReader) (reader : Reader)
    (world after : ReaderWorld Storage Source) (worker : Nat) (notices : List Notice)
    (stepped : engine.reader.step world worker = some (reader, after, notices)) :
    settings { engine with reader } = engine.settings := by
  have change := ReaderAudit.change_of_work ⟨engine.reader, world, {}⟩ ⟨reader, after, _⟩ worker
    (by rw [ReaderAudit.work, stepped]; rfl)
  obtain ⟨before, arrived, moved⟩ := change.moved
  have state := change.settings_eq
  rw [settings, settings, change.range?_eq, moved.workerCount_eq, state]

omit [Store Storage] [WatermarkSource Source] in
/-- A reader with the settings of a started one is started. -/
theorem settled_of_settings (engine next : LinkableReader)
    (started : Pool.started engine.reader = true) (same : next.settings = engine.settings) :
    Pool.started next.reader = true ∧ next.settings = engine.settings := by
  have ranged : next.reader.range? = engine.reader.range? := congrArg (·.2.1) same
  rw [Pool.started_eq_isSome_range?] at started ⊢
  exact ⟨ranged ▸ started, same⟩

theorem lawful : (@kind Storage _ Source _).Lawful where
  eq_of_error := eq_of_perform_eq_error
  started_of_start := started_of_perform
  refused_of_started := perform_of_started
  settled_of_call engine next call reply started unprepared performed := by
    refine settled_of_settings engine next started ?_
    cases call with
    | stop =>
      rw [← (Prod.mk.inj (Option.some.inj performed)).2]
      rfl
    | wait =>
      obtain ⟨waited, _, equal⟩ := Option.map_eq_some_iff.mp performed
      rw [(Prod.mk.inj equal).2]
    | configure => cases unprepared
    | link => cases unprepared
    | start => cases unprepared
  settled_of_work engine next around after worker started worked := by
    obtain ⟨⟨reader, world, notices⟩, took, equal⟩ := Option.map_eq_some_iff.mp worked
    cases equal
    exact settled_of_settings _ _ started (settings_of_step engine _ _ _ worker notices took)

/-- A reader that was told a setting, a writer to link to, and to stop, each if it was, and nothing
else. -/
def prepared (bounds : Bounds) (seed : Given Int) (calls : List (ReaderCall × Reply ReadResult)) :
    LinkableReader :=
  let setting := (latest? ReaderSetting.ofCall? calls).getD {}
  { reader := {
      shared := { stopRequested := ReaderCall.stopped calls }
      state := {
        bounds
        seed
        verifyPercent := setting.verifyPercent
        maxErrors := setting.maxErrors
        keyWindow := setting.keyWindow } }
    link? := latest? ReaderCall.linked? calls }

end LinkableReader

end LoadVerifier
