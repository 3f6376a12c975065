/-
This file follows a reader from its start on: its workers take their steps, somebody may ask it to
stop, and the store and the source of watermarks may be changed by others at any moment.

Beside the reader runs a log of what its workers saw and did about each key: the claim, each answer
of the source, each pause, the read, and the count of an unreachable key. The log is read off the
steps and changes none of them. `Change` says once what a step of a worker can do to the reader, its
surroundings and the log; whatever is proved about readers is proved from it.
-/
import LoadVerifier.Proofs.PoolStep
import LoadVerifier.Reading.Reader

namespace LoadVerifier

open LoadVerifier.Random

/-- What a worker of a reader sees or does about a key. -/
inductive Sight
  | claimed
  | mark (mark : Int)
  | finished (answer : Bool)
  | slept (stopped : Bool)
  | read (verify : Bool)
  | unreachable
  deriving DecidableEq

/-- An entry of the log of a reader. -/
structure ReadNote where
  worker : Nat
  key : Int
  sight : Sight
  deriving DecidableEq

/-- A reader, what it works on, and the log of its workers. -/
structure ReaderLife (Storage Source : Type) where
  reader : Reader
  world : ReaderWorld Storage Source
  log : List ReadNote := []

/-- What can happen in the life of a linked reader. -/
inductive ReaderEvent (Storage Source : Type)
  | work (worker : Nat)
  | stop
  | outside (store : Storage) (source : Source)

/-! ### Starting a reader -/

/-- A reader that takes settings passes them all through its checks. -/
theorem Reader.configure_eq_ok (reader next : Reader) (verifyPercent maxErrors keyWindow : Int)
    (configured : reader.configure verifyPercent maxErrors keyWindow = .ok next) :
    (0 ≤ verifyPercent ∧ verifyPercent ≤ 100) ∧ 0 ≤ maxErrors ∧ 0 ≤ keyWindow ∧
      next = { reader with
        state := { reader.state with verifyPercent, maxErrors, keyWindow } } := by
  unfold Reader.configure at configured
  split at configured
  · cases configured
  · split at configured
    · cases configured
    · rename_i percentOk
      split at configured
      · cases configured
      · rename_i errorsOk
        split at configured
        · cases configured
        · rename_i windowOk
          cases configured
          obtain ⟨percentLow, percentHigh⟩ := not_or.mp percentOk
          exact ⟨⟨not_lt.mp percentLow, not_lt.mp percentHigh⟩, not_lt.mp errorsOk,
            not_lt.mp windowOk, rfl⟩

/-- A reader that is started had no range before, and gets its range and a possible number of
workers. -/
theorem Reader.start_eq_ok (reader next : Reader) (range : KeyRange) (threads : Int) (now : Float)
    (started : reader.start range threads now = .ok next) :
    Pool.started reader = false ∧ (1 ≤ threads ∧ threads ≤ maxThreads) ∧
      next = Pool.spawn { reader with
        shared := { reader.shared with cursor := some (.ofRange range) } } .seed threads now := by
  unfold Reader.start at started
  cases begun : Pool.begin Reader.poolName reader range threads with
  | error error => rw [begun] at started; cases started
  | ok ranged =>
    rw [begun] at started
    cases started
    obtain ⟨unstarted, counted, rfl⟩ := Pool.begin_eq_ok _ _ _ _ _ begun
    exact ⟨unstarted, counted, rfl⟩

/-- What a reader is asked to do: its settings and its range. -/
structure ReadPlan where
  bounds : Bounds
  seed : Given Int
  verifyPercent : Int
  maxErrors : Int
  keyWindow : Int
  range : KeyRange

namespace ReadPlan

/-- A reader that has its settings. -/
def ready (plan : ReadPlan) : Reader where
  state := {
    bounds := plan.bounds
    seed := plan.seed
    verifyPercent := plan.verifyPercent
    maxErrors := plan.maxErrors
    keyWindow := plan.keyWindow }

/-- A reader that has its settings and its range, and no workers yet. -/
def idle (plan : ReadPlan) : Reader :=
  { plan.ready with shared := { cursor := some (.ofRange plan.range) } }

/-- The reader was just started on the plan by this number of workers. -/
def Starts (plan : ReadPlan) (threads : Int) (reader : Reader) : Prop :=
  ∃ ready now,
    (Reader.new plan.bounds plan.seed).configure plan.verifyPercent plan.maxErrors plan.keyWindow =
        .ok ready ∧
      ready.start plan.range threads now = .ok reader

/-- What a reader checks of its settings. -/
structure Possible (plan : ReadPlan) : Prop where
  verifyPercent_nonneg : 0 ≤ plan.verifyPercent
  verifyPercent_le : plan.verifyPercent ≤ 100
  maxErrors_nonneg : 0 ≤ plan.maxErrors
  keyWindow_nonneg : 0 ≤ plan.keyWindow

theorem configure_eq_ok (plan : ReadPlan) (ready : Reader)
    (configured : (Reader.new plan.bounds plan.seed).configure plan.verifyPercent plan.maxErrors
      plan.keyWindow = .ok ready) :
    plan.Possible ∧ ready = plan.ready := by
  obtain ⟨percent, errors, window, rfl⟩ := Reader.configure_eq_ok _ _ _ _ _ configured
  exact ⟨⟨percent.1, percent.2, errors, window⟩, rfl⟩

theorem eq_spawn_of_starts (plan : ReadPlan) (threads : Int) (reader : Reader)
    (starts : plan.Starts threads reader) :
    plan.Possible ∧ (1 ≤ threads ∧ threads ≤ maxThreads) ∧
      ∃ now, reader = plan.idle.spawn .seed threads now := by
  obtain ⟨ready, now, configured, started⟩ := starts
  obtain ⟨possible, rfl⟩ := configure_eq_ok plan ready configured
  obtain ⟨_, counted, rfl⟩ := Reader.start_eq_ok _ _ _ _ _ started
  exact ⟨possible, counted, now, rfl⟩

/-- A reader takes the settings of a plan that passes its checks. -/
theorem configure_new (plan : ReadPlan) (possible : plan.Possible) :
    (Reader.new plan.bounds plan.seed).configure plan.verifyPercent plan.maxErrors plan.keyWindow =
      .ok plan.ready := by
  have unstarted : Pool.started (Reader.new plan.bounds plan.seed) = false := rfl
  unfold Reader.configure
  rw [unstarted, if_neg Bool.false_ne_true,
    if_neg (not_or.mpr ⟨not_lt.mpr possible.1, not_lt.mpr possible.2⟩),
    if_neg (not_lt.mpr possible.3), if_neg (not_lt.mpr possible.4)]
  rfl

/-- A reader that has its settings starts with any possible number of workers. -/
theorem start_ready (plan : ReadPlan) (threads : Int) (now : Float)
    (possible : 1 ≤ threads ∧ threads ≤ maxThreads) :
    plan.ready.start plan.range threads now = .ok (plan.idle.spawn .seed threads now) := by
  have unstarted : Pool.started plan.ready = false := rfl
  unfold Reader.start Pool.begin
  rw [unstarted, if_neg Bool.false_ne_true,
    if_neg (not_or.mpr ⟨not_lt.mpr possible.1, not_lt.mpr possible.2⟩)]
  rfl

/-- It refuses any other number. -/
theorem start_ready_eq_error (plan : ReadPlan) (threads : Int) (now : Float)
    (impossible : ¬(1 ≤ threads ∧ threads ≤ maxThreads)) :
    plan.ready.start plan.range threads now =
      .error (.threadsOutOfRange Reader.poolName threads) := by
  have unstarted : Pool.started plan.ready = false := rfl
  unfold Reader.start Pool.begin
  rw [unstarted, if_neg Bool.false_ne_true, if_pos (by omega)]
  rfl

end ReadPlan

/-- Waiting ends well with the result of a reader whose workers were waited for. -/
theorem Reader.wait_eq_ok (reader : Reader) (result : ReadResult)
    (waited : reader.wait = some (.ok result)) :
    Pool.join poolName reader = some (.ok ()) ∧ result = reader.result := by
  rw [wait, Option.map_eq_some_iff] at waited
  obtain ⟨joined, waits, equal⟩ := waited
  cases joined with
  | error failure => cases equal
  | ok value => exact ⟨waits, (Except.ok.inj equal).symm⟩

namespace ReaderLife

/-- A seed that is not negative gives every worker a stream. -/
theorem streamOf_eq_ok (seed : Int) (worker : Nat) (nonneg : 0 ≤ seed) :
    ∃ stream, Reader.streamOf (.value seed) worker = .ok stream := by
  have sum : ¬seed + (worker : Int) < 0 :=
    not_lt.mpr (add_nonneg nonneg (Int.natCast_nonneg worker))
  obtain ⟨stream, seeded⟩ : ∃ stream, Stream.seeded? [seed + (worker : Int)] = some stream := by
    rw [Stream.seeded?, entropyOf, if_neg sum]
    exact ⟨_, rfl⟩
  refine ⟨stream, ?_⟩
  simp only [Reader.streamOf, Given.need, bind, Except.bind, seeded]
  rfl

variable {Storage Source : Type} [WatermarkSource Source]

/-- What a worker at a task sees or does about a key in its next step. -/
def sightAt (shared : Shared) (world : ReaderWorld Storage Source) :
    ReaderTask → Option (Int × Sight)
  | .claim _ => (shared.cursor.bind fun cursor => cursor.claim.1).map fun key => (key, .claimed)
  | .look _ key _ | .lookAgain _ key =>
    world.source.map fun source => (key, .mark (WatermarkSource.mark source).1)
  | .askFinished _ key _ =>
    world.source.map fun source => (key, .finished (WatermarkSource.finished source).1)
  | .pause _ key _ => some (key, .slept shared.stopRequested)
  | .read _ key verify => some (key, .read verify)
  | .unreachable _ key => some (key, .unreachable)
  | .seed | .checkStop _ | .countRead _ _ _ _ | .countRow _ _ _ _ | .verified _ _
  | .recordError _ _ _ | .abort _ _ | .stopPool _ _ => none

/-- The log after the next step of a worker. -/
def noted (life : ReaderLife Storage Source) (worker : Nat) : List ReadNote :=
  match life.reader.position? worker with
  | some (.working task) =>
    life.log ++ ((sightAt life.reader.shared life.world task).map fun (key, sight) =>
      ⟨worker, key, sight⟩).toList
  | _ => life.log

variable [Store Storage]

/-- A step of a worker. -/
def work (life : ReaderLife Storage Source) (worker : Nat) : Option (ReaderLife Storage Source) :=
  (life.reader.step life.world worker).map fun (reader, world, _) =>
    ⟨reader, world, life.noted worker⟩

/-- What happens at an event; `none` when it cannot happen. -/
def step (life : ReaderLife Storage Source) :
    ReaderEvent Storage Source → Option (ReaderLife Storage Source)
  | .work worker => life.work worker
  | .stop => some { life with reader := life.reader.stop }
  | .outside store source => some { life with world := ⟨store, some source⟩ }

/-! ### What a step of a worker can do -/

open Pool (Moved)

/-- The key may be read when the watermark is at the mark. -/
def Ripe (lastKey keyWindow key mark : Int) : Prop := key ≤ readableUpTo mark lastKey keyWindow

/-- What a worker that waits for a key sees, and where it goes then. -/
inductive Sees (shared : Shared) (state : ReaderState) (key : Int) :
    ReaderTask → Sight → ReaderTask → Prop
  | ripe (stream : Stream) (delay : Nat) (mark : Int)
      (ripe : Ripe (Reader.lastKey shared) state.keyWindow key mark) :
      Sees shared state key (.look stream key delay) (.mark mark)
        (Reader.readTask stream key state)
  | unripe (stream : Stream) (delay : Nat) (mark : Int)
      (unripe : ¬Ripe (Reader.lastKey shared) state.keyWindow key mark) :
      Sees shared state key (.look stream key delay) (.mark mark) (.askFinished stream key delay)
  | ended (stream : Stream) (delay : Nat) :
      Sees shared state key (.askFinished stream key delay) (.finished true)
        (.lookAgain stream key)
  | goesOn (stream : Stream) (delay : Nat) :
      Sees shared state key (.askFinished stream key delay) (.finished false)
        (.pause stream key delay)
  | reached (stream : Stream) (mark : Int) (reached : key ≤ mark) :
      Sees shared state key (.lookAgain stream key) (.mark mark) (Reader.readTask stream key state)
  | missed (stream : Stream) (mark : Int) (missed : mark < key) :
      Sees shared state key (.lookAgain stream key) (.mark mark) (.unreachable stream key)
  | woken (stream : Stream) (delay : Nat) (running : shared.stopRequested = false) :
      Sees shared state key (.pause stream key delay) (.slept false)
        (.look stream key (min (2 * delay) Reader.maxDelay))
  | stopped (stream : Stream) (delay : Nat) (stopped : shared.stopRequested = true) :
      Sees shared state key (.pause stream key delay) (.slept true) (.checkStop stream)

/-- The answers of a source, and the source after them. A pause asks nothing. -/
inductive Answers (source : Source) : Sight → Source → Prop
  | mark : Answers source (.mark (WatermarkSource.mark source).1) (WatermarkSource.mark source).2
  | finished :
      Answers source (.finished (WatermarkSource.finished source).1)
        (WatermarkSource.finished source).2
  | slept (stopped : Bool) : Answers source (.slept stopped) source

/-- A worker goes on to another position without a key of its own. Only the report of a crash and
the end of an abort change the stop flag. -/
inductive Pass (shared : Shared) (state : ReaderState) (worker : Nat) :
    Position ReaderTask → Position ReaderTask → Shared → ReaderState → Prop
  | seeded (stream : Stream) (drawn : Reader.streamOf state.seed worker = .ok stream) :
      Pass shared state worker (.working .seed) (.working (.checkStop stream)) shared state
  | unseeded (crash : Crash) (failed : Reader.streamOf state.seed worker = .error crash) :
      Pass shared state worker (.working .seed) (.crashed crash) shared state
  | goOn (stream : Stream) (running : shared.stopRequested = false) :
      Pass shared state worker (.working (.checkStop stream)) (.working (.claim stream)) shared
        state
  | stopSeen (stream : Stream) (stopped : shared.stopRequested = true) :
      Pass shared state worker (.working (.checkStop stream)) (.leaving none) shared state
  | usedUp (stream : Stream) (cursor : Cursor) (known : shared.cursor = some cursor)
      (used : ¬cursor.next < cursor.range.limit) :
      Pass shared state worker (.working (.claim stream)) (.leaving none) shared state
  | baseless (stream : Stream) (unknown : shared.cursor = none) :
      Pass shared state worker (.working (.claim stream)) (.crashed (.lacking .cursor)) shared
        state
  | countedRead (stream : Stream) (key : Int) (verify : Bool) (row : Option Columns) :
      Pass shared state worker (.working (.countRead stream key verify row))
        (.working (.countRow stream key verify row)) shared
        { state with tally := state.tally.countRead }
  | countedRow (stream : Stream) (key : Int) (verify : Bool) (row : Option Columns) :
      Pass shared state worker (.working (.countRow stream key verify row))
        (Pool.positionAfter (Reader.judge stream key verify row state.bounds))
        { shared with
          numKeys := shared.numKeys + 1
          numColumns := shared.numColumns + (row.map ColumnMap.size).getD 0 } state
  | verified (stream : Stream) (key : Int) :
      Pass shared state worker (.working (.verified stream key)) (.working (.checkStop stream))
        shared { state with tally := state.tally.countVerified }
  | erred (stream : Stream) (key : Int) (problems : List Problem) (next : ReaderTask)
      (tolerated : next = .checkStop stream ∨
        next = .abort stream (state.tally.countError key).errors) :
      Pass shared state worker (.working (.recordError stream key problems)) (.working next)
        shared { state with tally := state.tally.countError key }
  | abortedBefore (stream : Stream) (errors : Nat) (aborted : state.aborted = true) :
      Pass shared state worker (.working (.abort stream errors)) (.working (.checkStop stream))
        shared state
  | abortedNow (stream : Stream) (errors : Nat) (unaborted : state.aborted = false) :
      Pass shared state worker (.working (.abort stream errors))
        (.working (.stopPool stream errors)) shared { state with aborted := true }
  | stoppedPool (stream : Stream) (errors : Nat) :
      Pass shared state worker (.working (.stopPool stream errors))
        (.working (.checkStop stream)) { shared with stopRequested := true } state
  | reported (crash : Crash) :
      Pass shared state worker (.crashed crash) (.leaving (some crash))
        { shared with stopRequested := true } state
  | left (crash : Option Crash) :
      Pass shared state worker (.leaving crash) (.left crash) shared state

/-- What a step of a worker of a linked reader can do to the reader, its surroundings and the
log. -/
inductive Change (life : ReaderLife Storage Source) (worker : Nat) (source : Source) :
    ReaderLife Storage Source → Prop
  | passed (reader : Reader) (before after : Position ReaderTask)
      (moved : Moved life.reader reader worker before after)
      (pass : Pass life.reader.shared life.reader.state worker before after reader.shared
        reader.state) :
      Change life worker source { life with reader }
  | claimed (reader : Reader) (stream : Stream) (cursor : Cursor)
      (moved : Moved life.reader reader worker (.working (.claim stream))
        (.working (.look stream cursor.next Reader.minDelay)))
      (known : life.reader.shared.cursor = some cursor) (left : cursor.next < cursor.range.limit)
      (shared : reader.shared = { life.reader.shared with cursor := some cursor.claim.2 })
      (state : reader.state = life.reader.state) :
      Change life worker source { life with
        reader, log := life.log ++ [⟨worker, cursor.next, .claimed⟩] }
  | saw (reader : Reader) (before after : ReaderTask) (key : Int) (sight : Sight)
      (later : Source)
      (moved : Moved life.reader reader worker (.working before) (.working after))
      (sees : Sees life.reader.shared life.reader.state key before sight after)
      (answers : Answers source sight later)
      (shared : reader.shared = life.reader.shared) (state : reader.state = life.reader.state) :
      Change life worker source ⟨reader, { life.world with source := some later },
        life.log ++ [⟨worker, key, sight⟩]⟩
  | read (reader : Reader) (stream : Stream) (key : Int) (verify : Bool)
      (after : Position ReaderTask)
      (moved : Moved life.reader reader worker (.working (.read stream key verify)) after)
      (outcome : after = match (Store.read life.world.store ⟨.reader, worker⟩ key).1 with
        | .done row => .working (.countRead stream key verify row)
        | .failed failure => .working (.recordError stream key [.unreadable failure.message])
        | .crashed crash => .crashed crash)
      (shared : reader.shared = life.reader.shared) (state : reader.state = life.reader.state) :
      Change life worker source ⟨reader, { life.world with
          store := (Store.read life.world.store ⟨.reader, worker⟩ key).2 },
        life.log ++ [⟨worker, key, .read verify⟩]⟩
  | missed (reader : Reader) (stream : Stream) (key : Int)
      (moved : Moved life.reader reader worker (.working (.unreachable stream key))
        (.working (.checkStop stream)))
      (shared : reader.shared = life.reader.shared)
      (state : reader.state = { life.reader.state with
        tally := life.reader.state.tally.countUnreachable }) :
      Change life worker source { life with
        reader, log := life.log ++ [⟨worker, key, .unreachable⟩] }

/-! ### The turns of the tasks -/

/-- The turn of a worker at a task. -/
def turn (life : ReaderLife Storage Source) (worker : Nat) (task : ReaderTask) :
    Turn ReaderState ReaderTask (ReaderWorld Storage Source) :=
  Reader.advance worker task life.reader.shared life.reader.state life.world

/-- The reader after the turn of a worker at a task. -/
structure Turned (life : ReaderLife Storage Source) (worker : Nat) (task : ReaderTask)
    (reader : Reader) : Prop where
  moved : Moved life.reader reader worker (.working task)
    (Pool.positionAfter (life.turn worker task).move)
  shared : reader.shared = (life.turn worker task).shared
  state : reader.state = (life.turn worker task).state

/-- A life after the turn of a worker at a task. -/
def afterTurn (life : ReaderLife Storage Source) (worker : Nat) (task : ReaderTask)
    (reader : Reader) : ReaderLife Storage Source :=
  ⟨reader, (life.turn worker task).world,
    life.log ++ ((sightAt life.reader.shared life.world task).map fun (key, sight) =>
      ⟨worker, key, sight⟩).toList⟩

variable {life : ReaderLife Storage Source} {worker : Nat} {reader : Reader} {source : Source}

/-- A silent turn leaves the log and the surroundings as they are. -/
theorem change_of_silent (task : ReaderTask) (turned : life.Turned worker task reader)
    (world : (life.turn worker task).world = life.world)
    (silent : sightAt life.reader.shared life.world task = none)
    (pass : Pass life.reader.shared life.reader.state worker (.working task)
      (Pool.positionAfter (life.turn worker task).move) (life.turn worker task).shared
      (life.turn worker task).state) :
    Change life worker source (life.afterTurn worker task reader) := by
  rw [afterTurn, world, silent, Option.map_none, Option.toList_none, List.append_nil]
  refine .passed reader _ _ turned.moved ?_
  rw [turned.shared, turned.state]
  exact pass

theorem change_of_seed (turned : life.Turned worker .seed reader) :
    Change life worker source (life.afterTurn worker .seed reader) := by
  cases drawn : Reader.streamOf life.reader.state.seed worker with
  | ok stream =>
    have turnEq : life.turn worker .seed =
        Reader.goTo (.checkStop stream) life.reader.shared life.reader.state life.world := by
      simp only [turn, Reader.advance, drawn]
    refine change_of_silent .seed turned (by rw [turnEq]; rfl) rfl ?_
    rw [turnEq]
    exact .seeded stream drawn
  | error crash =>
    have turnEq : life.turn worker .seed =
        { move := .crash crash, shared := life.reader.shared, state := life.reader.state,
          world := life.world } := by
      simp only [turn, Reader.advance, drawn]
    refine change_of_silent .seed turned (by rw [turnEq]) rfl ?_
    rw [turnEq]
    exact .unseeded crash drawn

theorem change_of_checkStop (stream : Stream)
    (turned : life.Turned worker (.checkStop stream) reader) :
    Change life worker source (life.afterTurn worker (.checkStop stream) reader) := by
  have turnEq : life.turn worker (.checkStop stream) =
      if life.reader.shared.stopRequested then
        { move := .exit, shared := life.reader.shared, state := life.reader.state,
          world := life.world }
      else Reader.goTo (.claim stream) life.reader.shared life.reader.state life.world := rfl
  cases stopped : life.reader.shared.stopRequested with
  | true =>
    rw [stopped, if_pos rfl] at turnEq
    refine change_of_silent _ turned (by rw [turnEq]) rfl ?_
    rw [turnEq]
    exact .stopSeen stream stopped
  | false =>
    rw [stopped, if_neg Bool.false_ne_true] at turnEq
    refine change_of_silent _ turned (by rw [turnEq]; rfl) rfl ?_
    rw [turnEq]
    exact .goOn stream stopped

theorem change_of_claim (stream : Stream) (linked : life.world.source = some source)
    (turned : life.Turned worker (.claim stream) reader) :
    Change life worker source (life.afterTurn worker (.claim stream) reader) := by
  have turnEq : life.turn worker (.claim stream) =
      Reader.claimStep stream life.reader.shared life.reader.state life.world := rfl
  cases known : life.reader.shared.cursor with
  | none =>
    simp only [Reader.claimStep, known] at turnEq
    refine change_of_silent _ turned (by rw [turnEq]) (by rw [sightAt, known]; rfl) ?_
    rw [turnEq]
    exact .baseless stream known
  | some cursor =>
    by_cases left : cursor.next < cursor.range.limit
    · obtain ⟨moved, shared, state⟩ := turned
      simp only [Reader.claimStep, known] at turnEq
      rw [cursor.claim_eq_of_lt left] at turnEq
      simp only [linked, Option.isSome_some, if_true] at turnEq
      rw [turnEq] at moved shared state
      rw [afterTurn, turnEq, sightAt, known, Option.bind_some, (cursor.claim_of_lt left).1]
      exact .claimed reader stream cursor moved known left shared state
    · have used := cursor.claim_of_not_lt left
      simp only [Reader.claimStep, known, used] at turnEq
      have silent : sightAt life.reader.shared life.world (.claim stream) = none := by
        rw [sightAt, known, Option.bind_some, used]
        rfl
      refine change_of_silent _ turned (by rw [turnEq]) silent ?_
      rw [turnEq]
      exact .usedUp stream cursor known left

/-- A turn that shows something of a key, and changes nothing but the source. -/
theorem change_of_sight (task after : ReaderTask) (key : Int) (sight : Sight) (later : Source)
    (turned : life.Turned worker task reader)
    (turnEq : life.turn worker task = Reader.goTo after life.reader.shared life.reader.state
      { life.world with source := some later })
    (seen : sightAt life.reader.shared life.world task = some (key, sight))
    (sees : Sees life.reader.shared life.reader.state key task sight after)
    (answers : Answers source sight later) :
    Change life worker source (life.afterTurn worker task reader) := by
  obtain ⟨moved, shared, state⟩ := turned
  rw [turnEq] at moved shared state
  rw [afterTurn, turnEq, seen]
  exact .saw reader task after key sight later moved sees answers shared state

theorem change_of_look (stream : Stream) (key : Int) (delay : Nat)
    (linked : life.world.source = some source)
    (turned : life.Turned worker (.look stream key delay) reader) :
    Change life worker source (life.afterTurn worker (.look stream key delay) reader) := by
  have turnEq : life.turn worker (.look stream key delay) =
      Reader.lookStep stream key delay life.reader.shared life.reader.state life.world := rfl
  have seen : sightAt life.reader.shared life.world (.look stream key delay) =
      some (key, .mark (WatermarkSource.mark source).1) := by
    rw [sightAt, linked]
    rfl
  simp only [Reader.lookStep, linked] at turnEq
  split at turnEq
  · rename_i ripe
    exact change_of_sight _ _ key _ _ turned turnEq seen (.ripe stream delay _ ripe) .mark
  · rename_i unripe
    exact change_of_sight _ _ key _ _ turned turnEq seen (.unripe stream delay _ unripe) .mark

theorem change_of_askFinished (stream : Stream) (key : Int) (delay : Nat)
    (linked : life.world.source = some source)
    (turned : life.Turned worker (.askFinished stream key delay) reader) :
    Change life worker source (life.afterTurn worker (.askFinished stream key delay) reader) := by
  have turnEq : life.turn worker (.askFinished stream key delay) =
      Reader.askFinishedStep stream key delay life.reader.shared life.reader.state life.world :=
    rfl
  have seen : sightAt life.reader.shared life.world (.askFinished stream key delay) =
      some (key, .finished (WatermarkSource.finished source).1) := by
    rw [sightAt, linked]
    rfl
  have answers : Answers source (.finished (WatermarkSource.finished source).1)
      (WatermarkSource.finished source).2 := .finished
  simp only [Reader.askFinishedStep, linked] at turnEq
  cases answer : (WatermarkSource.finished source).1 with
  | true =>
    rw [answer] at turnEq seen answers
    exact change_of_sight _ _ key _ _ turned turnEq seen (.ended stream delay) answers
  | false =>
    rw [answer] at turnEq seen answers
    exact change_of_sight _ _ key _ _ turned turnEq seen (.goesOn stream delay) answers

theorem change_of_lookAgain (stream : Stream) (key : Int)
    (linked : life.world.source = some source)
    (turned : life.Turned worker (.lookAgain stream key) reader) :
    Change life worker source (life.afterTurn worker (.lookAgain stream key) reader) := by
  have turnEq : life.turn worker (.lookAgain stream key) =
      Reader.lookAgainStep stream key life.reader.shared life.reader.state life.world := rfl
  have seen : sightAt life.reader.shared life.world (.lookAgain stream key) =
      some (key, .mark (WatermarkSource.mark source).1) := by
    rw [sightAt, linked]
    rfl
  simp only [Reader.lookAgainStep, linked] at turnEq
  split at turnEq
  · rename_i reached
    exact change_of_sight _ _ key _ _ turned turnEq seen (.reached stream _ reached) .mark
  · rename_i missed
    exact change_of_sight _ _ key _ _ turned turnEq seen
      (.missed stream _ (Int.not_le.mp missed)) .mark

theorem change_of_pause (stream : Stream) (key : Int) (delay : Nat)
    (linked : life.world.source = some source)
    (turned : life.Turned worker (.pause stream key delay) reader) :
    Change life worker source (life.afterTurn worker (.pause stream key delay) reader) := by
  have kept : life.world = { life.world with source := some source } := by rw [← linked]
  have turnEq : life.turn worker (.pause stream key delay) =
      if life.reader.shared.stopRequested then
        Reader.goTo (.checkStop stream) life.reader.shared life.reader.state life.world
      else Reader.goTo (.look stream key (min (2 * delay) Reader.maxDelay)) life.reader.shared
        life.reader.state life.world := rfl
  have seen : sightAt life.reader.shared life.world (.pause stream key delay) =
      some (key, .slept life.reader.shared.stopRequested) := rfl
  rw [kept] at turnEq
  cases stopped : life.reader.shared.stopRequested with
  | true =>
    rw [stopped] at turnEq seen
    exact change_of_sight _ _ key _ _ turned turnEq seen (.stopped stream delay stopped)
      (.slept true)
  | false =>
    rw [stopped] at turnEq seen
    exact change_of_sight _ _ key _ _ turned turnEq seen (.woken stream delay stopped)
      (.slept false)

theorem change_of_read (stream : Stream) (key : Int) (verify : Bool)
    (turned : life.Turned worker (.read stream key verify) reader) :
    Change life worker source (life.afterTurn worker (.read stream key verify) reader) := by
  obtain ⟨moved, shared, state⟩ := turned
  have turnEq : life.turn worker (.read stream key verify) =
      Reader.readStep worker stream key verify life.reader.shared life.reader.state life.world :=
    rfl
  simp only [Reader.readStep] at turnEq
  rw [afterTurn]
  cases result : (Store.read life.world.store ⟨.reader, worker⟩ key).1 with
  | done row =>
    rw [result] at turnEq
    rw [turnEq] at moved shared state ⊢
    exact .read reader stream key verify _ moved (by rw [result]; rfl) shared state
  | failed failure =>
    rw [result] at turnEq
    rw [turnEq] at moved shared state ⊢
    exact .read reader stream key verify _ moved (by rw [result]; rfl) shared state
  | crashed crash =>
    rw [result] at turnEq
    rw [turnEq] at moved shared state ⊢
    exact .read reader stream key verify _ moved (by rw [result]; rfl) shared state

theorem change_of_recordError (stream : Stream) (key : Int) (problems : List Problem)
    (turned : life.Turned worker (.recordError stream key problems) reader) :
    Change life worker source
      (life.afterTurn worker (.recordError stream key problems) reader) := by
  refine change_of_silent _ turned rfl rfl (.erred stream key problems _ ?_)
  split
  · exact Or.inl rfl
  · exact Or.inr rfl

theorem change_of_abort (stream : Stream) (errors : Nat)
    (turned : life.Turned worker (.abort stream errors) reader) :
    Change life worker source (life.afterTurn worker (.abort stream errors) reader) := by
  have turnEq : life.turn worker (.abort stream errors) =
      if life.reader.state.aborted then
        Reader.goTo (.checkStop stream) life.reader.shared life.reader.state life.world
      else Reader.goTo (.stopPool stream errors) life.reader.shared
        { life.reader.state with aborted := true } life.world := rfl
  cases aborted : life.reader.state.aborted with
  | true =>
    rw [aborted, if_pos rfl] at turnEq
    refine change_of_silent _ turned (by rw [turnEq]; rfl) rfl ?_
    rw [turnEq]
    exact .abortedBefore stream errors aborted
  | false =>
    rw [aborted, if_neg Bool.false_ne_true] at turnEq
    refine change_of_silent _ turned (by rw [turnEq]; rfl) rfl ?_
    rw [turnEq]
    exact .abortedNow stream errors aborted

/-- Whatever a worker of a linked reader does at a task is one of the changes. -/
theorem change_of_turn (task : ReaderTask) (linked : life.world.source = some source)
    (turned : life.Turned worker task reader) :
    Change life worker source (life.afterTurn worker task reader) := by
  cases task with
  | seed => exact change_of_seed turned
  | checkStop stream => exact change_of_checkStop stream turned
  | claim stream => exact change_of_claim stream linked turned
  | look stream key delay => exact change_of_look stream key delay linked turned
  | askFinished stream key delay => exact change_of_askFinished stream key delay linked turned
  | lookAgain stream key => exact change_of_lookAgain stream key linked turned
  | unreachable stream key =>
    exact .missed reader stream key turned.moved turned.shared turned.state
  | pause stream key delay => exact change_of_pause stream key delay linked turned
  | read stream key verify => exact change_of_read stream key verify turned
  | countRead stream key verify row =>
    exact change_of_silent _ turned rfl rfl (.countedRead stream key verify row)
  | countRow stream key verify row =>
    exact change_of_silent _ turned rfl rfl (.countedRow stream key verify row)
  | verified stream key => exact change_of_silent _ turned rfl rfl (.verified stream key)
  | recordError stream key problems => exact change_of_recordError stream key problems turned
  | abort stream errors => exact change_of_abort stream errors turned
  | stopPool stream errors => exact change_of_silent _ turned rfl rfl (.stoppedPool stream errors)

/-- Whatever a worker of a linked reader does is one of the changes. -/
theorem change_of_work (life next : ReaderLife Storage Source) (worker : Nat) (source : Source)
    (linked : life.world.source = some source) (worked : life.work worker = some next) :
    Change life worker source next := by
  rw [work, Option.map_eq_some_iff] at worked
  obtain ⟨⟨reader, world, notices⟩, took, equal⟩ := worked
  subst equal
  have stepped := Pool.stepped_of_step _ _ _ _ _ _ _ _ took
  cases stepped with
  | work task _ moved shared state _ _ =>
    have noted : life.noted worker = life.log ++
        ((sightAt life.reader.shared life.world task).map fun (key, sight) =>
          ⟨worker, key, sight⟩).toList := by
      rw [noted, moved.position_eq]
    rw [noted]
    exact change_of_turn task linked ⟨moved, shared, state⟩
  | report crash _ moved shared state _ _ =>
    rw [noted, moved.position_eq]
    refine .passed reader _ _ moved ?_
    rw [shared, state]
    exact .reported crash
  | leave crash _ moved shared state _ _ =>
    rw [noted, moved.position_eq]
    refine .passed reader _ _ moved ?_
    rw [shared, state]
    exact .left crash

/-- Every step moves one worker. -/
theorem Change.moved {life next : ReaderLife Storage Source} {worker : Nat} {source : Source}
    (change : Change life worker source next) :
    ∃ before after, Moved life.reader next.reader worker before after := by
  cases change with
  | passed _ before after moved => exact ⟨before, after, moved⟩
  | claimed _ _ _ moved => exact ⟨_, _, moved⟩
  | saw _ _ _ _ _ _ moved => exact ⟨_, _, moved⟩
  | read _ _ _ _ _ moved => exact ⟨_, _, moved⟩
  | missed _ _ _ moved => exact ⟨_, _, moved⟩

theorem counted_of_work {life next : ReaderLife Storage Source} {worker : Nat}
    (worked : life.work worker = some next) (counted : Pool.Counted life.reader) :
    Pool.Counted next.reader := by
  rw [work, Option.map_eq_some_iff] at worked
  obtain ⟨⟨reader, world, notices⟩, took, rfl⟩ := worked
  exact (Pool.stepped_of_step _ _ _ _ _ _ _ _ took).counted counted

end ReaderLife

end LoadVerifier
