/-
This file follows a writer through its life: it is configured, given its range, given its progress
and its workers, and then its workers take their steps. At any moment somebody may ask it to stop,
a worker may die of something unexpected, and the store may be changed by others.

Beside the writer runs a ledger of what its workers did: the keys they claimed, the store calls
that returned, and what became of each key. The ledger is read off the steps and changes none of
them. `Change` says once what a step of a worker can do to the writer, the store and the ledger;
whatever is proved about writers is proved from it.
-/
import LoadVerifier.Proofs.PoolStep
import LoadVerifier.Proofs.WrittenPrefix
import LoadVerifier.Writing.Writer

namespace LoadVerifier

/-- What the workers of a writer did so far: the keys they claimed, in order, the store calls that
returned and those that were refused, and the keys that failed, were completed, were counted, or
were lost in a crash. -/
structure WriteLedger where
  claimed : List Int := []
  stored : List (Int × Columns) := []
  refused : List (Int × Columns) := []
  failed : List Int := []
  completed : List Int := []
  counted : List Record := []
  lost : List Int := []

/-- The key that a worker works on, until it is failed, completed or lost. -/
def WriterTask.held : WriterTask → List Int
  | .write record _ | .complete record => [record.key]
  | .fail key _ => [key]
  | .checkStop | .claim | .count _ => []

/-- Whether a move is a crash. -/
def Move.isCrash {Task : Type} : Move Task → Bool
  | .crash _ => true
  | .to _ | .exit => false

namespace WriteLedger

/-- The calls for one key that returned, in order. -/
def storedFor (ledger : WriteLedger) (key : Int) : List Columns :=
  (ledger.stored.filter fun call => call.1 = key).map Prod.snd

/-- Enters a claim. A key whose record cannot be generated is lost at once. -/
def noteClaim (ledger : WriteLedger) (key : Int) (crashes : Bool) : WriteLedger :=
  { ledger with
    claimed := ledger.claimed ++ [key]
    lost := if crashes then ledger.lost ++ [key] else ledger.lost }

/-- Enters the outcome of a store call. -/
def noteCall (ledger : WriteLedger) (key : Int) (columns : Columns) :
    CallResult Unit → WriteLedger
  | .done _ => { ledger with stored := ledger.stored ++ [(key, columns)] }
  | .failed _ => { ledger with refused := ledger.refused ++ [(key, columns)] }
  | .crashed _ => { ledger with lost := ledger.lost ++ [key] }

/-- Enters what a worker at a task does, given what it shares, the store and its move. -/
def note {Storage : Type} [Store Storage] (ledger : WriteLedger) (worker : Nat) (shared : Shared)
    (store : Storage) (move : Move WriterTask) : WriterTask → WriteLedger
  | .checkStop => ledger
  | .claim =>
    match shared.cursor.bind fun cursor => cursor.claim.1 with
    | none => ledger
    | some key => ledger.noteClaim key move.isCrash
  | .write _ [] => ledger
  | .write record (call :: _) =>
    ledger.noteCall record.key call (Store.write store ⟨.writer, worker⟩ record.key call).1
  | .fail key _ => { ledger with failed := ledger.failed ++ [key] }
  | .complete record =>
    if move.isCrash then { ledger with lost := ledger.lost ++ [record.key] }
    else { ledger with completed := ledger.completed ++ [record.key] }
  | .count record => { ledger with counted := ledger.counted ++ [record] }

end WriteLedger

/-! ### The start in its parts -/

namespace Writer

/-- The first part of a start: the writer gets its range, once, when it has bounds. -/
def begin? (writer : Writer) (range : KeyRange) (threads : Int) : Except ConfigError Writer :=
  if writer.state.bounds.isNone then .error .notConfigured
  else Pool.begin poolName writer range threads

/-- The second part of a start: the writer gets its progress. -/
def track (writer : Writer) : Writer :=
  match writer.range? with
  | none => writer
  | some range =>
    { writer with state := { writer.state with written := some (.ofStart range.start) } }

/-- A start is its three parts one after another. -/
theorem start_eq_parts (writer : Writer) (range : KeyRange) (threads : Int) (now : Float) :
    writer.start range threads now =
      (writer.begin? range threads).map fun begun => begun.track.spawn .checkStop threads now := by
  rw [start, begin?]
  split
  · rfl
  · rw [Pool.begin]
    split
    · rfl
    · split
      · rfl
      · rfl

/-- A configured writer has bounds and a write mode, and is otherwise as it was. -/
theorem configure_eq_ok (writer next : Writer) (multiPut : Bool)
    (minColumns maxColumns minSize maxSize : Int)
    (configured : writer.configure multiPut minColumns maxColumns minSize maxSize = .ok next) :
    ∃ bounds, Bounds.make minColumns maxColumns minSize maxSize = .ok bounds ∧
      next = { writer with state := { writer.state with bounds := some bounds, multiPut } } := by
  rw [configure] at configured
  split at configured
  · cases configured
  · cases made : Bounds.make minColumns maxColumns minSize maxSize with
    | error error => rw [made] at configured; cases configured
    | ok bounds => rw [made] at configured; cases configured; exact ⟨bounds, rfl, rfl⟩

/-- A writer that gets its range has bounds. -/
theorem begin?_eq_ok (writer next : Writer) (range : KeyRange) (threads : Int)
    (begun : writer.begin? range threads = .ok next) :
    (∃ bounds, writer.state.bounds = some bounds) ∧ (1 ≤ threads ∧ threads ≤ maxThreads) ∧
      next = { writer with shared := { writer.shared with cursor := some (.ofRange range) } } := by
  rw [begin?] at begun
  cases bounded : writer.state.bounds with
  | none => rw [bounded] at begun; cases begun
  | some bounds =>
    rw [bounded] at begun
    exact ⟨⟨bounds, rfl⟩, (Pool.begin_eq_ok _ _ _ _ _ begun).2⟩

/-- A writer that is started has bounds, a possible number of workers, and its progress. -/
theorem start_eq_ok (writer next : Writer) (range : KeyRange) (threads : Int) (now : Float)
    (started : writer.start range threads now = .ok next) :
    (1 ≤ threads ∧ threads ≤ maxThreads) ∧
      next = Pool.spawn { writer with
        shared := { writer.shared with cursor := some (.ofRange range) }
        state := { writer.state with written := some (.ofStart range.start) } }
        .checkStop threads now := by
  rw [start_eq_parts] at started
  cases begun : writer.begin? range threads with
  | error error => rw [begun] at started; cases started
  | ok ranged =>
    rw [begun] at started
    obtain ⟨_, possible, rfl⟩ := begin?_eq_ok _ _ _ _ begun
    cases started
    exact ⟨possible, rfl⟩

/-- Waiting ends well with the result of a writer whose workers were waited for. -/
theorem wait_eq_ok (writer : Writer) (result : WriteResult)
    (waited : writer.wait = some (.ok result)) :
    Pool.join poolName writer = some (.ok ()) ∧ result = writer.result := by
  rw [wait, Option.map_eq_some_iff] at waited
  obtain ⟨joined, waits, equal⟩ := waited
  cases joined with
  | error failure => cases equal
  | ok value => exact ⟨waits, (Except.ok.inj equal).symm⟩

end Writer

/-! ### The life of a writer -/

/-- A writer, the store it writes to, and the ledger of its workers. -/
structure WriterLife (Storage : Type) where
  writer : Writer
  store : Storage
  ledger : WriteLedger := {}

/-- What can happen in the life of a writer. -/
inductive WriterEvent (Storage : Type)
  | configure (multiPut : Bool) (minColumns maxColumns minSize maxSize : Int)
  | begin (range : KeyRange) (threads : Int)
  | track
  | spawn (threads : Int) (now : Float)
  | stop
  | work (worker : Nat)
  | die (worker : Nat) (crash : Crash)
  | outside (store : Storage)

namespace WriterLife

variable {Storage : Type} [Store Storage]

/-- A writer that was just made. -/
def new (store : Storage) : WriterLife Storage := ⟨Writer.new, store, {}⟩

/-- The writer after a change of its configuration; a refused one leaves it as it was. -/
def settle (life : WriterLife Storage) : Except ConfigError Writer → WriterLife Storage
  | .ok writer => { life with writer }
  | .error _ => life

/-- The ledger after the next step of a worker. -/
def noted (life : WriterLife Storage) (worker : Nat) : WriteLedger :=
  match life.writer.position? worker with
  | some (.working task) =>
    let turn := Writer.advance worker task life.writer.shared life.writer.state life.store
    life.ledger.note worker life.writer.shared life.store turn.move task
  | _ => life.ledger

/-- A step of a worker. -/
def work (life : WriterLife Storage) (worker : Nat) : Option (WriterLife Storage) :=
  (life.writer.step life.store worker).map fun (writer, store, _) =>
    ⟨writer, store, life.noted worker⟩

/-- A worker at its task dies; the key it works on is lost. -/
def die (life : WriterLife Storage) (worker : Nat) (crash : Crash) : Option (WriterLife Storage) :=
  match life.writer.roster, life.writer.position? worker with
  | some roster, some (.working task) =>
    some { life with
      writer := { life.writer with roster := some (roster.place worker (.crashed crash)) }
      ledger := { life.ledger with lost := life.ledger.lost ++ task.held } }
  | _, _ => none

/-- What happens at an event; `none` when it cannot happen. -/
def step (life : WriterLife Storage) : WriterEvent Storage → Option (WriterLife Storage)
  | .configure multiPut minColumns maxColumns minSize maxSize =>
    some (life.settle (life.writer.configure multiPut minColumns maxColumns minSize maxSize))
  | .begin range threads => some (life.settle (life.writer.begin? range threads))
  | .track =>
    if life.writer.started ∧ life.writer.state.written.isNone then
      some { life with writer := life.writer.track }
    else none
  | .spawn threads now =>
    if life.writer.state.written.isSome ∧ life.writer.roster.isNone then
      some { life with writer := life.writer.spawn .checkStop threads now }
    else none
  | .stop => some { life with writer := life.writer.stop }
  | .work worker => life.work worker
  | .die worker crash => life.die worker crash
  | .outside store => some { life with store }

/-! ### What a step of a worker can do -/

open Pool (Moved)

/-- A worker goes on to another position without changing anything but, when it reports a crash,
the stop flag. -/
inductive Pass (shared : Shared) : Position WriterTask → Position WriterTask → Shared → Prop
  | goOn (running : shared.stopRequested = false) :
      Pass shared (.working .checkStop) (.working .claim) shared
  | stopSeen (stopped : shared.stopRequested = true) :
      Pass shared (.working .checkStop) (.leaving none) shared
  | usedUp (cursor : Cursor) (known : shared.cursor = some cursor)
      (used : ¬cursor.next < cursor.range.limit) :
      Pass shared (.working .claim) (.leaving none) shared
  | baseless (unknown : shared.cursor = none) :
      Pass shared (.working .claim) (.crashed (.lacking .cursor)) shared
  | allStored (record : Record) :
      Pass shared (.working (.write record [])) (.working (.complete record)) shared
  | reported (crash : Crash) :
      Pass shared (.crashed crash) (.leaving (some crash)) { shared with stopRequested := true }
  | left (crash : Option Crash) : Pass shared (.leaving crash) (.left crash) shared

/-- Where a worker goes after a store call that returned. -/
def afterCall (record : Record) (rest : List Columns) : WriterTask :=
  if rest.isEmpty then .complete record else .write record rest

/-- What a step of a worker can do to the writer, the store and the ledger. -/
inductive Change (life : WriterLife Storage) (worker : Nat) : WriterLife Storage → Prop
  | passed (writer : Writer) (before after : Position WriterTask)
      (moved : Moved life.writer writer worker before after)
      (pass : Pass life.writer.shared before after writer.shared)
      (state : writer.state = life.writer.state) :
      Change life worker { life with writer }
  | claimed (writer : Writer) (cursor : Cursor) (bounds : Bounds) (record : Record)
      (moved : Moved life.writer writer worker (.working .claim)
        (.working (.write record (Writer.callsFor life.writer.state.multiPut record))))
      (known : life.writer.shared.cursor = some cursor) (left : cursor.next < cursor.range.limit)
      (bounded : life.writer.state.bounds = some bounds)
      (generated : generate cursor.next bounds = .ok record)
      (shared : writer.shared = { life.writer.shared with cursor := some cursor.claim.2 })
      (state : writer.state = life.writer.state) :
      Change life worker { life with
        writer, ledger := life.ledger.noteClaim cursor.next false }
  | barren (writer : Writer) (cursor : Cursor) (crash : Crash)
      (moved : Moved life.writer writer worker (.working .claim) (.crashed crash))
      (known : life.writer.shared.cursor = some cursor) (left : cursor.next < cursor.range.limit)
      (ungenerated : ∀ bounds record, life.writer.state.bounds = some bounds →
        generate cursor.next bounds ≠ .ok record)
      (shared : writer.shared = { life.writer.shared with cursor := some cursor.claim.2 })
      (state : writer.state = life.writer.state) :
      Change life worker { life with
        writer, ledger := life.ledger.noteClaim cursor.next true }
  | stored (writer : Writer) (record : Record) (call : Columns) (rest : List Columns)
      (moved : Moved life.writer writer worker (.working (.write record (call :: rest)))
        (.working (afterCall record rest)))
      (done : (Store.write life.store ⟨.writer, worker⟩ record.key call).1 = .done ())
      (shared : writer.shared = life.writer.shared) (state : writer.state = life.writer.state) :
      Change life worker ⟨writer, (Store.write life.store ⟨.writer, worker⟩ record.key call).2,
        { life.ledger with stored := life.ledger.stored ++ [(record.key, call)] }⟩
  | refused (writer : Writer) (record : Record) (call : Columns) (rest : List Columns)
      (failure : StoreFailure)
      (moved : Moved life.writer writer worker (.working (.write record (call :: rest)))
        (.working (.fail record.key failure.message)))
      (failed : (Store.write life.store ⟨.writer, worker⟩ record.key call).1 = .failed failure)
      (shared : writer.shared = life.writer.shared) (state : writer.state = life.writer.state) :
      Change life worker ⟨writer, (Store.write life.store ⟨.writer, worker⟩ record.key call).2,
        { life.ledger with refused := life.ledger.refused ++ [(record.key, call)] }⟩
  | broken (writer : Writer) (record : Record) (call : Columns) (rest : List Columns)
      (crash : Crash)
      (moved : Moved life.writer writer worker (.working (.write record (call :: rest)))
        (.crashed crash))
      (crashed : (Store.write life.store ⟨.writer, worker⟩ record.key call).1 = .crashed crash)
      (shared : writer.shared = life.writer.shared) (state : writer.state = life.writer.state) :
      Change life worker ⟨writer, (Store.write life.store ⟨.writer, worker⟩ record.key call).2,
        { life.ledger with lost := life.ledger.lost ++ [record.key] }⟩
  | failed (writer : Writer) (key : Int) (reason : String)
      (moved : Moved life.writer writer worker (.working (.fail key reason)) (.working .checkStop))
      (shared : writer.shared = life.writer.shared)
      (state : writer.state = { life.writer.state with
        failedKeys := life.writer.state.failedKeys.insert key }) :
      Change life worker { life with
        writer, ledger := { life.ledger with failed := life.ledger.failed ++ [key] } }
  | completed (writer : Writer) (record : Record) (written after : WrittenPrefix) (mark : Int)
      (moved : Moved life.writer writer worker (.working (.complete record))
        (.working (.count record)))
      (known : life.writer.state.written = some written)
      (accepted : written.complete record.key = (.ok mark, after))
      (shared : writer.shared = life.writer.shared)
      (state : writer.state = { life.writer.state with written := some after }) :
      Change life worker { life with
        writer, ledger := { life.ledger with completed := life.ledger.completed ++ [record.key] } }
  | rejected (writer : Writer) (record : Record) (crash : Crash)
      (moved : Moved life.writer writer worker (.working (.complete record)) (.crashed crash))
      (unaccepted : ∀ written mark after, life.writer.state.written = some written →
        written.complete record.key ≠ (.ok mark, after))
      (shared : writer.shared = life.writer.shared) (state : writer.state = life.writer.state) :
      Change life worker { life with
        writer, ledger := { life.ledger with lost := life.ledger.lost ++ [record.key] } }
  | counted (writer : Writer) (record : Record)
      (moved : Moved life.writer writer worker (.working (.count record)) (.working .checkStop))
      (shared : writer.shared = { life.writer.shared with
        numKeys := life.writer.shared.numKeys + 1
        numColumns := life.writer.shared.numColumns + record.numColumns })
      (state : writer.state = life.writer.state) :
      Change life worker { life with
        writer, ledger := { life.ledger with counted := life.ledger.counted ++ [record] } }

theorem noted_of_position (life : WriterLife Storage) (worker : Nat) (task : WriterTask)
    (found : life.writer.position? worker = some (.working task)) :
    life.noted worker = life.ledger.note worker life.writer.shared life.store
      (Writer.advance worker task life.writer.shared life.writer.state life.store).move task := by
  rw [noted, found]

theorem change_of_claim (life : WriterLife Storage) (worker : Nat) (writer : Writer)
    (moved : Moved life.writer writer worker (.working .claim) (Pool.positionAfter
      (Writer.claimStep life.writer.shared life.writer.state life.store).move))
    (shared : writer.shared =
      (Writer.claimStep life.writer.shared life.writer.state life.store).shared)
    (state : writer.state =
      (Writer.claimStep life.writer.shared life.writer.state life.store).state) :
    Change life worker ⟨writer,
      (Writer.claimStep life.writer.shared life.writer.state life.store).world,
      life.ledger.note worker life.writer.shared life.store
        (Writer.claimStep life.writer.shared life.writer.state life.store).move .claim⟩ := by
  rw [WriteLedger.note]
  cases known : life.writer.shared.cursor with
  | none =>
    simp only [Writer.claimStep, known] at moved shared state ⊢
    refine .passed writer _ _ moved ?_ state
    rw [shared]
    exact .baseless known
  | some cursor =>
    by_cases left : cursor.next < cursor.range.limit
    · rw [Option.bind_some, (cursor.claim_of_lt left).1]
      simp only [Writer.claimStep, known] at moved shared state ⊢
      rw [cursor.claim_eq_of_lt left] at moved shared state ⊢
      simp only at moved shared state ⊢
      cases bounded : life.writer.state.bounds with
      | none =>
        rw [bounded] at moved shared state
        exact .barren writer cursor _ moved known left
          (fun bounds record some_bounds => by rw [bounded] at some_bounds; cases some_bounds)
          shared state
      | some bounds =>
        rw [bounded] at moved shared state
        simp only at moved shared state ⊢
        cases generated : generate cursor.next bounds with
        | error error =>
          rw [generated] at moved shared state
          exact .barren writer cursor _ moved known left
            (fun other record some_bounds => by
              rw [bounded] at some_bounds
              cases some_bounds
              rw [generated]
              exact fun impossible => nomatch impossible)
            shared state
        | ok record =>
          rw [generated] at moved shared state
          exact .claimed writer cursor bounds record moved known left bounded generated shared state
    · have used := cursor.claim_of_not_lt left
      rw [Option.bind_some, used]
      simp only [Writer.claimStep, known] at moved shared state ⊢
      rw [used] at moved shared state ⊢
      refine .passed writer _ _ moved ?_ state
      rw [shared]
      exact .usedUp cursor known left

theorem change_of_write (life : WriterLife Storage) (worker : Nat) (writer : Writer)
    (record : Record) (calls : List Columns)
    (moved : Moved life.writer writer worker (.working (.write record calls)) (Pool.positionAfter
      (Writer.writeStep worker record calls life.writer.shared life.writer.state life.store).move))
    (shared : writer.shared = life.writer.shared) (state : writer.state = life.writer.state) :
    Change life worker ⟨writer,
      (Writer.writeStep worker record calls life.writer.shared life.writer.state life.store).world,
      life.ledger.note worker life.writer.shared life.store
        (Writer.writeStep worker record calls life.writer.shared life.writer.state life.store).move
        (.write record calls)⟩ := by
  cases calls with
  | nil =>
    refine .passed writer _ _ moved ?_ state
    rw [shared]
    exact .allStored record
  | cons call rest =>
    rw [WriteLedger.note]
    simp only [Writer.writeStep] at moved ⊢
    cases result : (Store.write life.store ⟨.writer, worker⟩ record.key call).1 with
    | done value =>
      rw [result] at moved
      have position : Pool.positionAfter
          (if rest.isEmpty then .to (.complete record) else .to (.write record rest)) =
            .working (afterCall record rest) := by
        rw [afterCall]
        split <;> rfl
      exact .stored writer record call rest (position ▸ moved) result shared state
    | failed failure =>
      rw [result] at moved
      exact .refused writer record call rest failure moved result shared state
    | crashed crash =>
      rw [result] at moved
      exact .broken writer record call rest crash moved result shared state

theorem change_of_complete (life : WriterLife Storage) (worker : Nat) (writer : Writer)
    (record : Record)
    (moved : Moved life.writer writer worker (.working (.complete record)) (Pool.positionAfter
      (Writer.completeStep record life.writer.shared life.writer.state life.store).move))
    (shared : writer.shared =
      (Writer.completeStep record life.writer.shared life.writer.state life.store).shared)
    (state : writer.state =
      (Writer.completeStep record life.writer.shared life.writer.state life.store).state) :
    Change life worker ⟨writer,
      (Writer.completeStep record life.writer.shared life.writer.state life.store).world,
      life.ledger.note worker life.writer.shared life.store
        (Writer.completeStep record life.writer.shared life.writer.state life.store).move
        (.complete record)⟩ := by
  rw [WriteLedger.note]
  cases known : life.writer.state.written with
  | none =>
    simp only [Writer.completeStep, known] at moved shared state ⊢
    refine .rejected writer record _ moved (fun written mark after some_written => ?_) shared state
    rw [known] at some_written
    cases some_written
  | some written =>
    simp only [Writer.completeStep, known] at moved shared state ⊢
    rcases answered : written.complete record.key with ⟨answer, after⟩
    rw [answered] at moved state
    cases answer with
    | error crash =>
      -- What a refused completion leaves behind is what it found.
      have unchanged : { life.writer.state with written := some after } = life.writer.state := by
        rw [WrittenPrefix.eq_of_complete_eq_error answered, ← known]
      refine .rejected writer record crash moved (fun other mark later some_written => ?_) shared
        (state.trans unchanged)
      cases known.symm.trans some_written
      rw [answered]
      exact fun impossible => nomatch impossible
    | ok mark => exact .completed writer record written after mark moved known answered shared state

/-- What a worker does is a step of the pool. -/
theorem stepped_of_work {life next : WriterLife Storage} {worker : Nat}
    (worked : life.work worker = some next) :
    Pool.Stepped Writer.advance life.writer life.store worker next.writer next.store := by
  rw [work, Option.map_eq_some_iff] at worked
  obtain ⟨⟨writer, store, notices⟩, took, rfl⟩ := worked
  exact Pool.stepped_of_step _ _ _ _ _ _ _ _ took

/-- Whatever a worker does is one of the changes. -/
theorem change_of_work (life next : WriterLife Storage) (worker : Nat)
    (worked : life.work worker = some next) : Change life worker next := by
  rw [work, Option.map_eq_some_iff] at worked
  obtain ⟨⟨writer, store, notices⟩, took, equal⟩ := worked
  subst equal
  have stepped := Pool.stepped_of_step _ _ _ _ _ _ _ _ took
  cases stepped with
  | work task _ moved shared state _ _ =>
    rw [noted_of_position life worker task moved.position_eq]
    cases task with
    | checkStop =>
      refine .passed writer _ _ moved ?_ state
      rw [shared]
      show Pass _ _ (Pool.positionAfter (if life.writer.shared.stopRequested then _ else _)) _
      by_cases stopped : life.writer.shared.stopRequested = true
      · rw [if_pos stopped]
        exact .stopSeen stopped
      · rw [if_neg stopped]
        exact .goOn (Bool.eq_false_iff.mpr stopped)
    | claim => exact change_of_claim life worker writer moved shared state
    | write record calls =>
      cases calls <;> exact change_of_write life worker writer record _ moved shared state
    | fail key reason => exact .failed writer key reason moved shared state
    | complete record => exact change_of_complete life worker writer record moved shared state
    | count record => exact .counted writer record moved shared state
  | report crash _ moved shared state _ _ =>
    rw [noted, moved.position_eq]
    refine .passed writer _ _ moved ?_ state
    rw [shared]
    exact .reported crash
  | leave crash _ moved shared state _ _ =>
    rw [noted, moved.position_eq]
    refine .passed writer _ _ moved ?_ state
    rw [shared]
    exact .left crash

end WriterLife

end LoadVerifier
