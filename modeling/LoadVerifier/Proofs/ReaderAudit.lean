/-
This file audits a reader from its start on, linked to a writer or not: its workers take their
steps, somebody may ask it to stop, and the store and the source of watermarks may be changed by
others at any moment.

Beside the reader runs an account of its keys: which worker claimed each of them, what became of it,
and which errors were recorded. The account is read off the steps, from the place of the worker and
from what the store answered, never from the counts of the reader, and it changes none of the steps.
It also notes a moment that the flags of the reader do not show: a worker exceeds the limit of
errors, finds the reader aborted by another worker, and goes on although nobody was asked to stop
yet.

`Change` says once what a step of a worker can do to the reader, its surroundings and the account;
whatever is proved about the account is proved from it.
-/
import LoadVerifier.Proofs.ReaderLife
import LoadVerifier.Proofs.RowContents

namespace LoadVerifier

open LoadVerifier.Random

/-- What became of a key that a worker claimed. A row that was compared matched when it has the
content of the record of its key, whatever problems the comparison reports. The last two are
crashes: of the read, and of the generator where a row was to be compared. -/
inductive Fate
  | unreadable
  | missing
  | unchecked
  | matched
  | mismatched
  | unreachable
  | givenUp
  | broken
  | ungenerated
  deriving DecidableEq

/-- The account of the keys of a reader. -/
structure ReadAccount where
  claims : List (Nat × Int) := []
  fates : List (Int × Fate) := []
  erred : List Int := []
  unstopped : List Nat := []

/-- A reader, what it works on, and the account of its keys. -/
structure ReaderAudit (Storage Source : Type) where
  reader : Reader
  world : ReaderWorld Storage Source
  account : ReadAccount := {}

/-- What can happen to a reader. A reader without a link stays without one. -/
inductive AuditEvent (Storage Source : Type)
  | work (worker : Nat)
  | stop
  | outside (store : Storage) (source : Source)

/-! ### Keeping the account -/

/-- What becomes of a key whose row is counted. -/
def fateOfRow (key : Int) (verify : Bool) (row : Option Columns) (bounds : Bounds) : Fate :=
  match row with
  | none => .missing
  | some columns =>
    if verify then
      match generate key bounds with
      | .error _ => .ungenerated
      | .ok record => if columns.find? = record.columns.find? then .matched else .mismatched
    else .unchecked

/-- The five ways in which a counted row is judged. -/
theorem judge_cases (stream : Stream) (key : Int) (verify : Bool) (row : Option Columns)
    (bounds : Bounds) {motive : Fate → Move ReaderTask → Prop}
    (missing : motive .missing (.to (.recordError stream key [.noData])))
    (unchecked : motive .unchecked (.to (.checkStop stream)))
    (matched : motive .matched (.to (.verified stream key)))
    (mismatched : ∀ problems, motive .mismatched (.to (.recordError stream key problems)))
    (ungenerated : ∀ crash, motive .ungenerated (.crash crash)) :
    motive (fateOfRow key verify row bounds) (Reader.judge stream key verify row bounds) := by
  cases row with
  | none => exact missing
  | some columns =>
    cases verify with
    | false => exact unchecked
    | true =>
      unfold fateOfRow Reader.judge
      simp only [if_true]
      cases generate key bounds with
      | error error => exact ungenerated (.generation error)
      | ok record =>
        have same := compareColumns_eq_nil_iff record columns
        cases found : compareColumns record columns with
        | nil => simpa only [found, same.mp found, if_true] using matched
        | cons problem rest =>
          have differs : columns.find? ≠ record.columns.find? :=
            mt same.mpr (found ▸ List.cons_ne_nil problem rest)
          simpa only [found, differs, reduceCtorEq, if_false] using mismatched (problem :: rest)

namespace ReadAccount

/-- The key is done with. -/
def close (account : ReadAccount) (key : Int) (fate : Fate) : ReadAccount :=
  { account with fates := account.fates ++ [(key, fate)] }

variable {Storage Source : Type} [Store Storage]

/-- The account after the next step of a worker at a task. -/
def note (account : ReadAccount) (worker : Nat) (shared : Shared) (state : ReaderState)
    (world : ReaderWorld Storage Source) : ReaderTask → ReadAccount
  | .claim _ =>
    match shared.cursor.bind fun cursor => cursor.claim.1 with
    | none => account
    | some key => { account with claims := account.claims ++ [(worker, key)] }
  | .pause _ key _ => if shared.stopRequested then account.close key .givenUp else account
  | .unreachable _ key => account.close key .unreachable
  | .read _ key _ =>
    match (Store.read world.store ⟨.reader, worker⟩ key).1 with
    | .done _ => account
    | .failed _ => account.close key .unreadable
    | .crashed _ => account.close key .broken
  | .countRow _ key verify row => account.close key (fateOfRow key verify row state.bounds)
  | .recordError _ key _ => { account with erred := account.erred ++ [key] }
  | .abort _ _ =>
    if state.aborted && !shared.stopRequested then
      { account with unstopped := account.unstopped ++ [worker] }
    else account
  | .seed | .checkStop _ | .look _ _ _ | .askFinished _ _ _ | .lookAgain _ _ | .countRead _ _ _ _
  | .verified _ _ | .stopPool _ _ => account

end ReadAccount

namespace ReaderAudit

variable {Storage Source : Type} [Store Storage] [WatermarkSource Source]

/-- The account after the next step of a worker. -/
def noted (audit : ReaderAudit Storage Source) (worker : Nat) : ReadAccount :=
  match audit.reader.position? worker with
  | some (.working task) =>
    audit.account.note worker audit.reader.shared audit.reader.state audit.world task
  | _ => audit.account

/-- A step of a worker. -/
def work (audit : ReaderAudit Storage Source) (worker : Nat) :
    Option (ReaderAudit Storage Source) :=
  (audit.reader.step audit.world worker).map fun (reader, world, _) =>
    ⟨reader, world, audit.noted worker⟩

/-- What happens at an event; `none` when it cannot happen. -/
def step (audit : ReaderAudit Storage Source) :
    AuditEvent Storage Source → Option (ReaderAudit Storage Source)
  | .work worker => audit.work worker
  | .stop => some { audit with reader := audit.reader.stop }
  | .outside store source =>
    some { audit with world := ⟨store, audit.world.source.map fun _ => source⟩ }

/-! ### What a step of a worker can do -/

open Pool (Moved)

/-- A worker goes on without a key of its own, and changes nothing. -/
inductive Wanders (shared : Shared) (state : ReaderState) (worker : Nat) :
    Position ReaderTask → Position ReaderTask → Prop
  | seeded (stream : Stream) (drawn : Reader.streamOf state.seed worker = .ok stream) :
      Wanders shared state worker (.working .seed) (.working (.checkStop stream))
  | unseeded (crash : Crash) (failed : Reader.streamOf state.seed worker = .error crash) :
      Wanders shared state worker (.working .seed) (.crashed crash)
  | goOn (stream : Stream) (running : shared.stopRequested = false) :
      Wanders shared state worker (.working (.checkStop stream)) (.working (.claim stream))
  | stopSeen (stream : Stream) (stopped : shared.stopRequested = true) :
      Wanders shared state worker (.working (.checkStop stream)) (.leaving none)
  | usedUp (stream : Stream) (cursor : Cursor) (known : shared.cursor = some cursor)
      (used : ¬cursor.next < cursor.range.limit) :
      Wanders shared state worker (.working (.claim stream)) (.leaving none)
  | baseless (stream : Stream) (unknown : shared.cursor = none) :
      Wanders shared state worker (.working (.claim stream)) (.crashed (.lacking .cursor))
  | left (crash : Option Crash) : Wanders shared state worker (.leaving crash) (.left crash)

/-- A worker goes on with the key it waits for. -/
inductive Waits (state : ReaderState) (key : Int) : ReaderTask → ReaderTask → Prop
  | ripe (stream : Stream) (delay : Nat) :
      Waits state key (.look stream key delay) (Reader.readTask stream key state)
  | unripe (stream : Stream) (delay : Nat) :
      Waits state key (.look stream key delay) (.askFinished stream key delay)
  | ended (stream : Stream) (delay : Nat) :
      Waits state key (.askFinished stream key delay) (.lookAgain stream key)
  | goesOn (stream : Stream) (delay : Nat) :
      Waits state key (.askFinished stream key delay) (.pause stream key delay)
  | unlinked (stream : Stream) (delay : Nat) :
      Waits state key (.askFinished stream key delay) (Reader.readTask stream key state)
  | reached (stream : Stream) :
      Waits state key (.lookAgain stream key) (Reader.readTask stream key state)
  | missed (stream : Stream) : Waits state key (.lookAgain stream key) (.unreachable stream key)
  | woken (stream : Stream) (delay : Nat) :
      Waits state key (.pause stream key delay)
        (.look stream key (min (2 * delay) Reader.maxDelay))

/-- What a step of a worker can do to a reader, its surroundings and the account. -/
inductive Change (audit : ReaderAudit Storage Source) (worker : Nat) :
    ReaderAudit Storage Source → Prop
  | wandered (reader : Reader) (before after : Position ReaderTask)
      (wanders : Wanders audit.reader.shared audit.reader.state worker before after)
      (moved : Moved audit.reader reader worker before after)
      (shared : reader.shared = audit.reader.shared) (state : reader.state = audit.reader.state) :
      Change audit worker { audit with reader }
  | claimed (reader : Reader) (stream : Stream) (cursor : Cursor)
      (known : audit.reader.shared.cursor = some cursor) (left : cursor.next < cursor.range.limit)
      (moved : Moved audit.reader reader worker (.working (.claim stream))
        (.working (if audit.world.source.isSome then .look stream cursor.next Reader.minDelay
          else Reader.readTask stream cursor.next audit.reader.state)))
      (shared : reader.shared = { audit.reader.shared with cursor := some cursor.claim.2 })
      (state : reader.state = audit.reader.state) :
      Change audit worker { audit with
        reader
        account := { audit.account with
          claims := audit.account.claims ++ [(worker, cursor.next)] } }
  | waited (reader : Reader) (before after : ReaderTask) (key : Int) (source : Option Source)
      (waits : Waits audit.reader.state key before after)
      (linked : source.isSome = audit.world.source.isSome)
      (moved : Moved audit.reader reader worker (.working before) (.working after))
      (shared : reader.shared = audit.reader.shared) (state : reader.state = audit.reader.state) :
      Change audit worker { audit with reader, world := { audit.world with source } }
  | gaveUp (reader : Reader) (stream : Stream) (key : Int) (delay : Nat)
      (stopped : audit.reader.shared.stopRequested = true)
      (moved : Moved audit.reader reader worker (.working (.pause stream key delay))
        (.working (.checkStop stream)))
      (shared : reader.shared = audit.reader.shared) (state : reader.state = audit.reader.state) :
      Change audit worker { audit with reader, account := audit.account.close key .givenUp }
  | missed (reader : Reader) (stream : Stream) (key : Int)
      (moved : Moved audit.reader reader worker (.working (.unreachable stream key))
        (.working (.checkStop stream)))
      (shared : reader.shared = audit.reader.shared)
      (state : reader.state = { audit.reader.state with
        tally := audit.reader.state.tally.countUnreachable }) :
      Change audit worker { audit with reader, account := audit.account.close key .unreachable }
  | read (reader : Reader) (stream : Stream) (key : Int) (verify : Bool) (row : Option Columns)
      (answer : (Store.read audit.world.store ⟨.reader, worker⟩ key).1 = .done row)
      (moved : Moved audit.reader reader worker (.working (.read stream key verify))
        (.working (.countRead stream key verify row)))
      (shared : reader.shared = audit.reader.shared) (state : reader.state = audit.reader.state) :
      Change audit worker { audit with
        reader
        world := { audit.world with
          store := (Store.read audit.world.store ⟨.reader, worker⟩ key).2 } }
  | refused (reader : Reader) (stream : Stream) (key : Int) (verify : Bool)
      (failure : StoreFailure)
      (answer : (Store.read audit.world.store ⟨.reader, worker⟩ key).1 = .failed failure)
      (moved : Moved audit.reader reader worker (.working (.read stream key verify))
        (.working (.recordError stream key [.unreadable failure.message])))
      (shared : reader.shared = audit.reader.shared) (state : reader.state = audit.reader.state) :
      Change audit worker { audit with
        reader
        world := { audit.world with
          store := (Store.read audit.world.store ⟨.reader, worker⟩ key).2 }
        account := audit.account.close key .unreadable }
  | broke (reader : Reader) (stream : Stream) (key : Int) (verify : Bool) (crash : Crash)
      (answer : (Store.read audit.world.store ⟨.reader, worker⟩ key).1 = .crashed crash)
      (moved : Moved audit.reader reader worker (.working (.read stream key verify))
        (.crashed crash))
      (shared : reader.shared = audit.reader.shared) (state : reader.state = audit.reader.state) :
      Change audit worker { audit with
        reader
        world := { audit.world with
          store := (Store.read audit.world.store ⟨.reader, worker⟩ key).2 }
        account := audit.account.close key .broken }
  | countedRead (reader : Reader) (stream : Stream) (key : Int) (verify : Bool)
      (row : Option Columns)
      (moved : Moved audit.reader reader worker (.working (.countRead stream key verify row))
        (.working (.countRow stream key verify row)))
      (shared : reader.shared = audit.reader.shared)
      (state : reader.state = { audit.reader.state with
        tally := audit.reader.state.tally.countRead }) :
      Change audit worker { audit with reader }
  | countedRow (reader : Reader) (stream : Stream) (key : Int) (verify : Bool)
      (row : Option Columns)
      (moved : Moved audit.reader reader worker (.working (.countRow stream key verify row))
        (Pool.positionAfter (Reader.judge stream key verify row audit.reader.state.bounds)))
      (shared : reader.shared = { audit.reader.shared with
        numKeys := audit.reader.shared.numKeys + 1
        numColumns := audit.reader.shared.numColumns + (row.map ColumnMap.size).getD 0 })
      (state : reader.state = audit.reader.state) :
      Change audit worker { audit with
        reader
        account := audit.account.close key (fateOfRow key verify row audit.reader.state.bounds) }
  | verified (reader : Reader) (stream : Stream) (key : Int)
      (moved : Moved audit.reader reader worker (.working (.verified stream key))
        (.working (.checkStop stream)))
      (shared : reader.shared = audit.reader.shared)
      (state : reader.state = { audit.reader.state with
        tally := audit.reader.state.tally.countVerified }) :
      Change audit worker { audit with reader }
  | erred (reader : Reader) (stream : Stream) (key : Int) (problems : List Problem)
      (moved : Moved audit.reader reader worker (.working (.recordError stream key problems))
        (.working (if ((audit.reader.state.tally.errors + 1 : Nat) : Int) ≤
            audit.reader.state.maxErrors then .checkStop stream
          else .abort stream (audit.reader.state.tally.errors + 1))))
      (shared : reader.shared = audit.reader.shared)
      (state : reader.state = { audit.reader.state with
        tally := audit.reader.state.tally.countError key }) :
      Change audit worker { audit with
        reader, account := { audit.account with erred := audit.account.erred ++ [key] } }
  | foundAborted (reader : Reader) (stream : Stream) (errors : Nat)
      (aborted : audit.reader.state.aborted = true)
      (moved : Moved audit.reader reader worker (.working (.abort stream errors))
        (.working (.checkStop stream)))
      (shared : reader.shared = audit.reader.shared) (state : reader.state = audit.reader.state) :
      Change audit worker { audit with
        reader
        account := { audit.account with
          unstopped := audit.account.unstopped ++
            if audit.reader.shared.stopRequested then [] else [worker] } }
  | aborted (reader : Reader) (stream : Stream) (errors : Nat)
      (unaborted : audit.reader.state.aborted = false)
      (moved : Moved audit.reader reader worker (.working (.abort stream errors))
        (.working (.stopPool stream errors)))
      (shared : reader.shared = audit.reader.shared)
      (state : reader.state = { audit.reader.state with aborted := true }) :
      Change audit worker { audit with reader }
  | stoppedPool (reader : Reader) (stream : Stream) (errors : Nat)
      (moved : Moved audit.reader reader worker (.working (.stopPool stream errors))
        (.working (.checkStop stream)))
      (shared : reader.shared = { audit.reader.shared with stopRequested := true })
      (state : reader.state = audit.reader.state) :
      Change audit worker { audit with reader }
  | reported (reader : Reader) (crash : Crash)
      (moved : Moved audit.reader reader worker (.crashed crash) (.leaving (some crash)))
      (shared : reader.shared = { audit.reader.shared with stopRequested := true })
      (state : reader.state = audit.reader.state) :
      Change audit worker { audit with reader }

/-! ### The turns of the tasks -/

/-- The turn of a worker at a task. -/
def turn (audit : ReaderAudit Storage Source) (worker : Nat) (task : ReaderTask) :
    Turn ReaderState ReaderTask (ReaderWorld Storage Source) :=
  Reader.advance worker task audit.reader.shared audit.reader.state audit.world

/-- The reader after the turn of a worker at a task. -/
structure Turned (audit : ReaderAudit Storage Source) (worker : Nat) (task : ReaderTask)
    (reader : Reader) : Prop where
  moved : Moved audit.reader reader worker (.working task)
    (Pool.positionAfter (audit.turn worker task).move)
  shared : reader.shared = (audit.turn worker task).shared
  state : reader.state = (audit.turn worker task).state

/-- The audit after the turn of a worker at a task. -/
def afterTurn (audit : ReaderAudit Storage Source) (worker : Nat) (task : ReaderTask)
    (reader : Reader) : ReaderAudit Storage Source :=
  ⟨reader, (audit.turn worker task).world,
    audit.account.note worker audit.reader.shared audit.reader.state audit.world task⟩

variable {audit : ReaderAudit Storage Source} {worker : Nat} {reader : Reader}

/-- A turn that changes nothing but the place of the worker. -/
theorem change_of_wandering (task : ReaderTask) (move : Move ReaderTask)
    (turned : audit.Turned worker task reader)
    (turnEq : audit.turn worker task =
      { move, shared := audit.reader.shared, state := audit.reader.state, world := audit.world })
    (silent : audit.account.note worker audit.reader.shared audit.reader.state audit.world task =
      audit.account)
    (wanders : Wanders audit.reader.shared audit.reader.state worker (.working task)
      (Pool.positionAfter move)) :
    Change audit worker (audit.afterTurn worker task reader) := by
  obtain ⟨moved, shared, state⟩ := turned
  rw [turnEq] at moved shared state
  rw [afterTurn, turnEq, silent]
  exact .wandered reader _ _ wanders moved shared state

theorem change_of_seed (turned : audit.Turned worker .seed reader) :
    Change audit worker (audit.afterTurn worker .seed reader) := by
  cases drawn : Reader.streamOf audit.reader.state.seed worker with
  | ok stream =>
    refine change_of_wandering .seed (.to (.checkStop stream)) turned ?_ rfl (.seeded stream drawn)
    simp only [turn, Reader.advance, drawn, Reader.goTo]
  | error crash =>
    refine change_of_wandering .seed (.crash crash) turned ?_ rfl (.unseeded crash drawn)
    simp only [turn, Reader.advance, drawn]

theorem change_of_checkStop (stream : Stream)
    (turned : audit.Turned worker (.checkStop stream) reader) :
    Change audit worker (audit.afterTurn worker (.checkStop stream) reader) := by
  cases stopped : audit.reader.shared.stopRequested with
  | true =>
    refine change_of_wandering _ .exit turned ?_ rfl (.stopSeen stream stopped)
    simp only [turn, Reader.advance, stopped, if_true]
  | false =>
    refine change_of_wandering _ (.to (.claim stream)) turned ?_ rfl (.goOn stream stopped)
    simp only [turn, Reader.advance, stopped, Bool.false_eq_true, if_false, Reader.goTo]

theorem change_of_claim (stream : Stream) (turned : audit.Turned worker (.claim stream) reader) :
    Change audit worker (audit.afterTurn worker (.claim stream) reader) := by
  cases known : audit.reader.shared.cursor with
  | none =>
    refine change_of_wandering _ (.crash (.lacking .cursor)) turned ?_ ?_ (.baseless stream known)
    · simp only [turn, Reader.advance, Reader.claimStep, known]
    · simp only [ReadAccount.note, known, Option.bind_none]
  | some cursor =>
    by_cases left : cursor.next < cursor.range.limit
    · obtain ⟨moved, shared, state⟩ := turned
      have turnEq : audit.turn worker (.claim stream) = Reader.goTo
          (if audit.world.source.isSome then .look stream cursor.next Reader.minDelay
            else Reader.readTask stream cursor.next audit.reader.state)
          { audit.reader.shared with cursor := some cursor.claim.2 } audit.reader.state
          audit.world := by
        simp only [turn, Reader.advance, Reader.claimStep, known]
        rw [cursor.claim_eq_of_lt left]
        cases audit.world.source.isSome <;> rfl
      rw [turnEq] at moved shared state
      rw [afterTurn, turnEq, ReadAccount.note, known, Option.bind_some,
        (cursor.claim_of_lt left).1]
      exact .claimed reader stream cursor known left moved shared state
    · have used := cursor.claim_of_not_lt left
      refine change_of_wandering _ .exit turned ?_ ?_ (.usedUp stream cursor known left)
      · simp only [turn, Reader.advance, Reader.claimStep, known, used]
      · simp only [ReadAccount.note, known, used, Option.bind_some]

/-- A turn that changes nothing but what the source answers next. -/
theorem change_of_waiting (task after : ReaderTask) (key : Int) (source : Option Source)
    (turned : audit.Turned worker task reader)
    (turnEq : audit.turn worker task = Reader.goTo after audit.reader.shared audit.reader.state
      { audit.world with source })
    (silent : audit.account.note worker audit.reader.shared audit.reader.state audit.world task =
      audit.account)
    (linked : source.isSome = audit.world.source.isSome)
    (waits : Waits audit.reader.state key task after) :
    Change audit worker (audit.afterTurn worker task reader) := by
  obtain ⟨moved, shared, state⟩ := turned
  rw [turnEq] at moved shared state
  rw [afterTurn, turnEq, silent]
  exact .waited reader task after key source waits linked moved shared state

theorem change_of_look (stream : Stream) (key : Int) (delay : Nat)
    (turned : audit.Turned worker (.look stream key delay) reader) :
    Change audit worker (audit.afterTurn worker (.look stream key delay) reader) := by
  have turnEq : audit.turn worker (.look stream key delay) =
      Reader.lookStep stream key delay audit.reader.shared audit.reader.state audit.world := rfl
  unfold Reader.lookStep at turnEq
  split at turnEq
  · exact change_of_waiting _ _ key audit.world.source turned turnEq rfl rfl (.ripe stream delay)
  · rename_i source linked
    have stillLinked : (some (WatermarkSource.mark source).2).isSome =
        audit.world.source.isSome := by
      rw [linked, Option.isSome_some, Option.isSome_some]
    dsimp only at turnEq
    split at turnEq
    · exact change_of_waiting _ _ key _ turned turnEq rfl stillLinked (.ripe stream delay)
    · exact change_of_waiting _ _ key _ turned turnEq rfl stillLinked (.unripe stream delay)

theorem change_of_askFinished (stream : Stream) (key : Int) (delay : Nat)
    (turned : audit.Turned worker (.askFinished stream key delay) reader) :
    Change audit worker (audit.afterTurn worker (.askFinished stream key delay) reader) := by
  have turnEq : audit.turn worker (.askFinished stream key delay) =
      Reader.askFinishedStep stream key delay audit.reader.shared audit.reader.state
        audit.world := rfl
  unfold Reader.askFinishedStep at turnEq
  split at turnEq
  · exact change_of_waiting _ _ key audit.world.source turned turnEq rfl rfl
      (.unlinked stream delay)
  · rename_i source linked
    have stillLinked : (some (WatermarkSource.finished source).2).isSome =
        audit.world.source.isSome := by
      rw [linked, Option.isSome_some, Option.isSome_some]
    dsimp only at turnEq
    split at turnEq
    · exact change_of_waiting _ _ key _ turned turnEq rfl stillLinked (.ended stream delay)
    · exact change_of_waiting _ _ key _ turned turnEq rfl stillLinked (.goesOn stream delay)

theorem change_of_lookAgain (stream : Stream) (key : Int)
    (turned : audit.Turned worker (.lookAgain stream key) reader) :
    Change audit worker (audit.afterTurn worker (.lookAgain stream key) reader) := by
  have turnEq : audit.turn worker (.lookAgain stream key) =
      Reader.lookAgainStep stream key audit.reader.shared audit.reader.state audit.world := rfl
  unfold Reader.lookAgainStep at turnEq
  split at turnEq
  · exact change_of_waiting _ _ key audit.world.source turned turnEq rfl rfl (.reached stream)
  · rename_i source linked
    have stillLinked : (some (WatermarkSource.mark source).2).isSome =
        audit.world.source.isSome := by
      rw [linked, Option.isSome_some, Option.isSome_some]
    dsimp only at turnEq
    split at turnEq
    · exact change_of_waiting _ _ key _ turned turnEq rfl stillLinked (.reached stream)
    · exact change_of_waiting _ _ key _ turned turnEq rfl stillLinked (.missed stream)

theorem change_of_pause (stream : Stream) (key : Int) (delay : Nat)
    (turned : audit.Turned worker (.pause stream key delay) reader) :
    Change audit worker (audit.afterTurn worker (.pause stream key delay) reader) := by
  cases stopped : audit.reader.shared.stopRequested with
  | true =>
    obtain ⟨moved, shared, state⟩ := turned
    have turnEq : audit.turn worker (.pause stream key delay) =
        Reader.goTo (.checkStop stream) audit.reader.shared audit.reader.state audit.world := by
      simp only [turn, Reader.advance, stopped, if_true]
    rw [turnEq] at moved shared state
    rw [afterTurn, turnEq, ReadAccount.note, if_pos stopped]
    exact .gaveUp reader stream key delay stopped moved shared state
  | false =>
    refine change_of_waiting _ _ key audit.world.source turned ?_ ?_ rfl (.woken stream delay)
    · simp only [turn, Reader.advance, stopped, Bool.false_eq_true, if_false]
    · simp only [ReadAccount.note, stopped, Bool.false_eq_true, if_false]

theorem change_of_read (stream : Stream) (key : Int) (verify : Bool)
    (turned : audit.Turned worker (.read stream key verify) reader) :
    Change audit worker (audit.afterTurn worker (.read stream key verify) reader) := by
  obtain ⟨moved, shared, state⟩ := turned
  have turnEq : audit.turn worker (.read stream key verify) =
      Reader.readStep worker stream key verify audit.reader.shared audit.reader.state
        audit.world := rfl
  simp only [Reader.readStep] at turnEq
  rw [afterTurn, ReadAccount.note]
  cases answer : (Store.read audit.world.store ⟨.reader, worker⟩ key).1 with
  | done row =>
    rw [answer] at turnEq
    rw [turnEq] at moved shared state ⊢
    exact .read reader stream key verify row answer moved shared state
  | failed failure =>
    rw [answer] at turnEq
    rw [turnEq] at moved shared state ⊢
    exact .refused reader stream key verify failure answer moved shared state
  | crashed crash =>
    rw [answer] at turnEq
    rw [turnEq] at moved shared state ⊢
    exact .broke reader stream key verify crash answer moved shared state

theorem change_of_recordError (stream : Stream) (key : Int) (problems : List Problem)
    (turned : audit.Turned worker (.recordError stream key problems) reader) :
    Change audit worker (audit.afterTurn worker (.recordError stream key problems) reader) :=
  .erred reader stream key problems turned.moved turned.shared turned.state

theorem change_of_abort (stream : Stream) (errors : Nat)
    (turned : audit.Turned worker (.abort stream errors) reader) :
    Change audit worker (audit.afterTurn worker (.abort stream errors) reader) := by
  obtain ⟨moved, shared, state⟩ := turned
  cases aborted : audit.reader.state.aborted with
  | true =>
    have turnEq : audit.turn worker (.abort stream errors) =
        Reader.goTo (.checkStop stream) audit.reader.shared audit.reader.state audit.world := by
      simp only [turn, Reader.advance, aborted, if_true]
    have noted : audit.account.note worker audit.reader.shared audit.reader.state audit.world
        (.abort stream errors) = { audit.account with
          unstopped := audit.account.unstopped ++
            if audit.reader.shared.stopRequested then [] else [worker] } := by
      rw [ReadAccount.note, aborted]
      cases audit.reader.shared.stopRequested with
      | true => rw [if_pos rfl, List.append_nil]; rfl
      | false => rfl
    rw [turnEq] at moved shared state
    rw [afterTurn, turnEq, noted]
    exact .foundAborted reader stream errors aborted moved shared state
  | false =>
    have turnEq : audit.turn worker (.abort stream errors) =
        Reader.goTo (.stopPool stream errors) audit.reader.shared
          { audit.reader.state with aborted := true } audit.world := by
      simp only [turn, Reader.advance, aborted, Bool.false_eq_true, if_false]
    have noted : audit.account.note worker audit.reader.shared audit.reader.state audit.world
        (.abort stream errors) = audit.account := by
      rw [ReadAccount.note, aborted]
      rfl
    rw [turnEq] at moved shared state
    rw [afterTurn, turnEq, noted]
    exact .aborted reader stream errors aborted moved shared state

/-- Whatever a worker does at a task is one of the changes. -/
theorem change_of_turn (task : ReaderTask) (turned : audit.Turned worker task reader) :
    Change audit worker (audit.afterTurn worker task reader) := by
  cases task with
  | seed => exact change_of_seed turned
  | checkStop stream => exact change_of_checkStop stream turned
  | claim stream => exact change_of_claim stream turned
  | look stream key delay => exact change_of_look stream key delay turned
  | askFinished stream key delay => exact change_of_askFinished stream key delay turned
  | lookAgain stream key => exact change_of_lookAgain stream key turned
  | unreachable stream key =>
    exact .missed reader stream key turned.moved turned.shared turned.state
  | pause stream key delay => exact change_of_pause stream key delay turned
  | read stream key verify => exact change_of_read stream key verify turned
  | countRead stream key verify row =>
    exact .countedRead reader stream key verify row turned.moved turned.shared turned.state
  | countRow stream key verify row =>
    exact .countedRow reader stream key verify row turned.moved turned.shared turned.state
  | verified stream key =>
    exact .verified reader stream key turned.moved turned.shared turned.state
  | recordError stream key problems => exact change_of_recordError stream key problems turned
  | abort stream errors => exact change_of_abort stream errors turned
  | stopPool stream errors =>
    exact .stoppedPool reader stream errors turned.moved turned.shared turned.state

/-- What a worker does is a step of the pool. -/
theorem stepped_of_work {next : ReaderAudit Storage Source}
    (worked : audit.work worker = some next) :
    Pool.Stepped Reader.advance audit.reader audit.world worker next.reader next.world := by
  rw [work, Option.map_eq_some_iff] at worked
  obtain ⟨⟨reader, world, notices⟩, took, rfl⟩ := worked
  exact Pool.stepped_of_step _ _ _ _ _ _ _ _ took

/-- Whatever a worker does is one of the changes. -/
theorem change_of_work (audit next : ReaderAudit Storage Source) (worker : Nat)
    (worked : audit.work worker = some next) : Change audit worker next := by
  rw [work, Option.map_eq_some_iff] at worked
  obtain ⟨⟨reader, world, notices⟩, took, equal⟩ := worked
  subst equal
  have stepped := Pool.stepped_of_step _ _ _ _ _ _ _ _ took
  cases stepped with
  | work task _ moved shared state _ _ =>
    rw [noted, moved.position_eq]
    exact change_of_turn task ⟨moved, shared, state⟩
  | report crash _ moved shared state _ _ =>
    rw [noted, moved.position_eq]
    exact .reported reader crash moved shared state
  | leave crash _ moved shared state _ _ =>
    rw [noted, moved.position_eq]
    exact .wandered reader _ _ (.left crash) moved shared state

omit [WatermarkSource Source] in
/-- Every step moves one worker. -/
theorem Change.moved {next : ReaderAudit Storage Source} (change : Change audit worker next) :
    ∃ before after, Moved audit.reader next.reader worker before after := by
  cases change <;> exact ⟨_, _, ‹Moved _ _ _ _ _›⟩

omit [WatermarkSource Source] in
/-- A worker changes nothing that the reader was told, but only the tally and the abort flag. -/
theorem Change.settings_eq {next : ReaderAudit Storage Source}
    (change : Change audit worker next) :
    next.reader.state = { audit.reader.state with
      tally := next.reader.state.tally, aborted := next.reader.state.aborted } := by
  cases change <;> rename_i state <;> rw [state]

omit [WatermarkSource Source] in
/-- The range of a reader stays the same. -/
theorem Change.range?_eq {next : ReaderAudit Storage Source} (change : Change audit worker next) :
    Pool.range? next.reader = Pool.range? audit.reader := by
  rw [Pool.range?, Pool.range?]
  cases change with
  | claimed reader stream cursor known left moved shared state =>
    rw [shared, known]
    exact congrArg some cursor.claim_range
  | _ =>
    rename_i shared state
    rw [shared]

theorem counted_of_work {next : ReaderAudit Storage Source}
    (worked : audit.work worker = some next) (counted : Pool.Counted audit.reader) :
    Pool.Counted next.reader :=
  (stepped_of_work worked).counted counted

end ReaderAudit

end LoadVerifier
