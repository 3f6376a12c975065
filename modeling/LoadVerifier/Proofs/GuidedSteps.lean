/-
This file says what a step of a worker owes to the settings of its engine.

A worker of a writer takes the keys of the range in turn, generates each record within the bounds,
and stores it in the mode. A worker of a reader draws once for each key that it goes on to read, and
compares the row of the key if the draw is below the percentage. It waits for the writer that the
reader is linked to, and for no other one, until that writer is the window ahead. The row that it
compares is to have the content of the record within the bounds. And it aborts the reader as soon as
there are more errors than allowed.

Nothing here is said with the code's own decisions: neither with its way to decide for a comparison,
to tell how far a reader may go, to compare a row, or to cut a record into calls.
-/
import LoadVerifier.Proofs.Lifecycle
import LoadVerifier.Proofs.ReaderSample

namespace LoadVerifier

open LoadVerifier.Random

variable {Storage : Type} [Store Storage]

/-! ### Writers -/

namespace WritePlan

/-- The calls that store a record in the mode of the plan: one call with the whole row, or one call
for each of its cells. -/
def Spells (plan : WritePlan) (record : Record) (calls : List Columns) : Prop :=
  calls.map (·.cells) =
    if plan.multiPut then [record.columns.cells] else record.columns.cells.map fun cell => [cell]

/-- A writer has the settings of a plan. -/
structure Told (plan : WritePlan) (writer : Writer) : Prop where
  bounds : writer.state.bounds = some plan.bounds
  multiPut : writer.state.multiPut = plan.multiPut
  range : Pool.range? writer = some plan.range

section Steps

variable {plan : WritePlan} {writer next : Writer} {store after : Storage} {worker : Nat}

end Steps

end WritePlan

/-! ### Readers -/

/-- A reader with its link, and what surrounds it. -/
abbrev ReadSession (Storage Source : Type) :=
  Session LinkableReader (ReaderSurroundings Storage Source)

namespace ReadSession

variable {Source : Type}

/-- A worker of the reader is at a task. -/
def At (session : ReadSession Storage Source) (worker : Nat) (task : ReaderTask) : Prop :=
  session.engine.reader.At worker task

/-- A worker of the reader is going to read a key. -/
def Reads (session : ReadSession Storage Source) (worker : Nat) (key : Int) : Prop :=
  ∃ stream verify, session.At worker (.read stream key verify)

end ReadSession

namespace ReadPlan

variable {Source : Type} [WatermarkSource Source]

/-- What a step of a worker owes to the range, to the window and to the link. -/
structure Waits (plan : ReadPlan) (link? : Option Nat) (worker : Nat)
    (before after : ReadSession Storage Source) : Prop where
  /-- A worker leaves when the range is used up. Otherwise it takes the next key, which it reads at
  once if the reader is not linked. -/
  claims : ∀ stream, before.At worker (.claim stream) →
    ∃ cursor, before.engine.reader.shared.cursor = some cursor ∧ cursor.range = plan.range ∧
      (plan.range.limit ≤ cursor.next →
        after.engine.reader.position? worker = some (.leaving none)) ∧
      (cursor.next < plan.range.limit →
        after.engine.reader.shared.cursor.map (·.next) = some (cursor.next + 1) ∧
        (link? = none → after.Reads worker cursor.next) ∧
        (link? ≠ none → ∃ delay, after.At worker (.look stream cursor.next delay)))
  /-- It reads a key when the linked writer has written the whole range, or is the window ahead of
  the key. -/
  looks : ∀ stream key delay writer, link? = some writer →
    before.At worker (.look stream key delay) →
      let mark := (WatermarkSource.mark (before.world.writers writer)).1
      let readable := if plan.range.last ≤ mark then key ≤ plan.range.last
        else key + plan.keyWindow ≤ mark
      (readable → after.Reads worker key) ∧
        (¬readable → after.At worker (.askFinished stream key delay))
  /-- Until then it goes on waiting, unless the linked writer is finished. -/
  asks : ∀ stream key delay writer, link? = some writer →
    before.At worker (.askFinished stream key delay) →
      after.At worker
        (if (WatermarkSource.finished (before.world.writers writer)).1 then .lookAgain stream key
        else .pause stream key delay)
  /-- Then it reads the key if that writer has come to it. -/
  looksAgain : ∀ stream key writer, link? = some writer →
    before.At worker (.lookAgain stream key) →
      let mark := (WatermarkSource.mark (before.world.writers writer)).1
      (key ≤ mark → after.Reads worker key) ∧
        (mark < key → after.At worker (.unreachable stream key))
  /-- There is no other way for a linked reader to read a key. -/
  reads : ∀ task key, link? ≠ none → before.At worker task → after.Reads worker key →
    (∃ stream delay, task = .look stream key delay) ∨ ∃ stream, task = .lookAgain stream key
  /-- No other writer is asked for anything. -/
  others : ∀ writer, link? ≠ some writer → after.world.writers writer = before.world.writers writer

/-- A reader has the settings of a plan. -/
structure Told (plan : ReadPlan) (link? : Option Nat) (engine : LinkableReader) : Prop where
  bounds : engine.reader.state.bounds = plan.bounds
  seed : engine.reader.state.seed = plan.seed
  verifyPercent : engine.reader.state.verifyPercent = plan.verifyPercent
  maxErrors : engine.reader.state.maxErrors = plan.maxErrors
  keyWindow : engine.reader.state.keyWindow = plan.keyWindow
  range : Pool.range? engine.reader = some plan.range
  link : engine.link? = link?

/-- A worker goes on with the stream that it has, or draws from it to read a key. A linked one does
so only after a look at the watermark. -/
inductive GoesOn (state : ReaderState) (linked : Bool) (task : ReaderTask) : ReaderTask → Prop
  | keeps (next : ReaderTask) (undrawn : drawnAt next = [])
      (same : ∀ stream, streamAt task = some stream → streamAt next = some stream) :
      GoesOn state linked task next
  | draws (stream : Stream) (key : Int) (has : streamAt task = some stream)
      (looked : linked = true →
        (∃ delay, task = .look stream key delay) ∨ task = .lookAgain stream key) :
      GoesOn state linked task (Reader.readTask stream key state)

theorem goesOn_judge {next : ReaderTask} (state : ReaderState) (linked : Bool) (stream : Stream)
    (key : Int) (verify : Bool) (row : Option Columns)
    (moves : Reader.judge stream key verify row state.bounds = .to next) :
    GoesOn state linked (.countRow stream key verify row) next := by
  unfold Reader.judge at moves
  split at moves
  · cases moves
    exact .keeps _ rfl fun _ => id
  · split at moves
    · split at moves
      · cases moves
      · split at moves <;> cases moves <;> exact .keeps _ rfl fun _ => id
    · cases moves
      exact .keeps _ rfl fun _ => id

/-- Every task goes on so. -/
theorem goesOn_of_advance {task next : ReaderTask} {shared : Shared} {state : ReaderState}
    {world : ReaderWorld Storage Source} (worker : Int)
    (moves : (Reader.advance worker task shared state world).move = .to next) :
    GoesOn state world.source.isSome task next := by
  cases task with
  | seed =>
    rw [Reader.advance] at moves
    split at moves
    · cases moves
    · cases moves
      refine .keeps _ rfl fun _ impossible => ?_
      cases impossible
  | checkStop stream =>
    rw [Reader.advance] at moves
    split at moves
    · cases moves
    · cases moves
      exact .keeps _ rfl fun _ => id
  | claim stream =>
    rw [Reader.advance, Reader.claimStep] at moves
    split at moves
    · cases moves
    · split at moves
      · cases moves
      · dsimp only at moves
        split at moves
        · cases moves
          exact .keeps _ rfl fun _ => id
        · rename_i unlinked
          cases moves
          exact .draws stream _ rfl fun linked => absurd linked unlinked
  | look stream key delay =>
    rw [Reader.advance, Reader.lookStep] at moves
    split at moves
    · cases moves
      exact .draws stream key rfl fun _ => .inl ⟨delay, rfl⟩
    · dsimp only at moves
      split at moves
      · cases moves
        exact .draws stream key rfl fun _ => .inl ⟨delay, rfl⟩
      · cases moves
        exact .keeps _ rfl fun _ => id
  | askFinished stream key delay =>
    rw [Reader.advance, Reader.askFinishedStep] at moves
    split at moves
    · rename_i unlinked
      cases moves
      exact .draws stream key rfl fun linked => by rw [unlinked] at linked; cases linked
    · dsimp only at moves
      split at moves <;> cases moves <;> exact .keeps _ rfl fun _ => id
  | lookAgain stream key =>
    rw [Reader.advance, Reader.lookAgainStep] at moves
    split at moves
    · cases moves
      exact .draws stream key rfl fun _ => .inr rfl
    · dsimp only at moves
      split at moves
      · cases moves
        exact .draws stream key rfl fun _ => .inr rfl
      · cases moves
        exact .keeps _ rfl fun _ => id
  | pause stream key delay =>
    rw [Reader.advance] at moves
    split at moves <;> cases moves <;> exact .keeps _ rfl fun _ => id
  | read stream key verify =>
    rw [Reader.advance, Reader.readStep] at moves
    dsimp only at moves
    split at moves <;> cases moves <;> exact .keeps _ rfl fun _ => id
  | countRow stream key verify row => exact goesOn_judge state _ stream key verify row moves
  | recordError stream key problems =>
    rw [Reader.advance, Reader.recordErrorStep] at moves
    dsimp only at moves
    split at moves <;> cases moves <;> exact .keeps _ rfl fun _ => id
  | abort stream errors =>
    rw [Reader.advance] at moves
    split at moves <;> cases moves <;> exact .keeps _ rfl fun _ => id
  | unreachable | countRead | verified | stopPool =>
    cases moves
    exact .keeps _ rfl fun _ => id

section Steps

variable {plan : ReadPlan} {link? : Option Nat} {worker : Nat}
  {before after : ReadSession Storage Source}

/-- A step of a worker of a reader: a step of its pool on the store and the linked writer. -/
structure Stepped (worker : Nat) (before after : ReadSession Storage Source)
    (world : ReaderWorld Storage Source) : Prop where
  pool : Pool.Stepped Reader.advance before.engine.reader (before.engine.world before.world) worker
    after.engine.reader world
  change : ∃ account, ReaderAudit.Change
    ⟨before.engine.reader, before.engine.world before.world, {}⟩ worker
    ⟨after.engine.reader, world, account⟩
  around : after.world = before.engine.surroundings before.world world

variable {world : ReaderWorld Storage Source}

/-- A worker that was at a task and is at another one has gone on to it. -/
theorem Stepped.goesOn (stepped : Stepped worker before after world) {task next : ReaderTask}
    (here : before.At worker task) (there : after.At worker next) :
    GoesOn before.engine.reader.state before.engine.link?.isSome task next := by
  have goes := goesOn_of_advance worker ((stepped.pool.taken here).move_eq there)
  rwa [LinkableReader.world, Option.isSome_map] at goes

theorem Stepped.store_eq (stepped : Stepped worker before after world) :
    after.world.store = world.store := by
  rw [stepped.around]
  rfl

end Steps

end ReadPlan

end LoadVerifier
