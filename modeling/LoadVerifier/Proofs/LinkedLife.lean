/-
This file follows a writer and a reader that is linked to it, over the same range and on the same
store. Their workers take their steps in any order; nobody else touches the store, and nobody asks
them to stop. The store keeps rows, held none of the range at the start, and refuses whatever writes
it likes; every key of the range has a record.

What a worker of the reader may rely on is said place by place in `Assured`. A key that is about to
be read is not above the watermark, so its row is written in full and will not change any more. A
worker that was told that the writer is finished sees the final watermark. The steps of the writer
take nothing of this away, because the watermark never goes back and a finished writer has no steps
left. So the reader never meets a row that is missing or wrong.
-/
import LoadVerifier.LoadTest.Run
import LoadVerifier.Proofs.GateSafety
import LoadVerifier.Proofs.WriterUndisturbed

namespace LoadVerifier

open LoadVerifier.Random
open Pool (InOrder Moved inOrder_of_cursor_eq inOrder_of_left)

/-- What a writer and a reader linked to it are asked to do, on one range and with the same
bounds. -/
structure LinkedPlan where
  bounds : Bounds
  range : KeyRange
  multiPut : Bool
  seed : Int
  verifyPercent : Int
  maxErrors : Int
  keyWindow : Int

/-- What the writer is asked to do. -/
def LinkedPlan.writes (plan : LinkedPlan) : WritePlan := ⟨plan.bounds, plan.multiPut, plan.range⟩

/-- What the reader is asked to do. -/
def LinkedPlan.reads (plan : LinkedPlan) : ReadPlan :=
  ⟨plan.bounds, .value plan.seed, plan.verifyPercent, plan.maxErrors, plan.keyWindow, plan.range⟩

/-- A writer with its store and its ledger, and a reader linked to it with its log. -/
structure LinkedLife (Storage : Type) where
  writer : WriterLife Storage
  reader : Reader
  log : List ReadNote := []

/-- A worker of one of the two pools takes a step. -/
inductive LinkedEvent
  | writer (worker : Nat)
  | reader (worker : Nat)
  deriving DecidableEq

namespace LinkedLife

variable {Storage : Type}

/-- The reader and what it sees of the rest. -/
def readerLife (life : LinkedLife Storage) : ReaderLife Storage Writer :=
  ⟨life.reader, ⟨life.writer.store, some life.writer.writer⟩, life.log⟩

/-- What happens at an event; `none` when it cannot happen. -/
def step [Store Storage] (life : LinkedLife Storage) : LinkedEvent → Option (LinkedLife Storage)
  | .writer worker => (life.writer.work worker).map fun writer => { life with writer }
  | .reader worker => (life.readerLife.work worker).map fun next =>
    { writer := { life.writer with
        writer := next.world.source.getD life.writer.writer
        store := next.world.store }
      reader := next.reader
      log := next.log }

/-! ### What a worker of the reader may rely on -/

/-- A row was found, and it holds the record of its key. -/
def Holds (bounds : Bounds) (key : Int) (row : Option Columns) : Prop :=
  ∃ columns record, row = some columns ∧ generate key bounds = .ok record ∧
    columns.find? = record.columns.find?

/-- What a worker of a linked reader may rely on at a task. -/
def Assured (bounds : Bounds) (writer : Writer) : ReaderTask → Prop
  | .seed | .checkStop _ | .claim _ | .look _ _ _ | .askFinished _ _ _ | .pause _ _ _
  | .verified _ _ => True
  | .lookAgain _ _ => Pool.finished writer = true
  | .unreachable _ key => Pool.finished writer = true ∧ writer.watermark < key
  | .read _ key _ => key ≤ writer.watermark
  | .countRead _ key _ row | .countRow _ key _ row => Holds bounds key row
  | .recordError _ _ _ | .abort _ _ | .stopPool _ _ => False

/-- What a worker of a linked reader may rely on, wherever it is. -/
def AssuredAt (bounds : Bounds) (writer : Writer) : Position ReaderTask → Prop
  | .working task => Assured bounds writer task
  | .crashed _ | .leaving _ | .left _ => True

/-- A reader that has its settings, and has met no error. -/
structure Spotless (plan : LinkedPlan) (state : ReaderState) : Prop where
  bounds_eq : state.bounds = plan.bounds
  seed_eq : state.seed = .value plan.seed
  aborted_eq : state.aborted = false
  errors_eq : state.tally.errors = 0
  errorKeys_eq : state.tally.errorKeys.toList = []

/-- A row that holds its record passes the comparison. -/
theorem judge_of_holds (stream : Stream) (key : Int) (verify : Bool) (row : Option Columns)
    (bounds : Bounds) (holds : Holds bounds key row) :
    Reader.judge stream key verify row bounds =
      .to (if verify then .verified stream key else .checkStop stream) := by
  obtain ⟨columns, record, rfl, generated, same⟩ := holds
  unfold Reader.judge
  cases verify with
  | true =>
    have matching := (compareColumns_eq_nil_iff record columns).mpr same
    simp only [generated, matching, if_true]
  | false => rfl

/-- A worker that can rely on its place finds nothing wrong, and can rely on its next one. -/
theorem assured_of_pass {plan : LinkedPlan} {writer : Writer} {shared later : Shared}
    {state after : ReaderState} {worker : Nat} {before position : Position ReaderTask}
    (pass : ReaderLife.Pass shared state worker before position later after)
    (seed : 0 ≤ plan.seed) (running : shared.stopRequested = false) (known : shared.cursor.isSome)
    (spotless : Spotless plan state) (inOrder : InOrder shared before)
    (assured : AssuredAt plan.bounds writer before) :
    later.stopRequested = false ∧ Spotless plan after ∧ InOrder later position ∧
      AssuredAt plan.bounds writer position := by
  obtain ⟨bounds, seeded, aborted, errors, errorKeys⟩ := spotless
  have clean : Spotless plan state := ⟨bounds, seeded, aborted, errors, errorKeys⟩
  cases pass with
  | seeded stream drawn => exact ⟨running, clean, trivial, trivial⟩
  | unseeded crash failed =>
    obtain ⟨stream, drawn⟩ := ReaderLife.streamOf_eq_ok plan.seed worker seed
    rw [seeded, drawn] at failed
    cases failed
  | goOn stream _ => exact ⟨running, clean, trivial, trivial⟩
  | stopSeen stream stopped =>
    rw [running] at stopped
    cases stopped
  | usedUp stream cursor found used => exact ⟨running, clean, ⟨rfl, cursor, found, used⟩, trivial⟩
  | baseless stream unknown =>
    rw [unknown] at known
    cases known
  | countedRead stream key verify row =>
    exact ⟨running, ⟨bounds, seeded, aborted, errors, errorKeys⟩, trivial, assured⟩
  | countedRow stream key verify row =>
    rw [judge_of_holds stream key verify row _ (bounds ▸ assured)]
    refine ⟨running, clean, trivial, ?_⟩
    cases verify <;> trivial
  | verified stream key =>
    exact ⟨running, ⟨bounds, seeded, aborted, errors, errorKeys⟩, trivial, trivial⟩
  | erred stream key problems next tolerated => exact absurd assured id
  | abortedBefore stream count isAborted => exact absurd assured id
  | abortedNow stream count unaborted => exact absurd assured id
  | stoppedPool stream count => exact absurd assured id
  | reported crash => exact absurd inOrder id
  | left crash => exact ⟨running, clean, inOrder, trivial⟩

/-- A key that is readable is not above the mark. -/
theorem le_mark_of_ripe (lastKey keyWindow key mark : Int) (window : 0 ≤ keyWindow)
    (ripe : ReaderLife.Ripe lastKey keyWindow key mark) : key ≤ mark := by
  unfold ReaderLife.Ripe readableUpTo at ripe
  split at ripe
  · rename_i reached
    exact ripe.trans reached
  · exact ripe.trans (Int.sub_le_self mark window)

/-- What a worker sees of the writer gives it what it has to rely on next. -/
theorem assured_of_sees {bounds : Bounds} {writer later : Writer} {shared : Shared}
    {state : ReaderState} {key : Int} {before after : ReaderTask} {sight : Sight}
    (sees : ReaderLife.Sees shared state key before sight after)
    (answers : ReaderLife.Answers writer sight later) (running : shared.stopRequested = false)
    (window : 0 ≤ state.keyWindow) (assured : Assured bounds writer before) :
    Assured bounds writer after := by
  cases sees with
  | ripe stream delay mark ripe =>
    cases answers
    exact le_mark_of_ripe _ _ key _ window ripe
  | unripe stream delay mark unripe => trivial
  | ended stream delay =>
    generalize same : Sight.finished true = sight at answers
    cases answers with
    | finished => exact (Sight.finished.inj same).symm
    | mark => cases same
    | slept => cases same
  | goesOn stream delay => trivial
  | reached stream mark reached =>
    cases answers
    exact reached
  | missed stream mark missed =>
    cases answers
    exact ⟨assured, missed⟩
  | woken stream delay _ => trivial
  | stopped stream delay stopped =>
    rw [running] at stopped
    cases stopped

/-- A writer that is looked at stays as it is. -/
theorem eq_of_answers {writer later : Writer} {sight : Sight}
    (answers : ReaderLife.Answers writer sight later) : later = writer := by
  cases answers <;> rfl

/-! ### What holds after every step -/

variable {contents : Storage → Contents} {regular : Storage → Prop} {plan : LinkedPlan}
  {initial : Contents} {life : LinkedLife Storage}

/-- A writer that nobody disturbs, and a linked reader that has met no error and whose workers can
rely on their places. What was read is written, and what was counted as unreachable never will
be. -/
structure Calm (contents : Storage → Contents) (regular : Storage → Prop) (plan : LinkedPlan)
    (initial : Contents) (life : LinkedLife Storage) : Prop where
  undisturbed : life.writer.Undisturbed contents regular plan.writes initial
  writerCounted : Pool.Counted life.writer.writer
  readerCounted : Pool.Counted life.reader
  waiting : ReaderLife.Waiting plan.reads life.readerLife
  running : life.reader.shared.stopRequested = false
  spotless : Spotless plan life.reader.state
  inOrder : ∀ worker position, life.reader.position? worker = some position →
    InOrder life.reader.shared position
  assured : ∀ worker position, life.reader.position? worker = some position →
    AssuredAt plan.bounds life.writer.writer position
  read : ∀ note ∈ life.log, ∀ verify, note.sight = .read verify →
    note.key ≤ life.writer.writer.watermark
  missed : ∀ note ∈ life.log, note.sight = .unreachable →
    Pool.finished life.writer.writer = true ∧ life.writer.writer.watermark < note.key

/-- A key of the range up to the watermark has its record in the store. -/
theorem contents_of_le_watermark {life : WriterLife Storage}
    (undisturbed : life.Undisturbed contents regular plan.writes initial) (key : Int)
    (fresh : initial key = none) (low : plan.range.start ≤ key)
    (reached : key ≤ life.writer.watermark) :
    ∃ record, generate key plan.bounds = .ok record ∧
      contents life.store key = some record.columns.find? := by
  have completed := undisturbed.faithful.accounted.completed_of_le_watermark key low reached
  obtain ⟨record, generated, stored⟩ := undisturbed.faithful.completed key completed
  refine ⟨record, generated, ?_⟩
  rw [undisturbed.contents_eq, stored, fresh,
    afterCalls_callsFor _ _ _ (generate_cells_ne_nil key _ record generated), overlay_none]

/-! ### The steps of the writer -/

/-- What a worker of the reader relies on is still true after a step of the writer. -/
theorem assuredAt_of_unfinished {bounds : Bounds} {writer next : Writer}
    (position : Position ReaderTask) (unfinished : Pool.finished writer = false)
    (forward : writer.watermark ≤ next.watermark) (assured : AssuredAt bounds writer position) :
    AssuredAt bounds next position := by
  have impossible : Pool.finished writer ≠ true := by
    rw [unfinished]
    exact Bool.false_ne_true
  cases position with
  | working task =>
    cases task with
    | lookAgain stream key => exact absurd assured impossible
    | unreachable stream key => exact absurd assured.1 impossible
    | read stream key verify => exact le_trans assured forward
    | _ => exact assured
  | _ => trivial

variable [Store Storage]

/-- A step of the writer keeps the calm. -/
theorem Calm.writer (calm : life.Calm contents regular plan initial)
    (merges : MergesWrites Storage contents regular) (generates : plan.writes.Generates)
    (worker : Nat) (next : WriterLife Storage) (worked : life.writer.work worker = some next) :
    { life with writer := next }.Calm contents regular plan initial := by
  have change := WriterLife.change_of_work life.writer next worker worked
  have undisturbed := change.undisturbed merges generates calm.undisturbed
  have unfinished := WriterLife.unfinished_of_work calm.writerCounted worked
  have forward : life.writer.writer.watermark ≤ next.writer.watermark :=
    calm.undisturbed.faithful.accounted.watermark_mono undisturbed.faithful.accounted
      change.grows.2.1
  exact {
    undisturbed
    writerCounted := WriterLife.counted_of_work worked calm.writerCounted
    readerCounted := calm.readerCounted
    waiting := calm.waiting.step (.outside next.store next.writer) rfl
    running := calm.running
    spotless := calm.spotless
    inOrder := calm.inOrder
    assured := fun worker position found =>
      assuredAt_of_unfinished position unfinished forward (calm.assured worker position found)
    read := fun note member verify same =>
      le_trans (calm.read note member verify same) forward
    -- A finished writer has no step, so nothing was counted as unreachable yet.
    missed := fun note member same => by
      have finished := (calm.missed note member same).1
      rw [unfinished] at finished
      cases finished }

/-! ### The steps of the reader -/

/-- A read finds the row that the store has. -/
theorem read_of_keepsRows (keeps : KeepsRows Storage contents regular) (store : Storage)
    (isRegular : regular store) (caller : Caller) (key : Int) (bounds : Bounds)
    (kept : ∃ record, generate key bounds = .ok record ∧
      contents store key = some record.columns.find?) :
    ∃ row, (Store.read store caller key).1 = .done row ∧ Holds bounds key row := by
  obtain ⟨record, generated, content⟩ := kept
  obtain ⟨_, _, row, done, same⟩ := keeps.read store caller key isRegular
  rw [content, Option.map_eq_some_iff] at same
  obtain ⟨columns, rfl, equal⟩ := same
  exact ⟨some columns, done, columns, record, rfl, generated, equal⟩

variable {worker : Nat} {next : ReaderLife Storage Writer}

/-- A step of the reader leaves the writer as it is, and the content of the store. -/
theorem world_of_change (keeps : KeepsRows Storage contents regular)
    (isRegular : regular life.writer.store)
    (change : ReaderLife.Change life.readerLife worker life.writer.writer next) :
    next.world.source = some life.writer.writer ∧ regular next.world.store ∧
      contents next.world.store = contents life.writer.store := by
  cases change with
  | passed => exact ⟨rfl, isRegular, rfl⟩
  | claimed => exact ⟨rfl, isRegular, rfl⟩
  | saw reader before after key sight later moved sees answers shared state =>
    exact ⟨congrArg some (eq_of_answers answers), isRegular, rfl⟩
  | read reader stream key verify after moved outcome shared state =>
    obtain ⟨stillRegular, same, _⟩ := keeps.read life.writer.store ⟨.reader, worker⟩ key isRegular
    exact ⟨rfl, stillRegular, same⟩
  | missed => exact ⟨rfl, isRegular, rfl⟩

/-- A worker that reads finds the record of its key. -/
theorem Calm.row_of_read (calm : life.Calm contents regular plan initial)
    (keeps : KeepsRows Storage contents regular)
    (fresh : ∀ key, plan.range.start ≤ key → key < plan.range.limit → initial key = none)
    (stream : Stream) (key : Int) (verify : Bool) (after : Position ReaderTask)
    (found : life.reader.position? worker = some (.working (.read stream key verify)))
    (outcome : after = match (Store.read life.readerLife.world.store ⟨.reader, worker⟩ key).1 with
      | .done row => .working (.countRead stream key verify row)
      | .failed failure => .working (.recordError stream key [.unreadable failure.message])
      | .crashed crash => .crashed crash) :
    ∃ row, after = .working (.countRead stream key verify row) ∧ Holds plan.bounds key row := by
  obtain ⟨low, high⟩ := calm.waiting.gated.inside_of_waits _ key .reading found rfl
  have kept := contents_of_le_watermark calm.undisturbed key
    (fresh key low (Int.lt_of_le_sub_one high)) low (calm.assured _ _ found)
  obtain ⟨row, done, holds⟩ := read_of_keepsRows keeps life.readerLife.world.store
    calm.undisturbed.regular ⟨.reader, worker⟩ key plan.bounds kept
  rw [done] at outcome
  exact ⟨row, outcome, holds⟩

/-- Where a worker of the reader goes, and what it may rely on there. -/
theorem Calm.assured_of_change (calm : life.Calm contents regular plan initial)
    (keeps : KeepsRows Storage contents regular) (seed : 0 ≤ plan.seed)
    (window : 0 ≤ plan.keyWindow)
    (fresh : ∀ key, plan.range.start ≤ key → key < plan.range.limit → initial key = none)
    (change : ReaderLife.Change life.readerLife worker life.writer.writer next) :
    next.reader.shared.stopRequested = false ∧ Spotless plan next.reader.state ∧
      (∀ other position, next.reader.position? other = some position →
        InOrder next.reader.shared position) ∧
      ∀ other position, next.reader.position? other = some position →
        AssuredAt plan.bounds life.writer.writer position := by
  have others : ∀ reader : Reader, reader.shared.cursor = life.reader.shared.cursor →
      ∀ other position, life.reader.position? other = some position →
        InOrder reader.shared position := fun reader same other position found =>
    inOrder_of_cursor_eq (calm.inOrder other position found) same
  cases change with
  | passed reader before after moved pass =>
    obtain ⟨running, spotless, inOrder, assured⟩ := assured_of_pass pass seed calm.running
      calm.waiting.isSome_cursor calm.spotless (calm.inOrder _ _ moved.position_eq)
      (calm.assured _ _ moved.position_eq)
    exact ⟨running, spotless,
      moved.forall_positions (others reader (ReaderLife.cursor_eq_of_pass pass)) inOrder,
      moved.forall_positions calm.assured assured⟩
  | claimed reader stream cursor moved known left shared state =>
    refine ⟨by rw [shared]; exact calm.running, by rw [state]; exact calm.spotless,
      moved.forall_positions (fun other position found => ?_) trivial,
      moved.forall_positions calm.assured trivial⟩
    exact inOrder_of_left (calm.inOrder other position found) known left
  | saw reader before after key sight later moved sees answers shared state =>
    have assured := assured_of_sees sees answers calm.running
      (calm.waiting.keyWindow_eq.symm ▸ window) (calm.assured _ _ moved.position_eq)
    exact ⟨by rw [shared]; exact calm.running, by rw [state]; exact calm.spotless,
      moved.forall_positions (others reader (by rw [shared]; rfl)) trivial,
      moved.forall_positions calm.assured assured⟩
  | read reader stream key verify after moved outcome shared state =>
    obtain ⟨row, rfl, holds⟩ := calm.row_of_read keeps fresh stream key verify after
      moved.position_eq outcome
    exact ⟨by rw [shared]; exact calm.running, by rw [state]; exact calm.spotless,
      moved.forall_positions (others reader (by rw [shared]; rfl)) trivial,
      moved.forall_positions calm.assured holds⟩
  | missed reader stream key moved shared state =>
    obtain ⟨bounds, seeded, aborted, errors, errorKeys⟩ := calm.spotless
    exact ⟨by rw [shared]; exact calm.running,
      by rw [state]; exact ⟨bounds, seeded, aborted, errors, errorKeys⟩,
      moved.forall_positions (others reader (by rw [shared]; rfl)) trivial,
      moved.forall_positions calm.assured trivial⟩

/-- What was read is not above the watermark, and what was counted as unreachable is above it. -/
theorem Calm.notes_of_change (calm : life.Calm contents regular plan initial)
    (change : ReaderLife.Change life.readerLife worker life.writer.writer next) :
    (∀ note ∈ next.log, ∀ verify, note.sight = .read verify →
        note.key ≤ life.writer.writer.watermark) ∧
      ∀ note ∈ next.log, note.sight = .unreachable →
        Pool.finished life.writer.writer = true ∧ life.writer.writer.watermark < note.key := by
  have snoc : ∀ note : ReadNote, (∀ verify, note.sight = .read verify →
      note.key ≤ life.writer.writer.watermark) → (note.sight = .unreachable →
        Pool.finished life.writer.writer = true ∧ life.writer.writer.watermark < note.key) →
      (∀ other ∈ life.log ++ [note], ∀ verify, other.sight = .read verify →
        other.key ≤ life.writer.writer.watermark) ∧
      ∀ other ∈ life.log ++ [note], other.sight = .unreachable →
        Pool.finished life.writer.writer = true ∧
          life.writer.writer.watermark < other.key := by
    intro note read missed
    simp only [List.forall_mem_append, List.forall_mem_singleton]
    exact ⟨⟨calm.read, read⟩, calm.missed, missed⟩
  cases change with
  | passed => exact ⟨calm.read, calm.missed⟩
  | claimed =>
    exact snoc _ (fun _ same => Sight.noConfusion same) fun same => Sight.noConfusion same
  | saw reader before after key sight later moved sees answers shared state =>
    refine snoc _ (fun verify same => ?_) fun same => ?_
    · cases same
      cases sees
    · cases same
      cases sees
  | read reader stream key verify after moved outcome shared state =>
    exact snoc _ (fun _ _ => calm.assured _ _ moved.position_eq) fun same => Sight.noConfusion same
  | missed reader stream key moved shared state =>
    exact snoc _ (fun _ same => Sight.noConfusion same) fun _ => calm.assured _ _ moved.position_eq

/-- A step of the reader keeps the calm. -/
theorem Calm.reader (calm : life.Calm contents regular plan initial)
    (keeps : KeepsRows Storage contents regular) (seed : 0 ≤ plan.seed)
    (window : 0 ≤ plan.keyWindow)
    (fresh : ∀ key, plan.range.start ≤ key → key < plan.range.limit → initial key = none)
    (worked : life.readerLife.work worker = some next) :
    (⟨{ life.writer with store := next.world.store }, next.reader, next.log⟩ :
      LinkedLife Storage).Calm contents regular plan initial ∧
      next.world.source = some life.writer.writer := by
  have change := ReaderLife.change_of_work life.readerLife next worker life.writer.writer rfl worked
  obtain ⟨source, isRegular, same⟩ := world_of_change keeps calm.undisturbed.regular change
  obtain ⟨running, spotless, inOrder, assured⟩ :=
    calm.assured_of_change keeps seed window fresh change
  obtain ⟨read, missed⟩ := calm.notes_of_change change
  have waiting := change.waiting calm.waiting
  obtain ⟨faithful, _, contentsEq, lost, writerRunning, writerInOrder⟩ := calm.undisturbed
  have seen : (⟨{ life.writer with store := next.world.store }, next.reader, next.log⟩ :
      LinkedLife Storage).readerLife = next := by
    show (⟨next.reader, ⟨next.world.store, some life.writer.writer⟩, next.log⟩ :
      ReaderLife Storage Writer) = next
    rw [← source]
  refine ⟨⟨⟨faithful.outside _, isRegular, fun key => ?_, lost, writerRunning, writerInOrder⟩,
    calm.writerCounted, ReaderLife.counted_of_work worked calm.readerCounted, seen ▸ waiting,
    running, spotless, inOrder, assured, read, missed⟩, source⟩
  rw [same]
  exact contentsEq key

/-- Every step keeps the calm. -/
theorem Calm.step (calm : life.Calm contents regular plan initial)
    (keeps : KeepsRows Storage contents regular) (generates : plan.writes.Generates)
    (seed : 0 ≤ plan.seed) (window : 0 ≤ plan.keyWindow)
    (fresh : ∀ key, plan.range.start ≤ key → key < plan.range.limit → initial key = none)
    (event : LinkedEvent) (later : LinkedLife Storage) (happened : life.step event = some later) :
    later.Calm contents regular plan initial := by
  cases event with
  | writer worker =>
    obtain ⟨next, worked, rfl⟩ := Option.map_eq_some_iff.mp happened
    exact calm.writer keeps.toMergesWrites generates worker next worked
  | reader worker =>
    obtain ⟨next, worked, rfl⟩ := Option.map_eq_some_iff.mp happened
    obtain ⟨nextCalm, source⟩ := calm.reader keeps seed window fresh worked
    simp only [source, Option.getD_some]
    exact nextCalm

omit [Store Storage] in
/-- A reader that was just started is calm beside a writer that nobody disturbs, however far that
has come. -/
theorem calm_of_readerStarts (readerThreads : Int) (reader : Reader)
    (readerStarts : plan.reads.Starts readerThreads reader) (writer : WriterLife Storage)
    (undisturbed : writer.Undisturbed contents regular plan.writes initial)
    (writerCounted : Pool.Counted writer.writer) :
    (⟨writer, reader, []⟩ : LinkedLife Storage).Calm contents regular plan initial := by
  have waiting :=
    ReaderLife.waiting_of_starts readerThreads reader readerStarts writer.store writer.writer
  obtain ⟨_, ⟨some_thread, _⟩, now, rfl⟩ :=
    plan.reads.eq_spawn_of_starts readerThreads reader readerStarts
  refine ⟨undisturbed, writerCounted, Pool.counted_spawn _ _ _ _ some_thread, waiting, rfl,
    ⟨rfl, rfl, rfl, rfl, rfl⟩, ?_, ?_, ?_, ?_⟩
  · intro worker position found
    rw [Pool.eq_of_position?_spawn _ _ _ _ _ _ found]
    trivial
  · intro worker position found
    rw [Pool.eq_of_position?_spawn _ _ _ _ _ _ found]
    trivial
  · intro note member
    cases member
  · intro note member
    cases member

end LinkedLife

end LoadVerifier
