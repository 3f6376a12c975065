/-
This file proves how a writer and a reader linked to it end. Nothing goes wrong on the way, so the
reader has read the keys up to the final watermark, each of them once, and has counted those beyond
it as unreachable; and every row that a worker decided to compare has matched.
-/
import LoadVerifier.Proofs.LinkedLife
import LoadVerifier.Proofs.ReaderSample

namespace LoadVerifier

/-! ### Counting the log -/

/-- Whether a sight is a read. -/
def Sight.isRead : Sight → Bool
  | .read _ => true
  | _ => false

/-- The keys that were read, in order. -/
def readKeys (log : List ReadNote) : List Int := (log.filter (·.sight.isRead)).map (·.key)

/-- The keys that were counted as unreachable, in order. -/
def missedKeys (log : List ReadNote) : List Int :=
  (log.filter (·.sight = .unreachable)).map (·.key)

/-- The keys whose rows were compared, in order. -/
def comparedKeys (log : List ReadNote) : List Int :=
  (log.filter (·.sight = .read true)).map (·.key)

theorem length_readKeys_snoc (log : List ReadNote) (note : ReadNote) :
    (readKeys (log ++ [note])).length = (readKeys log).length + note.sight.isRead.toNat := by
  rw [readKeys, List.filter_append, List.map_append, List.length_append, List.filter_singleton]
  cases note.sight.isRead <;> rfl

theorem length_comparedKeys_snoc (log : List ReadNote) (note : ReadNote) :
    (comparedKeys (log ++ [note])).length =
      (comparedKeys log).length + (decide (note.sight = .read true)).toNat := by
  rw [comparedKeys, List.filter_append, List.map_append, List.length_append,
    List.filter_singleton]
  cases decide (note.sight = .read true) <;> rfl

namespace LinkedLife

open LoadVerifier.Random
open Pool (Moved)

/-- One for a worker that has read a key and not counted it yet. -/
def unreadAt : Position ReaderTask → Nat
  | .working (.countRead _ _ _ _) => 1
  | _ => 0

/-- One for a worker that has read a row to compare and not counted it as verified yet. -/
def unverifiedAt : Position ReaderTask → Nat
  | .working (.countRead _ _ verify _) | .working (.countRow _ _ verify _) => verify.toNat
  | .working (.verified _ _) => 1
  | _ => 0

variable {Storage : Type} {contents : Storage → Contents} {regular : Storage → Prop}
  {plan : LinkedPlan} {initial : Contents} {life later : LinkedLife Storage} {worker : Nat}

/-- The counters say what was read and compared, but for what the workers still have to count. -/
structure Tallied (life : LinkedLife Storage) : Prop where
  keysRead : life.reader.state.tally.keysRead + life.reader.total unreadAt =
    (readKeys life.log).length
  verified : life.reader.state.tally.verified + life.reader.total unverifiedAt =
    (comparedKeys life.log).length

/-- A silent step counts what the worker has to count less afterwards. -/
theorem balance_of_pass {writer : Writer} {shared after : Shared} {state next : ReaderState}
    {before position : Position ReaderTask}
    (pass : ReaderLife.Pass shared state worker before position after next)
    (spotless : Spotless plan state) (assured : AssuredAt plan.bounds writer before) :
    next.tally.keysRead + unreadAt position = state.tally.keysRead + unreadAt before ∧
      next.tally.verified + unverifiedAt position =
        state.tally.verified + unverifiedAt before := by
  cases pass with
  | countedRead stream key verify row => exact ⟨rfl, rfl⟩
  | countedRow stream key verify row =>
    rw [judge_of_holds stream key verify row _ (spotless.bounds_eq ▸ assured)]
    cases verify <;> exact ⟨rfl, rfl⟩
  | verified stream key => exact ⟨rfl, rfl⟩
  | erred stream key problems task tolerated => exact absurd assured id
  | _ => exact ⟨rfl, rfl⟩

theorem balance_of_sees {shared : Shared} {state : ReaderState} {key : Int}
    {before after : ReaderTask} {sight : Sight}
    (sees : ReaderLife.Sees shared state key before sight after) :
    unreadAt (.working before) = 0 ∧ unreadAt (.working after) = 0 ∧
      unverifiedAt (.working before) = 0 ∧ unverifiedAt (.working after) = 0 ∧
      sight.isRead = false := by
  cases sees <;> exact ⟨rfl, rfl, rfl, rfl, rfl⟩

/-- The counters go with the log when one worker moves and counts what it has to count less. -/
theorem tallied_of_moved {next : LinkedLife Storage} {before after : Position ReaderTask}
    (tallied : life.Tallied) (moved : Moved life.reader next.reader worker before after)
    (keysRead : next.reader.state.tally.keysRead + unreadAt after + (readKeys life.log).length =
      life.reader.state.tally.keysRead + unreadAt before + (readKeys next.log).length)
    (verified : next.reader.state.tally.verified + unverifiedAt after +
        (comparedKeys life.log).length =
      life.reader.state.tally.verified + unverifiedAt before + (comparedKeys next.log).length) :
    next.Tallied := by
  obtain ⟨keysReadEq, verifiedEq⟩ := tallied
  have unread := moved.total_add unreadAt
  have unverified := moved.total_add unverifiedAt
  exact ⟨by omega, by omega⟩

variable [Store Storage] {next : ReaderLife Storage Writer}

/-- A step of the reader keeps the counters. -/
theorem Calm.tallied_of_change (calm : life.Calm contents regular plan initial)
    (keeps : KeepsRows Storage contents regular)
    (fresh : ∀ key, plan.range.start ≤ key → key < plan.range.limit → initial key = none)
    (change : ReaderLife.Change life.readerLife worker life.writer.writer next)
    (tallied : life.Tallied) (writer : WriterLife Storage) :
    (⟨writer, next.reader, next.log⟩ : LinkedLife Storage).Tallied := by
  cases change with
  | passed reader before after moved pass =>
    obtain ⟨keysRead, verified⟩ :=
      balance_of_pass pass calm.spotless (calm.assured _ _ moved.position_eq)
    exact tallied_of_moved tallied moved (congrArg (· + _) keysRead) (congrArg (· + _) verified)
  | claimed reader stream cursor moved known left shared state =>
    refine tallied_of_moved tallied moved ?_ ?_
    · rw [state, length_readKeys_snoc]
      rfl
    · rw [state, length_comparedKeys_snoc]
      rfl
  | saw reader before after key sight later moved sees answers shared state =>
    obtain ⟨unread, stillUnread, unverified, stillUnverified, silent⟩ := balance_of_sees sees
    refine tallied_of_moved tallied moved ?_ ?_
    · rw [state, length_readKeys_snoc, unread, stillUnread, silent]
      rfl
    · have other : sight ≠ .read true := fun same => by
        rw [same] at silent
        cases silent
      rw [state, length_comparedKeys_snoc, unverified, stillUnverified, decide_eq_false other]
      rfl
  | read reader stream key verify after moved outcome shared state =>
    obtain ⟨row, rfl, _⟩ := calm.row_of_read keeps fresh stream key verify after
      moved.position_eq outcome
    refine tallied_of_moved tallied moved ?_ ?_
    · rw [state, length_readKeys_snoc, ← Nat.add_right_comm]
      rfl
    · rw [state, length_comparedKeys_snoc]
      cases verify
      · rfl
      · exact Nat.add_right_comm _ _ _
  | missed reader stream key moved shared state =>
    refine tallied_of_moved tallied moved ?_ ?_
    · rw [state, length_readKeys_snoc]
      rfl
    · rw [state, length_comparedKeys_snoc]
      rfl

/-! ### Every moment of a linked life -/

/-- A calm life with counters that go with the log, decisions that were drawn, and a number of
readers. -/
structure Sound (contents : Storage → Contents) (regular : Storage → Prop) (plan : LinkedPlan)
    (initial : Contents) (readers : Nat) (life : LinkedLife Storage) : Prop where
  calm : life.Calm contents regular plan initial
  tallied : life.Tallied
  sampled : ReaderLife.Sampled plan.reads life.readerLife
  readers_eq : Pool.workerCount life.reader = readers

variable {readers : Nat}

/-- Every step keeps a linked life sound. -/
theorem Sound.step (sound : life.Sound contents regular plan initial readers)
    (keeps : KeepsRows Storage contents regular) (generates : plan.writes.Generates)
    (seed : 0 ≤ plan.seed) (window : 0 ≤ plan.keyWindow)
    (fresh : ∀ key, plan.range.start ≤ key → key < plan.range.limit → initial key = none)
    (event : LinkedEvent) (happened : life.step event = some later) :
    later.Sound contents regular plan initial readers := by
  have calm := sound.calm.step keeps generates seed window fresh event later happened
  cases event with
  | writer worker =>
    obtain ⟨next, worked, rfl⟩ := Option.map_eq_some_iff.mp happened
    obtain ⟨seedEq, verifyPercentEq, sampled⟩ := sound.sampled
    exact ⟨calm, ⟨sound.tallied.1, sound.tallied.2⟩, ⟨seedEq, verifyPercentEq, sampled⟩,
      sound.readers_eq⟩
  | reader worker =>
    obtain ⟨next, worked, rfl⟩ := Option.map_eq_some_iff.mp happened
    have change :=
      ReaderLife.change_of_work life.readerLife next worker life.writer.writer rfl worked
    obtain ⟨seedEq, verifyPercentEq, sampled⟩ := change.sampled sound.sampled
    obtain ⟨_, _, moved⟩ := change.moved
    exact ⟨calm, sound.calm.tallied_of_change keeps fresh change sound.tallied _,
      ⟨seedEq, verifyPercentEq, sampled⟩, moved.workerCount_eq.trans sound.readers_eq⟩

omit [Store Storage] in
/-- A reader that was just started has nothing to count beside a writer that nobody disturbs. -/
theorem sound_of_readerStarts (readerThreads : Int) (reader : Reader)
    (readerStarts : plan.reads.Starts readerThreads reader) (writer : WriterLife Storage)
    (undisturbed : writer.Undisturbed contents regular plan.writes initial)
    (writerCounted : Pool.Counted writer.writer) :
    (⟨writer, reader, []⟩ : LinkedLife Storage).Sound contents regular plan initial
      readerThreads.toNat := by
  have calm :=
    calm_of_readerStarts readerThreads reader readerStarts writer undisturbed writerCounted
  have sampled := ReaderLife.sampled_of_starts readerThreads reader readerStarts
    (⟨writer.store, some writer.writer⟩ : ReaderWorld Storage Writer)
  obtain ⟨_, _, now, rfl⟩ := plan.reads.eq_spawn_of_starts readerThreads reader readerStarts
  refine ⟨calm, ⟨?_, ?_⟩, sampled, Pool.workerCount_spawn _ _ _ _⟩
  · show 0 + Pool.total unreadAt _ = 0
    rw [Pool.total_spawn, zero_add]
    exact nsmul_zero _
  · show 0 + Pool.total unverifiedAt _ = 0
    rw [Pool.total_spawn, zero_add]
    exact nsmul_zero _

omit [Store Storage] in
theorem sound_of_starts (writerThreads readerThreads : Int) (writer : Writer) (reader : Reader)
    (writerStarts : plan.writes.Starts writerThreads writer)
    (readerStarts : plan.reads.Starts readerThreads reader) (store : Storage)
    (isRegular : regular store) :
    (⟨⟨writer, store, {}⟩, reader, []⟩ : LinkedLife Storage).Sound contents regular plan
      (contents store) readerThreads.toNat := by
  obtain ⟨undisturbed, counted, _⟩ :
      (⟨writer, store, {}⟩ : WriterLife Storage).Undisturbed contents regular plan.writes
        (contents store) ∧ _ :=
    WriterLife.undisturbed_of_starts writerThreads writer store writerStarts isRegular
  exact sound_of_readerStarts readerThreads reader readerStarts ⟨writer, store, {}⟩ undisturbed
    counted

/-! ### The end -/

section Finished

omit [Store Storage]

/-- The reads are the closing notes up to the watermark, and the counts of unreachable keys are
those beyond it. -/
theorem Calm.closing_iff (calm : life.Calm contents regular plan initial) (note : ReadNote)
    (member : note ∈ life.log) :
    (note.sight.isRead = true ↔
        note.sight.closing = true ∧ note.key ≤ life.writer.writer.watermark) ∧
      (note.sight = .unreachable ↔
        note.sight.closing = true ∧ ¬note.key ≤ life.writer.writer.watermark) := by
  have read := calm.read note member
  have missed := calm.missed note member
  have stopped := calm.waiting.stopped note member
  have running : life.readerLife.reader.shared.stopRequested = false := calm.running
  rw [running] at stopped
  cases sight : note.sight with
  | read verify =>
    exact ⟨iff_of_true rfl ⟨rfl, read verify sight⟩,
      iff_of_false Sight.noConfusion fun both => both.2 (read verify sight)⟩
  | unreachable =>
    have beyond := not_le.mpr (missed sight).2
    exact ⟨iff_of_false Bool.false_ne_true fun both => beyond both.2,
      iff_of_true rfl ⟨rfl, beyond⟩⟩
  | slept answer =>
    cases answer with
    | true => exact absurd (stopped sight) Bool.false_ne_true
    | false =>
      exact ⟨iff_of_false Bool.false_ne_true fun both => Bool.false_ne_true both.1,
        iff_of_false Sight.noConfusion fun both => Bool.false_ne_true both.1⟩
  | _ =>
    exact ⟨iff_of_false Bool.false_ne_true fun both => Bool.false_ne_true both.1,
      iff_of_false Sight.noConfusion fun both => Bool.false_ne_true both.1⟩

theorem Calm.readKeys_eq (calm : life.Calm contents regular plan initial) :
    readKeys life.log =
      (closedKeys life.log).filter (· ≤ life.writer.writer.watermark) := by
  rw [readKeys, closedKeys, List.filter_map, List.filter_filter]
  refine congrArg _ (List.filter_congr fun note member => ?_)
  rw [Bool.eq_iff_iff, (calm.closing_iff note member).1, Bool.and_eq_true, and_comm,
    Function.comp_apply, decide_eq_true_iff]

theorem Calm.missedKeys_eq (calm : life.Calm contents regular plan initial) :
    missedKeys life.log =
      (closedKeys life.log).filter fun key => ¬key ≤ life.writer.writer.watermark := by
  rw [missedKeys, closedKeys, List.filter_map, List.filter_filter]
  refine congrArg _ (List.filter_congr fun note member => ?_)
  rw [Bool.eq_iff_iff, decide_eq_true_iff, (calm.closing_iff note member).2, Bool.and_eq_true,
    and_comm, Function.comp_apply, decide_eq_true_iff]

/-- In the end every key of the range is closed, each of them once. -/
theorem Calm.closedKeys_perm (calm : life.Calm contents regular plan initial)
    (some_worker : 0 < Pool.workerCount life.reader)
    (finished : Pool.finished life.reader = true) :
    (closedKeys life.log).Perm (Int.range plan.range.start plan.range.limit) := by
  obtain ⟨cursor, known, ranged, claimed⟩ := calm.waiting.gated.claimed
  obtain ⟨other, otherKnown, used⟩ :=
    Pool.used_of_finished life.reader calm.readerCounted some_worker finished calm.inOrder
  cases known.symm.trans otherKnown
  have conserved := calm.waiting.gated.conserved
  have waited : Pool.total waitedAt life.reader = 0 :=
    calm.readerCounted.total_of_finished finished waitedAt fun _ => rfl
  rw [show Pool.total waitedAt life.readerLife.reader = 0 from waited, add_zero,
    Multiset.coe_eq_coe, claimed, used, ranged] at conserved
  exact conserved.symm

/-- The keys of a range split at a mark. -/
theorem filter_range_perm (keys : List Int) (low mark high : Int) (from_low : low ≤ mark + 1)
    (to_high : mark < high) (perm : keys.Perm (Int.range low high)) :
    (keys.filter (· ≤ mark)).Perm (Int.range low (mark + 1)) ∧
      (keys.filter fun key => ¬key ≤ mark).Perm (Int.range (mark + 1) high) := by
  refine ⟨(perm.filter _).trans ?_, (perm.filter _).trans ?_⟩
  · rw [List.perm_ext_iff_of_nodup ((nodup_range _ _).filter _) (nodup_range _ _)]
    intro key
    simp only [List.mem_filter, Int.mem_range_iff, decide_eq_true_eq]
    omega
  · rw [List.perm_ext_iff_of_nodup ((nodup_range _ _).filter _) (nodup_range _ _)]
    intro key
    simp only [List.mem_filter, Int.mem_range_iff, decide_eq_true_eq]
    omega

/-- In the end the keys up to the final watermark were read and those beyond it were counted as
unreachable, each of them once. -/
theorem Calm.keys_perm (calm : life.Calm contents regular plan initial)
    (some_worker : 0 < Pool.workerCount life.reader)
    (finished : Pool.finished life.reader = true) :
    (readKeys life.log).Perm
        (Int.range plan.range.start (life.writer.writer.watermark + 1)) ∧
      (missedKeys life.log).Perm
        (Int.range (life.writer.writer.watermark + 1) plan.range.limit) := by
  have accounted := calm.undisturbed.faithful.accounted
  rw [calm.readKeys_eq, calm.missedKeys_eq]
  exact filter_range_perm _ _ _ _ accounted.start_le_watermark_add_one
    accounted.watermark_lt_limit (calm.closedKeys_perm some_worker finished)

/-- In the end the counters say how many keys were read, compared and counted as unreachable. -/
theorem Sound.result_eq (sound : life.Sound contents regular plan initial readers)
    (some_worker : 0 < readers) (finished : Pool.finished life.reader = true) :
    life.reader.result = {
      status := .completed
      keysRead := life.writer.writer.watermark - plan.range.start + 1
      verified := (comparedKeys life.log).length
      errors := 0
      unreachable := plan.range.limit - 1 - life.writer.writer.watermark
      errorKeys := [] } := by
  obtain ⟨calm, tallied, _, readersEq⟩ := sound
  rw [← readersEq] at some_worker
  have accounted := calm.undisturbed.faithful.accounted
  have low : plan.range.start ≤ life.writer.writer.watermark + 1 :=
    accounted.start_le_watermark_add_one
  have high : life.writer.writer.watermark < plan.range.limit := accounted.watermark_lt_limit
  obtain ⟨readPerm, missedPerm⟩ := calm.keys_perm some_worker finished
  have read := tallied.keysRead
  rw [calm.readerCounted.total_of_finished finished unreadAt fun _ => rfl, add_zero,
    readPerm.length_eq, length_range] at read
  have verified := tallied.verified
  rw [calm.readerCounted.total_of_finished finished unverifiedAt fun _ => rfl,
    add_zero] at verified
  have missed : life.reader.state.tally.unreachable = (missedKeys life.log).length :=
    calm.waiting.unreachable_eq.trans (List.length_map _).symm
  rw [missedPerm.length_eq, length_range] at missed
  have status : life.reader.status = .completed := by
    rw [Reader.status, calm.spotless.aborted_eq, calm.running]
    rfl
  have reached : ((life.writer.writer.watermark + 1 - plan.range.start).toNat : Int) =
      life.writer.writer.watermark - plan.range.start + 1 := by omega
  have beyond : ((plan.range.limit - (life.writer.writer.watermark + 1)).toNat : Int) =
      plan.range.limit - 1 - life.writer.writer.watermark := by omega
  rw [Reader.result, status, read, verified, missed, calm.spotless.errors_eq,
    calm.spotless.errorKeys_eq, reached, beyond]
  rfl

/-- In the end the decisions of every worker are the first draws of its own stream. -/
theorem Sound.flags_eq (sound : life.Sound contents regular plan initial readers)
    (seed : 0 ≤ plan.seed) (finished : Pool.finished life.reader = true) (worker : Nat)
    (known : worker < readers) :
    ∃ stream, Reader.streamOf (.value plan.seed) worker = .ok stream ∧
      flagsOf worker life.log =
        decisions plan.verifyPercent (flagsOf worker life.log).length stream := by
  rw [← sound.readers_eq] at known
  obtain ⟨position, found⟩ := Pool.exists_position_of_lt life.reader worker known
  obtain ⟨crash, rfl⟩ := sound.calm.readerCounted.left_of_finished finished worker position found
  rcases sound.sampled.sampled worker _ found with nothing | ⟨rest, stream, streamed, equal, _⟩
  · have empty : flagsOf worker life.log = [] := nothing
    obtain ⟨stream, streamed⟩ := ReaderLife.streamOf_eq_ok plan.seed worker seed
    refine ⟨stream, streamed, ?_⟩
    rw [empty]
    rfl
  · exact ⟨stream, streamed, equal⟩

end Finished

/-- A linked reader raises no false alarm, and every key is accounted for. The store keeps rows and
holds none of the range at the start, every key of the range has a record, and the seed is not
negative. Then, whatever workers of the two pools have taken their steps in whatever order, and
whichever writes were refused, the reader has met no error. And when its workers have left, the
watermark is final and the reader has completed; it has read the keys up to the watermark, each of
them once, and counted those beyond it as unreachable; and it has compared, and verified, the rows
of those keys that the successive draws of its workers picked. -/
theorem linked_reader_raises_no_alarm (keeps : KeepsRows Storage contents regular)
    (plan : LinkedPlan) (generates : plan.writes.Generates) (seed : 0 ≤ plan.seed)
    (writerThreads readerThreads : Int) (writer : Writer) (reader : Reader)
    (writerStarts : plan.writes.Starts writerThreads writer)
    (readerStarts : plan.reads.Starts readerThreads reader) (store : Storage)
    (isRegular : regular store)
    (fresh : ∀ key, plan.range.start ≤ key → key < plan.range.limit → contents store key = none)
    (schedule : List LinkedEvent) (life : LinkedLife Storage)
    (ran : replay step ⟨⟨writer, store, {}⟩, reader, []⟩ schedule = some life) :
    life.reader.state.tally.errors = 0 ∧
      (Pool.finished life.reader = true →
        life.reader.wait = some (.ok {
            status := .completed
            keysRead := life.writer.writer.watermark - plan.range.start + 1
            verified := (comparedKeys life.log).length
            errors := 0
            unreachable := plan.range.limit - 1 - life.writer.writer.watermark
            errorKeys := [] }) ∧
          (readKeys life.log).Perm
            (Int.range plan.range.start (life.writer.writer.watermark + 1)) ∧
          (missedKeys life.log).Perm
            (Int.range (life.writer.writer.watermark + 1) plan.range.limit) ∧
          ∀ worker : Nat, worker < readerThreads →
            ∃ stream, Reader.streamOf (.value plan.seed) worker = .ok stream ∧
              flagsOf worker life.log =
                decisions plan.verifyPercent (flagsOf worker life.log).length stream) := by
  obtain ⟨possible, ⟨some_thread, _⟩, _⟩ :=
    plan.reads.eq_spawn_of_starts readerThreads reader readerStarts
  have sound : life.Sound contents regular plan (contents store) readerThreads.toNat :=
    replay_invariant _ (fun _ event _ sound happened => sound.step keeps generates seed
      possible.keyWindow_nonneg fresh event happened) _ life schedule
      (sound_of_starts writerThreads readerThreads writer reader writerStarts readerStarts store
        isRegular) ran
  have some_worker : 0 < readerThreads.toNat := by omega
  refine ⟨sound.calm.spotless.errors_eq, fun finished => ?_⟩
  obtain ⟨read, missed⟩ := sound.calm.keys_perm (sound.readers_eq ▸ some_worker) finished
  refine ⟨?_, read, missed, fun worker known => ?_⟩
  · have joined := sound.calm.readerCounted.join_eq_ok Reader.poolName finished
      fun worker crash found =>
        absurd (sound.calm.inOrder worker _ found).1 (Option.some_ne_none crash)
    rw [Reader.wait, joined, ← sound.result_eq some_worker finished]
    rfl
  · exact sound.flags_eq seed finished worker (by omega)

/-- Three keys written column by column, and about half of the rows compared. -/
def threeKeys : LinkedPlan where
  bounds := .small
  range := .three
  multiPut := false
  seed := 1
  verifyPercent := 50
  maxErrors := 0
  keyWindow := 1

/-- Two workers on each side, and a store that refuses a cell of the last key. -/
def twoAndTwo : LinkedLife FaultyStore :=
  ⟨⟨threeKeys.writes.idle.spawn .checkStop 2 0.0, { faults := { failingCells := [(2, 0)] } }, {}⟩,
    threeKeys.reads.idle.spawn .seed 2 0.0, []⟩

/-- The workers take turns until all of them have left. -/
def turns : List LinkedEvent :=
  let all : List LinkedEvent := [.writer 0, .reader 0, .reader 1, .writer 1]
  let three : List LinkedEvent := [.reader 0, .reader 1, .writer 1]
  let readers : List LinkedEvent := [.reader 0, .reader 1]
  (List.replicate 9 all ++ List.replicate 3 three ++ List.replicate 8 readers).flatten ++
    [LinkedEvent.reader 1]

theorem linked_reader_raises_no_alarm_in_turns :
    ∃ life : LinkedLife FaultyStore,
      replay step twoAndTwo turns = some life ∧
        life.writer.writer.watermark = 1 ∧ comparedKeys life.log = [0] ∧
        life.reader.wait = some (.ok ⟨.completed, 2, 1, 0, 1, []⟩) := by
  have known : (replay step twoAndTwo turns).map (fun life =>
      (Pool.finished life.reader, life.writer.writer.watermark, comparedKeys life.log)) =
        some (true, 1, [0]) := by
    decide +kernel
  obtain ⟨life, ran, seen⟩ := Option.map_eq_some_iff.mp known
  rw [Prod.mk.injEq, Prod.mk.injEq] at seen
  obtain ⟨finished, mark, compared⟩ := seen
  have ended := (linked_reader_raises_no_alarm
    (faultyStore_keepsRows { failingCells := [(2, 0)] }) threeKeys
    (generates_of_isSome threeKeys.writes.range threeKeys.writes.bounds (by decide +kernel))
    (by decide) 2 2 _ _
    ⟨1, 2, 1, 4, _, 0.0, rfl, rfl, rfl⟩ ⟨threeKeys.reads.ready, 0.0, rfl, rfl⟩ _
    ⟨rfl, rfl, rfl⟩ (fun _ _ _ => rfl) turns life ran).2 finished
  refine ⟨life, ran, mark, compared, ?_⟩
  rw [ended.1, mark, compared]
  rfl

end LinkedLife

end LoadVerifier
