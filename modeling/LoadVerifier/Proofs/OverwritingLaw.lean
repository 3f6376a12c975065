/-
This file proves what a write pass makes of rows that were there before. It lays the record of each
key over the row of the key, and leaves all other rows alone. So a column of an old row that the
record does not have is still there afterwards, and nothing else of the row is.

A full read pass finds exactly these leftovers. And a second write pass over the same range has
nothing to change, because a record laid over a row twice is as good as laid once.
-/
import LoadVerifier.Proofs.ResumePoint
import LoadVerifier.Proofs.WriterProgress
import LoadVerifier.Proofs.WriterResult

namespace LoadVerifier

/-! ### Rows with records laid over them -/

/-- The rows after the records of the range were laid over them. -/
def WritePlan.overwrite (plan : WritePlan) (rows : Contents) : Contents := fun key =>
  if key ∈ Int.range plan.range.start plan.range.limit then
    some (overlay (rows key) (plan.recordOf key).columns)
  else rows key

theorem WritePlan.overwrite_overwrite (plan : WritePlan) (rows : Contents) :
    plan.overwrite (plan.overwrite rows) = plan.overwrite rows := by
  funext key
  unfold overwrite
  split
  · rw [overlay_overlay]
  · rfl

/-- Which calls a writer makes for a record does not matter. -/
theorem WritePlan.overwrite_congr (plan other : WritePlan) (bounds : other.bounds = plan.bounds)
    (range : other.range = plan.range) : other.overwrite = plan.overwrite := by
  funext rows key
  unfold overwrite recordOf
  rw [bounds, range]

/-- Rows in memory were overwritten: outside the range they are as before, and within it each has
the columns of the record, and those columns of the row before whose numbers the record does not
use. -/
structure Overwritten (bounds : Bounds) (range : KeyRange) (before after : MemoryStore) : Prop where
  outside : ∀ key, ¬(range.start ≤ key ∧ key < range.limit) →
    after.contents key = before.contents key
  inside : ∀ key record, range.start ≤ key → key < range.limit →
    generate key bounds = .ok record → ∃ row, after.row? key = some row ∧ ∀ number,
      row.find? number =
        if 0 ≤ number ∧ number < record.numColumns then record.columns.find? number
        else (before.row? key).bind fun former => former.find? number

/-- The row of a key has a column whose number the record of the key does not use. -/
def MemoryStore.HasLeftover (store : MemoryStore) (bounds : Bounds) (key : Int) : Prop :=
  ∃ count row number, generateColumnCount key bounds = .ok count ∧ store.row? key = some row ∧
    number ∈ row.numbers ∧ ¬(0 ≤ number ∧ number < count)

theorem overlay_eq_ite (key : Int) (bounds : Bounds) (record : Record)
    (generated : generate key bounds = .ok record) (row : Option Row) (number : Int) :
    overlay row record.columns number =
      if 0 ≤ number ∧ number < record.numColumns then record.columns.find? number
      else row.bind fun row => row number := by
  have known := generate_find?_isSome_iff key bounds record generated number
  rw [overlay]
  split
  · rename_i own
    obtain ⟨value, found⟩ := Option.isSome_iff_exists.mp (known.mpr own)
    rw [found, Option.some_or]
  · rename_i foreign
    rw [Option.not_isSome_iff_eq_none.mp fun found => foreign (known.mp found), Option.none_or]

theorem overwritten_of_contents (plan : WritePlan) (generates : plan.Generates)
    (before after : MemoryStore) (same : after.contents = plan.overwrite before.contents) :
    Overwritten plan.bounds plan.range before after where
  outside key outside := by
    rw [same, WritePlan.overwrite, if_neg fun member => outside (Int.mem_range_iff.mp member)]
  inside key record low high generated := by
    have content := congrFun same key
    rw [WritePlan.overwrite, if_pos (Int.mem_range_iff.mpr ⟨low, high⟩),
      Except.ok.inj ((generates.recordOf key low high).symm.trans generated),
      MemoryStore.contents, Option.map_eq_some_iff] at content
    obtain ⟨row, found, equal⟩ := content
    refine ⟨row, found, fun number => ?_⟩
    rw [equal, overlay_eq_ite key plan.bounds record generated, MemoryStore.contents,
      Option.bind_map]
    rfl

/-- After rows were overwritten, the bad keys are those with a leftover. -/
theorem Overwritten.bad_iff {plan : ReadPlan} {before after : MemoryStore}
    (overwritten : Overwritten plan.bounds plan.range before after) (key : Int) (record : Record)
    (low : plan.range.start ≤ key) (high : key < plan.range.limit)
    (generated : generate key plan.bounds = .ok record) :
    plan.Bad (fun key => some (after.row? key)) key ↔ before.HasLeftover plan.bounds key := by
  obtain ⟨row, found, columns⟩ := overwritten.inside key record low high generated
  have counted := generateColumnCount_eq_numColumns key plan.bounds record generated
  have known := generate_find?_isSome_iff key plan.bounds record generated
  constructor
  · rintro (refused | missing | ⟨_, other, alike, regenerated, wrong⟩)
    · cases refused
    · cases found.symm.trans (Option.some.inj missing)
    · cases found.symm.trans (Option.some.inj alike)
      cases generated.symm.trans regenerated
      obtain ⟨number, differs⟩ := Function.ne_iff.mp wrong
      have foreign : ¬(0 ≤ number ∧ number < record.numColumns) := fun own =>
        differs (by rw [columns, if_pos own])
      have absent := Option.not_isSome_iff_eq_none.mp fun own => foreign ((known number).mp own)
      rw [columns, if_neg foreign, absent, ← Option.isSome_iff_ne_none] at differs
      obtain ⟨value, held⟩ := Option.isSome_iff_exists.mp differs
      obtain ⟨former, rowEq, there⟩ := Option.bind_eq_some_iff.mp held
      exact ⟨_, former, number, counted, rowEq,
        (former.find?_isSome_iff number).mp (by rw [there]; rfl), foreign⟩
  · rintro ⟨count, former, number, recounted, rowEq, member, foreign⟩
    cases counted.symm.trans recounted
    refine Or.inr (Or.inr ⟨row, record, congrArg some found, generated, fun same => ?_⟩)
    have there := (former.find?_isSome_iff number).mpr member
    have value := columns number
    rw [if_neg foreign, rowEq, Option.bind_some, same] at value
    rw [← value] at there
    exact foreign ((known number).mp there)

/-! ### The write pass -/

namespace WriterLife

theorem refuses_nothing : Refuses MemoryStore (fun _ => True) fun _ _ => false := by
  intro store caller key columns _
  refine iff_of_false ?_ ?_
  · rintro ⟨failure, failed⟩
    cases failed
  · rw [hits, List.any_eq_true]
    rintro ⟨number, _, impossible⟩
    cases impossible

variable {plan : WritePlan} {initial : Contents} {life : WriterLife MemoryStore}

/-- Nothing fails where no cell fails. -/
theorem failingKeys_eq_nil (plan : WritePlan) : plan.failingKeys (fun _ _ => false) = [] := by
  refine List.filter_eq_nil_iff.mpr fun key _ hit => ?_
  rw [hits, List.any_eq_true] at hit
  obtain ⟨_, _, impossible⟩ := hit
  cases impossible

/-- A finished writer that nothing failed has laid the records over the rows. -/
theorem Orderly.contents_eq_overwrite
    (orderly : life.Orderly MemoryStore.contents (fun _ => True) (fun _ _ => false) plan initial)
    (finished : Pool.finished life.writer = true) (generates : plan.Generates) :
    life.store.contents = plan.overwrite initial := by
  funext key
  have unfailed : key ∉ plan.failingKeys fun _ _ => false := by
    rw [failingKeys_eq_nil]
    exact List.not_mem_nil
  exact orderly.contents_of_not_failed finished generates key unfailed

theorem orderly_of_replay (generates : plan.Generates) (threads : Int) (writer : Writer)
    (starts : plan.Starts threads writer) (store : MemoryStore) (schedule : List Nat)
    (ran : replay work ⟨writer, store, {}⟩ schedule = some life) :
    life.Orderly MemoryStore.contents (fun _ => True) (fun _ _ => false) plan store.contents :=
  orderly_of_run memoryStore_keepsRows.toMergesWrites refuses_nothing generates threads writer
    starts store trivial schedule ran

end WriterLife

/-! ### The read pass after it -/

namespace ReaderAudit

variable {Source : Type} {plan : ReadPlan} {before after : MemoryStore}
  {audit : ReaderAudit MemoryStore Source}

/-- What a full read pass over overwritten rows reports when it tolerates enough errors: as errors
the keys with a leftover, and as verified all others. -/
structure FindsLeftovers (plan : ReadPlan) (before : MemoryStore)
    (audit : ReaderAudit MemoryStore Source) (result : ReadResult) : Prop where
  status_eq : result.status = .completed
  mem_errorKeys_iff : ∀ key, key ∈ result.errorKeys ↔
    (plan.range.start ≤ key ∧ key < plan.range.limit) ∧ before.HasLeftover plan.bounds key
  mem_matched_iff : ∀ key, key ∈ audit.account.keysOf .matched ↔
    (plan.range.start ≤ key ∧ key < plan.range.limit) ∧ ¬before.HasLeftover plan.bounds key
  errors_eq : result.errors = result.errorKeys.length
  verified_eq : result.verified = plan.range.size - result.errorKeys.length
  keysRead_eq : result.keysRead = plan.range.size
  unreachable_eq : result.unreachable = 0

theorem Verifying.findsLeftovers
    (verifying : Verifying (· = after) plan (fun key => some (after.row? key)) audit)
    (finished : Pool.finished audit.reader = true) (generates : plan.Generates)
    (overwritten : Overwritten plan.bounds plan.range before after)
    (tolerant : plan.range.size ≤ plan.maxErrors) :
    FindsLeftovers plan before audit audit.reader.result := by
  have bad : ∀ key, key ∈ plan.badKeys (fun key => some (after.row? key)) ↔
      (plan.range.start ≤ key ∧ key < plan.range.limit) ∧ before.HasLeftover plan.bounds key := by
    intro key
    rw [ReadPlan.badKeys, List.mem_filter, decide_eq_true_eq, Int.mem_range_iff]
    refine and_congr_right fun ⟨low, high⟩ => ?_
    obtain ⟨record, generated⟩ := generates key low high
    exact overwritten.bad_iff key record low high generated
  have readable : plan.refusedKeys (fun key => some (after.row? key)) = [] :=
    List.filter_eq_nil_iff.mpr fun key _ refused => nomatch of_decide_eq_true refused
  have fewer : (plan.badKeys fun key => some (after.row? key)).length ≤ plan.range.size :=
    (List.length_filter_le _ _).trans_eq (length_range _ _)
  have result := verifying.result_of_tolerated finished generates (by omega)
  have all := verifying.kept.claimed_of_running finished verifying.sound
    (verifying.running_of_not_aborted (by rw [result]; exact nofun)).1
  rw [result, readable]
  refine ⟨rfl, bad, fun key => ?_, rfl, rfl, ?_, rfl⟩
  · rw [verifying.mem_keysOf_iff finished, all, Int.mem_range_iff]
    refine and_congr_right fun ⟨low, high⟩ => ?_
    obtain ⟨record, generated⟩ := generates key low high
    rw [← overwritten.bad_iff key record low high generated, ReadPlan.bad_iff]
    have three := fateOfRow_cases key (after.row? key) plan.bounds ⟨record, generated⟩
    show Fate.matched = fateOfRow key true (after.row? key) plan.bounds ↔
      ¬(fateOfRow key true (after.row? key) plan.bounds).isError = true
    rcases three with fate | fate | fate <;> rw [fate] <;> decide
  · rw [List.length_nil, Int.natCast_zero, sub_zero]

end ReaderAudit

/-! ### The law -/

section Law

variable {Source : Type} [WatermarkSource Source]

/-- The overwriting law. Whatever rows there are in memory, whatever the write mode, the number of
workers and the schedule, a write pass comes to its end: no schedule is longer than the steps for
each key and three for each worker, and until the writer is finished some worker has a step. When it
is finished it reports well and has overwritten the rows of its range and no others. Another pass
over the range with the same bounds changes nothing then; and a full read pass that tolerates an
error for each key comes to its end, reports exactly the keys whose row had a leftover before, and
has verified all others. -/
theorem write_pass_overwrites (plan : WritePlan) (generates : plan.Generates) (threads : Int)
    (writer : Writer) (starts : plan.Starts threads writer) (store : MemoryStore)
    (schedule : List Nat) (life : WriterLife MemoryStore)
    (ran : replay WriterLife.work ⟨writer, store, {}⟩ schedule = some life) :
    schedule.length ≤ (plan.bounds.maxColumns + 5) * plan.range.size + 3 * threads.toNat ∧
      (Pool.finished life.writer = false → ∃ worker, (life.work worker).isSome) ∧
      (Pool.finished life.writer = true →
        (∃ result, life.writer.wait = some (.ok result) ∧ result.ok = true) ∧
        Overwritten plan.bounds plan.range store life.store ∧
        (∀ again : WritePlan, again.bounds = plan.bounds → again.range = plan.range →
          ∀ threads writer, again.Starts threads writer → ∀ schedule later,
          replay WriterLife.work ⟨writer, life.store, {}⟩ schedule = some later →
          Pool.finished later.writer = true → later.store.contents = life.store.contents) ∧
        ∀ check : ReadPlan, check.ComparesAll plan.bounds plan.range →
          plan.range.size ≤ check.maxErrors →
          ∀ threads reader, check.Starts threads reader →
          ∀ schedule, ∀ audit : ReaderAudit MemoryStore Source,
          replay ReaderAudit.work ⟨reader, ⟨life.store, none⟩, {}⟩ schedule = some audit →
            schedule.length ≤ 8 * plan.range.size + 4 * threads.toNat ∧
              (Pool.finished audit.reader = false → ∃ worker, (audit.work worker).isSome) ∧
              (Pool.finished audit.reader = true →
                ∃ result, audit.reader.wait = some (.ok result) ∧
                  ReaderAudit.FindsLeftovers check store audit result)) := by
  have orderly := WriterLife.orderly_of_replay generates threads writer starts store schedule ran
  refine ⟨WriterLife.length_schedule_le threads writer starts store schedule ran,
    fun unfinished => life.exists_work orderly.counted orderly.some_worker unfinished,
    fun finished => ⟨?_, ?_, ?_, ?_⟩⟩
  · refine ⟨_, orderly.undisturbed.wait_eq orderly.counted finished, ?_⟩
    rw [WriteResult.ok, Writer.result, orderly.failedKeys_eq finished generates,
      WriterLife.failingKeys_eq_nil, orderly.undisturbed.running]
    rfl
  · exact overwritten_of_contents plan generates store life.store
      (orderly.contents_eq_overwrite finished generates)
  · intro again bounds range threads writer startsAgain schedule later ranAgain finishedAgain
    have generatesAgain : again.Generates := by
      intro key low high
      rw [bounds]
      exact generates key (range ▸ low) (range ▸ high)
    have orderlyAgain := WriterLife.orderly_of_replay generatesAgain threads writer startsAgain
      life.store schedule ranAgain
    rw [orderlyAgain.contents_eq_overwrite finishedAgain generatesAgain,
      plan.overwrite_congr again bounds range,
      orderly.contents_eq_overwrite finished generates, plan.overwrite_overwrite]
  · intro check comparesAll tolerant threads reader readStarts schedule audit audited
    obtain ⟨bounds, range, percent, seed, seeded, nonneg⟩ := comparesAll
    have checkGenerates : check.Generates := by
      intro key low high
      rw [bounds]
      exact generates key (range ▸ low) (range ▸ high)
    obtain ⟨verifying, bounded⟩ := ReaderAudit.verifying_of_replay
      (memoryStore_shows life.store) check percent seed seeded nonneg checkGenerates threads reader
      readStarts life.store rfl schedule audit audited
    have overwritten : Overwritten check.bounds check.range store life.store := by
      rw [bounds, range]
      exact overwritten_of_contents plan generates store life.store
        (orderly.contents_eq_overwrite finished generates)
    refine ⟨range ▸ bounded, fun unfinished => ReaderAudit.exists_work audit
      verifying.kept.counted verifying.kept.some_worker unfinished, fun readFinished =>
      ⟨_, verifying.wait_eq readFinished, verifying.findsLeftovers readFinished checkGenerates
        overwritten (range ▸ tolerant)⟩⟩

/-- A row with a column that no record has, and a row outside the range. -/
def withLeftover : MemoryStore := (({} : MemoryStore).setCell 1 7 [9]).setCell 5 0 [1]

/-- Two writers take turns until both have left. -/
def writingTurns : List Nat := (List.replicate 9 [0, 1]).flatten ++ List.replicate 5 1

/-- All rows are compared, and an error is allowed for each of the three keys. -/
def tolerantCheck : ReadPlan where
  bounds := .small
  seed := .value 7
  verifyPercent := 100
  maxErrors := 3
  keyWindow := 0
  range := .three

theorem write_pass_overwrites_all_but_leftover :
    ∃ (first second : WriterLife MemoryStore) (audit : ReaderAudit MemoryStore ScriptedSource),
      replay WriterLife.work ⟨WriterLife.threeKeys.idle.spawn .checkStop 2 0.0, withLeftover, {}⟩
          writingTurns = some first ∧
        replay WriterLife.work ⟨WriterLife.threeKeys.idle.spawn .checkStop 2 0.0, first.store, {}⟩
          writingTurns = some second ∧
        replay ReaderAudit.work ⟨tolerantCheck.idle.spawn .seed 2 0.0, ⟨first.store, none⟩, {}⟩
          WriterLife.readingTurns = some audit ∧
        first.store.contents 5 = withLeftover.contents 5 ∧
        second.store.contents = first.store.contents ∧
        ∃ result, audit.reader.wait = some (.ok result) ∧ result.errorKeys = [1] ∧
          result.verified = 2 ∧ withLeftover.HasLeftover .small 1 := by
  have known : ((replay WriterLife.work (⟨WriterLife.threeKeys.idle.spawn .checkStop 2 0.0,
      withLeftover, {}⟩ : WriterLife MemoryStore) writingTurns).bind fun first =>
        (replay WriterLife.work (⟨WriterLife.threeKeys.idle.spawn .checkStop 2 0.0,
          first.store, {}⟩ : WriterLife MemoryStore) writingTurns).bind fun second =>
        (replay ReaderAudit.work (⟨tolerantCheck.idle.spawn .seed 2 0.0, ⟨first.store, none⟩, {}⟩ :
          ReaderAudit MemoryStore ScriptedSource) WriterLife.readingTurns).map fun audit =>
        ((Pool.finished first.writer, Pool.finished second.writer, Pool.finished audit.reader),
          audit.reader.result.errorKeys)) = some ((true, true, true), [1]) := by
    decide +kernel
  obtain ⟨first, ran, known⟩ := Option.bind_eq_some_iff.mp known
  obtain ⟨second, ranAgain, known⟩ := Option.bind_eq_some_iff.mp known
  obtain ⟨audit, audited, seen⟩ := Option.map_eq_some_iff.mp known
  simp only [Prod.mk.injEq] at seen
  obtain ⟨⟨finished, finishedAgain, readFinished⟩, reported⟩ := seen
  obtain ⟨_, overwritten, unchanged, reads⟩ := (@write_pass_overwrites ScriptedSource _
    WriterLife.threeKeys WriterLife.threeKeys_generates 2 _ ⟨1, 2, 1, 4, _, 0.0, rfl, rfl, rfl⟩
    withLeftover writingTurns first ran).2.2 finished
  obtain ⟨result, waited, finds⟩ := (reads tolerantCheck ⟨rfl, rfl, rfl, 7, rfl, by decide⟩
    (by decide) 2 _ ⟨tolerantCheck.ready, 0.0, rfl, rfl⟩ WriterLife.readingTurns audit
    audited).2.2 readFinished
  have errorKeys : result.errorKeys = [1] := by
    rw [(Reader.wait_eq_ok audit.reader result waited).2]
    exact reported
  refine ⟨first, second, audit, ran, ranAgain, audited, overwritten.outside 5 (by decide),
    unchanged WriterLife.threeKeys rfl rfl 2 _ ⟨1, 2, 1, 4, _, 0.0, rfl, rfl, rfl⟩ writingTurns
      second ranAgain finishedAgain, result, waited, errorKeys, ?_, ?_⟩
  · rw [finds.verified_eq, errorKeys]
    rfl
  · exact ((finds.mem_errorKeys_iff 1).mp (by rw [errorKeys]; exact List.mem_singleton_self 1)).2

end Law

end LoadVerifier
