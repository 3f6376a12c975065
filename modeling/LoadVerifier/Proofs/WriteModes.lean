/-
This file proves that the two write modes agree. A store refuses a write exactly when one of the
columns written belongs to a failing cell. Then a key fails in both modes or in neither, because its
record has a failing cell or has none; so both modes count the same, and their watermarks are the
same. All keys that do not fail have the same row in the end.

What a failed key leaves behind depends on the mode. The one call for the whole row is refused as a
whole. The calls for the columns are made in the order of the columns, up to the first refusal, so
the columns below the first failing one are laid over the row, and no others.
-/
import LoadVerifier.Proofs.WriterProgress
import LoadVerifier.Proofs.WriterResult

namespace LoadVerifier

/-! ### The first failing column -/

/-- The first column of a record that is a failing cell. -/
structure Record.FirstFailing (failing : Int → Int → Bool) (record : Record) (column : Int) :
    Prop where
  nonneg : 0 ≤ column
  lt_numColumns : column < record.numColumns
  fails : failing record.key column = true
  first : ∀ other, 0 ≤ other → other < column → failing record.key other = false

/-- The columns of a record below a number. -/
def Record.below (record : Record) (column : Int) : Columns :=
  ⟨record.columns.cells.filter fun cell => cell.1 < column,
    record.columns.distinct.sublist (List.filter_sublist.map _)⟩

/-- A row was updated with the columns of a record below a number, and with nothing else. -/
structure UpdatedBelow (record : Record) (column : Int) (before after : Option Row) : Prop where
  untouched : column = 0 → after = before
  updated : 0 < column → ∃ row, after = some row ∧ ∀ number, row number =
    if 0 ≤ number ∧ number < column then record.columns.find? number
    else before.bind fun former => former number

variable {failing : Int → Int → Bool} {key : Int} {bounds : Bounds} {record : Record}

theorem mem_numbers_iff (generated : generate key bounds = .ok record) (number : Int) :
    number ∈ record.columns.numbers ↔ 0 ≤ number ∧ number < record.numColumns := by
  rw [← ColumnMap.find?_isSome_iff, generate_find?_isSome_iff key bounds record generated]

/-- A record that has a failing cell has a first one. -/
theorem exists_firstFailing (generated : generate key bounds = .ok record)
    (hit : hits failing key record.columns = true) :
    ∃ column, record.FirstFailing failing column := by
  rw [← generate_key key bounds record generated, hits, List.any_eq_true] at hit
  obtain ⟨number, member, fails⟩ := hit
  obtain ⟨nonneg, less⟩ := (mem_numbers_iff generated number).mp member
  obtain ⟨place, rfl⟩ := Int.eq_ofNat_of_zero_le nonneg
  have some_place : ∃ place : Nat, failing record.key place = true := ⟨place, fails⟩
  -- Columns are numbered by natural numbers, so there is a least one among those that fail.
  classical
  have least : Nat.find some_place ≤ place := Nat.find_min' some_place fails
  refine ⟨(Nat.find some_place : Nat), Int.natCast_nonneg _, by omega, Nat.find_spec some_place,
    fun other low below => ?_⟩
  obtain ⟨earlier, rfl⟩ := Int.eq_ofNat_of_zero_le low
  exact Bool.eq_false_iff.mpr (Nat.find_min some_place (Int.ofNat_lt.mp below))

/-- In ascending order, the cells up to the first failing column are the cells below it. -/
theorem takeWhile_eq_filter_lt (fails : Int → Bool) (column : Int) (cells : List (Int × Bytes))
    (ascending : (cells.map Prod.fst).Pairwise (· < ·)) (present : column ∈ cells.map Prod.fst)
    (here : fails column = true) (first : ∀ cell ∈ cells, cell.1 < column → fails cell.1 = false) :
    cells.takeWhile (fun cell => !fails cell.1) = cells.filter fun cell => cell.1 < column := by
  induction cells with
  | nil => cases present
  | cons cell rest inductionHypothesis =>
    rw [List.map_cons, List.pairwise_cons] at ascending
    rw [List.map_cons, List.mem_cons] at present
    rcases present with rfl | later
    · have above : ∀ other ∈ rest, ¬decide (other.1 < cell.1) = true := fun other member less =>
        lt_asymm (of_decide_eq_true less) (ascending.1 other.1 (List.mem_map_of_mem member))
      rw [List.takeWhile_cons_of_neg (by simp [here]), List.filter_cons_of_neg (by simp),
        List.filter_eq_nil_iff.mpr above]
    · have less : cell.1 < column := ascending.1 column later
      have good := first cell List.mem_cons_self less
      rw [List.takeWhile_cons_of_pos (by simp [good]),
        List.filter_cons_of_pos (by simpa using less),
        inductionHypothesis ascending.2 later fun other member =>
          first other (List.mem_cons_of_mem _ member)]

/-! ### The calls of a failed key -/

/-- The call for a whole row that has a failing cell is refused. -/
theorem goodCalls_together (hit : hits failing key record.columns = true) :
    goodCalls failing key (Writer.callsFor true record) = [] := by
  rw [goodCalls, Writer.callsFor, if_pos rfl, List.takeWhile_cons_of_neg (by simp [hit])]

/-- The calls for the columns are made below the first failing column. -/
theorem goodCalls_apart (generated : generate key bounds = .ok record) (column : Int)
    (first : record.FirstFailing failing column) :
    goodCalls failing key (Writer.callsFor false record) =
      (record.below column).cells.map fun cell => .single cell.1 cell.2 := by
  have own := generate_key key bounds record generated
  have numbers := numbers_of_generate key bounds record generated
  have ascending : (record.columns.cells.map Prod.fst).Pairwise (· < ·) := by
    rw [← ColumnMap.numbers, numbers, List.pairwise_map]
    exact List.pairwise_lt_range.imp Int.ofNat_lt.mpr
  have single : ∀ cell : Int × Bytes,
      hits failing key (ColumnMap.single cell.1 cell.2) = failing key cell.1 := by
    intro cell
    simp [hits, ColumnMap.numbers, ColumnMap.single]
  rw [goodCalls, Writer.callsFor, if_neg Bool.false_ne_true, List.takeWhile_map]
  refine congrArg _ (Eq.trans ?_ (takeWhile_eq_filter_lt (failing key) column record.columns.cells
    ascending ((mem_numbers_iff generated column).mpr ⟨first.nonneg, first.lt_numColumns⟩)
    (own ▸ first.fails) fun cell member less => own ▸ first.first cell.1
      ((mem_numbers_iff generated cell.1).mp (List.mem_map_of_mem member)).1 less))
  refine congrArg (fun good => record.columns.cells.takeWhile good) (funext fun cell => ?_)
  rw [Function.comp_apply, single]

theorem find?_below (generated : generate key bounds = .ok record) (column number : Int) :
    (record.below column).find? number =
      if 0 ≤ number ∧ number < column then record.columns.find? number else none := by
  have held : ∀ value, (record.below column).find? number = some value ↔
      record.columns.find? number = some value ∧ number < column := by
    intro value
    constructor
    · intro found
      obtain ⟨member, less⟩ := List.mem_filter.mp (ColumnMap.mem_of_find?_eq_some _ _ _ found)
      exact ⟨record.columns.find?_eq_some_of_mem _ member, of_decide_eq_true less⟩
    · rintro ⟨found, less⟩
      have member := ColumnMap.mem_of_find?_eq_some _ _ _ found
      exact (record.below column).find?_eq_some_of_mem (number, value)
        (List.mem_filter.mpr ⟨member, decide_eq_true less⟩)
  refine Option.ext fun value => ?_
  rw [held]
  split
  · rename_i inside
    exact and_iff_left inside.2
  · rename_i outside
    refine iff_of_false (fun both => outside ⟨?_, both.2⟩) (Option.some_ne_none value).symm
    have known := (generate_find?_isSome_iff key bounds record generated number).mp
      (by rw [both.1]; rfl)
    exact known.1

/-- Those calls update the row with the columns below the first failing one. -/
theorem updatedBelow_afterCalls (generated : generate key bounds = .ok record) (column : Int)
    (first : record.FirstFailing failing column) (row : Option Row) :
    UpdatedBelow record column row
      (afterCalls row (goodCalls failing key (Writer.callsFor false record))) := by
  rw [goodCalls_apart generated column first]
  constructor
  · intro zero
    have none : (record.below column).cells = [] := by
      refine List.filter_eq_nil_iff.mpr fun cell member less => ?_
      have numbered := (mem_numbers_iff generated cell.1).mp (List.mem_map_of_mem member)
      have below := of_decide_eq_true less
      omega
    rw [none]
    rfl
  · intro positive
    have some_cell : (record.below column).cells ≠ [] := by
      have zero : (0 : Int) ∈ record.columns.numbers :=
        (mem_numbers_iff generated 0).mpr ⟨le_rfl, positive.trans first.lt_numColumns⟩
      obtain ⟨cell, member, number⟩ := List.mem_map.mp zero
      exact List.ne_nil_of_mem
        (List.mem_filter.mpr ⟨member, decide_eq_true (number.trans_lt positive)⟩)
    refine ⟨_, afterCalls_singles row _ (record.below column).distinct some_cell, fun number => ?_⟩
    rw [overlay]
    show ((record.below column).find? number).or _ = _
    rw [find?_below generated]
    split
    · rename_i inside
      have known : (record.columns.find? number).isSome :=
        (generate_find?_isSome_iff key bounds record generated number).mpr
          ⟨inside.1, inside.2.trans first.lt_numColumns⟩
      obtain ⟨value, found⟩ := Option.isSome_iff_exists.mp known
      rw [found, Option.some_or]
    · rw [Option.none_or]

/-! ### Both modes -/

/-- The same write pass in one of the two write modes. -/
def WritePlan.inMode (plan : WritePlan) (multiPut : Bool) : WritePlan := { plan with multiPut }

/-- Writers with the same bounds and range have the same result, whatever their write modes. -/
theorem WritePlan.result_inMode (plan : WritePlan) (multiPut : Bool)
    (failing : Int → Int → Bool) : (plan.inMode multiPut).result failing = plan.result failing :=
  rfl

/-- Two write passes over the same rows agree, one of them with a call for each row and the other
with a call for each column: they leave the same rows, apart from those of the failed keys. Such a
row is as it was after the calls for rows. After the calls for columns it is updated with the
columns below the first one that fails. -/
structure WritePlan.ModesAgree (plan : WritePlan) (failing : Int → Int → Bool)
    (failedKeys : List Int) (initial together apart : Contents) : Prop where
  same : ∀ key, key ∉ failedKeys → together key = apart key
  whole : ∀ key ∈ failedKeys, together key = initial key
  cut : ∀ key ∈ failedKeys, ∃ record column, generate key plan.bounds = .ok record ∧
    record.FirstFailing failing column ∧ UpdatedBelow record column (initial key) (apart key)

namespace WriterLife

variable {Storage : Type} [Store Storage] {contents : Storage → Contents}
  {regular : Storage → Prop} {failing : Int → Int → Bool} {plan : WritePlan} {initial : Contents}

/-- A writer was started over a store, and its workers took the steps of a schedule. -/
def Ran (plan : WritePlan) (threads : Int) (store : Storage) (schedule : List Nat)
    (life : WriterLife Storage) : Prop :=
  ∃ writer, plan.Starts threads writer ∧
    replay WriterLife.work ⟨writer, store, {}⟩ schedule = some life

omit [Store Storage] in
theorem Orderly.contents_inMode {life : WriterLife Storage} {multiPut : Bool}
    (orderly : life.Orderly contents regular failing (plan.inMode multiPut) initial)
    (finished : Pool.finished life.writer = true) (generates : plan.Generates) (key : Int) :
    contents life.store key = if key ∈ Int.range plan.range.start plan.range.limit then
      afterCalls (initial key)
        (goodCalls failing key (Writer.callsFor multiPut (plan.recordOf key)))
    else initial key :=
  orderly.contents_eq finished generates key

omit [Store Storage] in
/-- In the end both modes have left what they should. -/
theorem modesAgree_of_orderly {together apart : WriterLife Storage}
    (orderlyTogether : together.Orderly contents regular failing (plan.inMode true) initial)
    (orderlyApart : apart.Orderly contents regular failing (plan.inMode false) initial)
    (finishedTogether : Pool.finished together.writer = true)
    (finishedApart : Pool.finished apart.writer = true) (generates : plan.Generates) :
    plan.ModesAgree failing (plan.failingKeys failing) initial (contents together.store)
      (contents apart.store) := by
  refine ⟨fun key tolerated => ?_, fun key failed => ?_, fun key failed => ?_⟩
  · rw [orderlyTogether.contents_of_not_failed finishedTogether generates key tolerated,
      orderlyApart.contents_of_not_failed finishedApart generates key tolerated]
    rfl
  · obtain ⟨member, hit⟩ := List.mem_filter.mp failed
    rw [orderlyTogether.contents_inMode finishedTogether generates, if_pos member,
      goodCalls_together hit]
    rfl
  · obtain ⟨member, hit⟩ := List.mem_filter.mp failed
    obtain ⟨low, high⟩ := Int.mem_range_iff.mp member
    have generated := generates.recordOf key low high
    obtain ⟨column, first⟩ := exists_firstFailing generated hit
    refine ⟨plan.recordOf key, column, generated, first, ?_⟩
    rw [orderlyApart.contents_inMode finishedApart generates, if_pos member]
    exact updatedBelow_afterCalls generated column first _

theorem Ran.orderly {threads : Int} {store : Storage} {schedule : List Nat}
    {life : WriterLife Storage} (ran : Ran plan threads store schedule life)
    (merges : MergesWrites Storage contents regular) (refuses : Refuses Storage regular failing)
    (generates : plan.Generates) (isRegular : regular store) :
    life.Orderly contents regular failing plan (contents store) := by
  obtain ⟨writer, starts, replayed⟩ := ran
  exact orderly_of_run merges refuses generates threads writer starts store isRegular schedule
    replayed

/-- A write pass comes to its end: no schedule is longer than the steps for each key and three for
each worker, and until the writer is finished some worker has a step. -/
structure Progresses (plan : WritePlan) (threads : Int) (schedule : List Nat)
    (life : WriterLife Storage) : Prop where
  bounded : schedule.length ≤ (plan.bounds.maxColumns + 5) * plan.range.size + 3 * threads.toNat
  continues : Pool.finished life.writer = false → ∃ worker, (life.work worker).isSome

/-- A writer that was started over a regular store progresses. -/
theorem progresses_of_orderly (threads : Int) (store : Storage) (schedule : List Nat)
    (life : WriterLife Storage) (ran : Ran plan threads store schedule life)
    (orderly : life.Orderly contents regular failing plan initial) :
    life.Progresses plan threads schedule := by
  obtain ⟨writer, starts, replayed⟩ := ran
  exact ⟨length_schedule_le threads writer starts store schedule replayed,
    life.exists_work orderly.counted orderly.some_worker⟩

/-- The two write modes agree. The store refuses a write exactly when it hits a failing cell, and
every key of the range has a record. Then a pass with a call for each row and a pass with a call for
each column both come to their end, whatever the numbers of workers and the schedules; and when they
are finished, they have the same result and leave the same rows, apart from those of the failed
keys. -/
theorem write_modes_agree (merges : MergesWrites Storage contents regular)
    (refuses : Refuses Storage regular failing) (plan : WritePlan) (generates : plan.Generates)
    (store : Storage) (isRegular : regular store)
    (togetherThreads : Int) (togetherSchedule : List Nat) (together : WriterLife Storage)
    (ranTogether : Ran (plan.inMode true) togetherThreads store togetherSchedule together)
    (apartThreads : Int) (apartSchedule : List Nat) (apart : WriterLife Storage)
    (ranApart : Ran (plan.inMode false) apartThreads store apartSchedule apart) :
    together.Progresses (plan.inMode true) togetherThreads togetherSchedule ∧
      apart.Progresses (plan.inMode false) apartThreads apartSchedule ∧
      (Pool.finished together.writer = true → Pool.finished apart.writer = true →
        ∃ result, together.writer.wait = some (.ok result) ∧
          apart.writer.wait = some (.ok result) ∧
          plan.ModesAgree failing result.failedKeys (contents store) (contents together.store)
            (contents apart.store)) := by
  have orderlyTogether := ranTogether.orderly merges refuses generates isRegular
  have orderlyApart := ranApart.orderly merges refuses generates isRegular
  refine ⟨progresses_of_orderly _ _ _ _ ranTogether orderlyTogether,
    progresses_of_orderly _ _ _ _ ranApart orderlyApart,
    fun finishedTogether finishedApart => ⟨plan.result failing, ?_, ?_, ?_⟩⟩
  · rw [orderlyTogether.undisturbed.wait_eq orderlyTogether.counted finishedTogether,
      orderlyTogether.result_eq finishedTogether generates, plan.result_inMode]
  · rw [orderlyApart.undisturbed.wait_eq orderlyApart.counted finishedApart,
      orderlyApart.result_eq finishedApart generates, plan.result_inMode]
  · exact modesAgree_of_orderly orderlyTogether orderlyApart finishedTogether finishedApart
      generates

/-- Two to four columns for each of three keys. -/
def severalColumns : WritePlan where
  bounds := .aroundHeader
  multiPut := true
  range := .three

theorem severalColumns_generates : severalColumns.Generates :=
  generates_of_isSome severalColumns.range severalColumns.bounds (by decide +kernel)

/-- The second of the three columns of key 1 is refused, and its row has another column already. -/
def brokenCell : FaultyStore :=
  { faults := { failingCells := [(1, 1)] }, memory := ({} : MemoryStore).setCell 1 7 [9] }

/-- Which of the columns 0, 1, 2 and 7 the row of key 1 has. -/
def heldCells (life : WriterLife FaultyStore) : Option (List Bool) :=
  (life.store.memory.contents 1).map fun row => [0, 1, 2, 7].map fun number => (row number).isSome

/-- One worker with a call for each row leaves the row of the failed key alone, and two workers with
a call for each column add its first column to it. -/
theorem write_modes_agree_but_for_one_column :
    ∃ together apart : WriterLife FaultyStore, ∃ result,
      Ran (severalColumns.inMode true) 1 brokenCell (List.replicate 17 0) together ∧
        Ran (severalColumns.inMode false) 2 brokenCell
          ((List.replicate 11 [0, 1]).flatten ++ List.replicate 5 1) apart ∧
        together.writer.wait = some (.ok result) ∧ apart.writer.wait = some (.ok result) ∧
        result.failedKeys = [1] ∧
        severalColumns.ModesAgree
          (fun key number => brokenCell.faults.failingCells.contains (key, number))
          result.failedKeys brokenCell.memory.contents together.store.memory.contents
          apart.store.memory.contents ∧
        heldCells together = some [false, false, false, true] ∧
        heldCells apart = some [true, false, false, true] := by
  have knownTogether : (replay WriterLife.work
      ⟨(severalColumns.inMode true).idle.spawn .checkStop 1 0.0, brokenCell, {}⟩
        (List.replicate 17 0)).map (fun life => (Pool.finished life.writer, heldCells life)) =
          some (true, some [false, false, false, true]) := by
    decide +kernel
  have knownApart : (replay WriterLife.work
      ⟨(severalColumns.inMode false).idle.spawn .checkStop 2 0.0, brokenCell, {}⟩
        ((List.replicate 11 [0, 1]).flatten ++ List.replicate 5 1)).map
          (fun life => (Pool.finished life.writer, heldCells life,
            life.writer.result.failedKeys)) =
              some (true, some [true, false, false, true], [1]) := by
    decide +kernel
  obtain ⟨together, replayedTogether, seenTogether⟩ := Option.map_eq_some_iff.mp knownTogether
  obtain ⟨apart, replayedApart, seenApart⟩ := Option.map_eq_some_iff.mp knownApart
  simp only [Prod.mk.injEq] at seenTogether seenApart
  have ranTogether : Ran (severalColumns.inMode true) 1 brokenCell _ together :=
    ⟨_, (severalColumns.inMode true).starts_idle 1 0.0 (by decide), replayedTogether⟩
  have ranApart : Ran (severalColumns.inMode false) 2 brokenCell _ apart :=
    ⟨_, (severalColumns.inMode false).starts_idle 2 0.0 (by decide), replayedApart⟩
  obtain ⟨result, waitedTogether, waitedApart, agree⟩ := (write_modes_agree
    (faultyStore_keepsRows brokenCell.faults).toMergesWrites
    (refuses_of_failingCells brokenCell.faults rfl) severalColumns severalColumns_generates
    brokenCell ⟨rfl, rfl, rfl⟩ 1 _ together ranTogether 2 _ apart ranApart).2.2 seenTogether.1
    seenApart.1
  have failedKeys : result.failedKeys = [1] := by
    rw [← seenApart.2.2, (Writer.wait_eq_ok apart.writer result waitedApart).2]
  exact ⟨together, apart, result, ranTogether, ranApart, waitedTogether, waitedApart, failedKeys,
    agree, seenTogether.2, seenApart.2.1⟩

end WriterLife

end LoadVerifier
