/-
This file looks at rows by their content alone: which columns there are and what is in them, not
in which order they were set. A write lays its columns over the row of a key, and the calls of a
record lay the whole record over it, in one call or in one for each column. A row without problems
has exactly the content of the record.

A store merges writes when every write either lays its columns over the row of its key or is refused
without effect, and it keeps rows when every read gives the content of the row besides. What the
pools promise rests on nothing else.
-/
import LoadVerifier.Proofs.Draws
import LoadVerifier.Record.Compare
import LoadVerifier.Store.Faulty
import LoadVerifier.Writing.Writer
import Mathlib.Logic.Function.Basic

namespace LoadVerifier

/-! ### Looking up columns -/

namespace ColumnMap

variable {Value Other : Type}

theorem find?_eq_some_of_mem (columns : ColumnMap Value) (cell : Int × Value)
    (member : cell ∈ columns.cells) : columns.find? cell.1 = some cell.2 := by
  obtain ⟨cells, distinct⟩ := columns
  rw [find?]
  simp only at member ⊢
  induction cells with
  | nil => cases member
  | cons head rest inductionHypothesis =>
    rw [List.map_cons, List.nodup_cons] at distinct
    rcases List.mem_cons.mp member with same | later
    · rw [same, List.find?_cons_of_pos (by simp)]
      rfl
    · have different : head.1 ≠ cell.1 := fun equal =>
        distinct.1 (equal ▸ List.mem_map_of_mem later)
      rw [List.find?_cons_of_neg (by simpa using different)]
      exact inductionHypothesis distinct.2 later

theorem mem_of_find?_eq_some (columns : ColumnMap Value) (number : Int) (value : Value)
    (found : columns.find? number = some value) : (number, value) ∈ columns.cells := by
  rw [find?, Option.map_eq_some_iff] at found
  obtain ⟨cell, first, equal⟩ := found
  have same : cell.1 = number := by simpa using List.find?_some first
  rw [← same, ← equal]
  exact List.mem_of_find?_eq_some first

theorem find?_isSome_iff (columns : ColumnMap Value) (number : Int) :
    (columns.find? number).isSome ↔ number ∈ columns.numbers := by
  rw [numbers, List.mem_map]
  constructor
  · intro found
    obtain ⟨value, equal⟩ := Option.isSome_iff_exists.mp found
    exact ⟨_, columns.mem_of_find?_eq_some number value equal, rfl⟩
  · rintro ⟨cell, member, rfl⟩
    rw [columns.find?_eq_some_of_mem cell member]
    rfl

theorem find?_mapValues (change : Value → Other) (columns : ColumnMap Value) (number : Int) :
    (columns.mapValues change).find? number = (columns.find? number).map change := by
  rw [find?, find?, mapValues, List.find?_map, Option.map_map, Option.map_map]
  rfl

theorem find?_eq_none_of_not_mem (cells : List (Int × Value)) (number : Int)
    (absent : number ∉ cells.map Prod.fst) :
    cells.find? (fun cell => cell.1 == number) = none := by
  rw [List.find?_eq_none]
  intro cell member equal
  have same : cell.1 = number := by simpa using equal
  exact absent (same ▸ List.mem_map_of_mem member)

theorem find?_insertCells (columns : ColumnMap Value) (cells : List (Int × Value))
    (distinct : (cells.map Prod.fst).Nodup) (number : Int) :
    (columns.insertCells cells).find? number =
      ((cells.find? fun cell => cell.1 == number).map Prod.snd).or (columns.find? number) := by
  induction cells generalizing columns with
  | nil => rfl
  | cons cell rest inductionHypothesis =>
    rw [List.map_cons, List.nodup_cons] at distinct
    rw [insertCells, List.foldl_cons]
    refine (inductionHypothesis (columns.insert cell.1 cell.2) distinct.2).trans ?_
    rw [find?_insert]
    by_cases same : cell.1 = number
    · rw [find?_eq_none_of_not_mem rest number (same ▸ distinct.1), if_pos same,
        List.find?_cons_of_pos (by simpa using same)]
      rfl
    · rw [if_neg same, List.find?_cons_of_neg (by simpa using same)]

theorem find?_insertAll (columns other : ColumnMap Value) (number : Int) :
    (columns.insertAll other).find? number = (other.find? number).or (columns.find? number) :=
  find?_insertCells columns other.cells other.distinct number

/-- Two maps that agree on the columns of both have the same content. -/
theorem find?_eq_find?_iff (first second : ColumnMap Value) :
    first.find? = second.find? ↔
      ∀ number ∈ first.numbers ++ second.numbers, first.find? number = second.find? number := by
  refine ⟨fun same number _ => congrFun same number, fun agree => funext fun number => ?_⟩
  by_cases known : number ∈ first.numbers ++ second.numbers
  · exact agree number known
  · rw [List.mem_append, not_or, ← find?_isSome_iff, ← find?_isSome_iff,
      Option.not_isSome_iff_eq_none, Option.not_isSome_iff_eq_none] at known
    rw [known.1, known.2]

instance [DecidableEq Value] (first second : ColumnMap Value) :
    Decidable (first.find? = second.find?) :=
  decidable_of_iff _ (find?_eq_find?_iff first second).symm

end ColumnMap

/-! ### The content of rows -/

/-- The content of a row. -/
abbrev Row := Int → Option Bytes

/-- The content of all rows; a key without a row has none. -/
abbrev Contents := Int → Option Row

/-- The content of a row after columns were laid over it. -/
def overlay (row : Option Row) (columns : Columns) : Row := fun number =>
  (columns.find? number).or (row.bind fun row => row number)

/-- The content of a row after several calls. -/
def afterCalls (row : Option Row) (calls : List Columns) : Option Row :=
  calls.foldl (fun row call => some (overlay row call)) row

/-- The contents after one write. -/
def Contents.merge (contents : Contents) (key : Int) (columns : Columns) : Contents :=
  Function.update contents key (some (overlay (contents key) columns))

theorem overlay_none (columns : Columns) : overlay none columns = columns.find? := by
  funext number
  rw [overlay, Option.bind_none, Option.or_none]

/-- Columns laid over a row twice are as good as laid once. -/
theorem overlay_overlay (row : Option Row) (columns : Columns) :
    overlay (some (overlay row columns)) columns = overlay row columns := by
  funext number
  rw [overlay, Option.bind_some, overlay]
  cases columns.find? number <;> rfl

theorem afterCalls_append (row : Option Row) (first second : List Columns) :
    afterCalls row (first ++ second) = afterCalls (afterCalls row first) second :=
  List.foldl_append

/-- Columns set one after another are columns set together. -/
theorem afterCalls_singles (row : Option Row) (cells : List (Int × Bytes))
    (distinct : (cells.map Prod.fst).Nodup) (some_cell : cells ≠ []) :
    afterCalls row (cells.map fun cell => .single cell.1 cell.2) =
      some (overlay row ⟨cells, distinct⟩) := by
  induction cells generalizing row with
  | nil => exact absurd rfl some_cell
  | cons cell rest inductionHypothesis =>
    have both := distinct
    rw [List.map_cons, List.nodup_cons] at both
    have single : ∀ number, (ColumnMap.single cell.1 cell.2).find? number =
        if cell.1 = number then some cell.2 else none := by
      intro number
      by_cases same : cell.1 = number <;> simp [ColumnMap.find?, ColumnMap.single, same]
    rw [List.map_cons, afterCalls, List.foldl_cons]
    by_cases last : rest = []
    · subst last
      refine congrArg some (funext fun number => ?_)
      rw [overlay, overlay, single]
      by_cases same : cell.1 = number <;> simp [ColumnMap.find?, same]
    · refine (inductionHypothesis _ both.2 last).trans (congrArg some (funext fun number => ?_))
      rw [overlay, overlay, Option.bind_some, overlay, single]
      by_cases same : cell.1 = number
      · have absent := ColumnMap.find?_eq_none_of_not_mem rest number (same ▸ both.1)
        simp [ColumnMap.find?, absent, same]
      · simp [ColumnMap.find?, same]

/-- The calls of a record lay the whole record over the row, whatever the write mode. -/
theorem afterCalls_callsFor (multiPut : Bool) (record : Record) (row : Option Row)
    (some_cell : record.columns.cells ≠ []) :
    afterCalls row (Writer.callsFor multiPut record) = some (overlay row record.columns) := by
  rw [Writer.callsFor]
  split
  · rfl
  · exact afterCalls_singles row record.columns.cells record.columns.distinct some_cell

/-- A call of a record writes only to columns of the record. -/
theorem numbers_of_mem_callsFor (multiPut : Bool) (record : Record) (call : Columns)
    (member : call ∈ Writer.callsFor multiPut record) (number : Int)
    (written : number ∈ call.numbers) : number ∈ record.columns.numbers := by
  rw [Writer.callsFor] at member
  split at member
  · rw [List.mem_singleton.mp member] at written
    exact written
  · obtain ⟨cell, among, rfl⟩ := List.mem_map.mp member
    rw [List.mem_singleton.mp written]
    exact List.mem_map_of_mem among

/-- Columns cover a row when nothing of it is left once they are laid over it. -/
def Covers (columns : Columns) (row : Option Row) : Prop := overlay row columns = columns.find?

theorem covers_none (columns : Columns) : Covers columns none := overlay_none columns

/-- Columns cover a row as long as nothing else than they is written to it. -/
theorem Covers.after {columns : Columns} {row : Option Row} (covers : Covers columns row)
    (calls : List Columns)
    (within : ∀ call ∈ calls, ∀ number ∈ call.numbers, number ∈ columns.numbers) :
    Covers columns (afterCalls row calls) := by
  induction calls generalizing row with
  | nil => exact covers
  | cons call rest inductionHypothesis =>
    have covered : Covers columns (some (overlay row call)) := by
      funext number
      have former : overlay row columns number = columns.find? number := congrFun covers number
      rw [overlay] at former ⊢
      cases found : columns.find? number with
      | some value => rfl
      | none =>
        have unwritten : call.find? number = none := by
          rw [← Option.not_isSome_iff_eq_none, ColumnMap.find?_isSome_iff]
          intro written
          have known := (columns.find?_isSome_iff number).mpr
            (within call List.mem_cons_self number written)
          rw [found] at known
          cases known
        rw [found] at former
        rw [Option.bind_some, overlay, unwritten]
        exact former
    exact inductionHypothesis covered fun other member =>
      within other (List.mem_cons_of_mem _ member)

/-! ### Generated records -/

/-- What the parts of a successful generation are. -/
theorem generate_eq_ok (key : Int) (bounds : Bounds) (record : Record)
    (generated : generate key bounds = .ok record) :
    record.key = key ∧ ∃ count, generateColumnCount key bounds = .ok count ∧
      (List.range count).mapM (generateCell key bounds) = .ok record.columns.cells := by
  rw [generate] at generated
  split at generated
  · cases generated
  · split at generated
    · cases generated
    · rename_i count counted
      split at generated
      · cases generated
      · rename_i cells drawn
        cases generated
        exact ⟨rfl, count, counted, drawn⟩

theorem generate_key (key : Int) (bounds : Bounds) (record : Record)
    (generated : generate key bounds = .ok record) : record.key = key :=
  (generate_eq_ok key bounds record generated).1

/-- A record has as many columns as were drawn for its key. -/
theorem generateColumnCount_eq_numColumns (key : Int) (bounds : Bounds) (record : Record)
    (generated : generate key bounds = .ok record) :
    generateColumnCount key bounds = .ok record.numColumns := by
  obtain ⟨_, count, counted, drawn⟩ := generate_eq_ok key bounds record generated
  have numbers := congrArg List.length (mapM_generateCell_fst key bounds _ _ drawn)
  rw [List.length_map, List.length_map, List.length_range] at numbers
  rw [counted, Record.numColumns, ColumnMap.size, numbers]

/-- The columns of a record are numbered from zero on. -/
theorem generate_find?_isSome_iff (key : Int) (bounds : Bounds) (record : Record)
    (generated : generate key bounds = .ok record) (number : Int) :
    (record.columns.find? number).isSome ↔ 0 ≤ number ∧ number < record.numColumns := by
  obtain ⟨_, count, counted, drawn⟩ := generate_eq_ok key bounds record generated
  have numbers := mapM_generateCell_fst key bounds _ _ drawn
  have same := counted.symm.trans (generateColumnCount_eq_numColumns key bounds record generated)
  rw [ColumnMap.find?_isSome_iff, ColumnMap.numbers, numbers, List.mem_map, ← Except.ok.inj same]
  constructor
  · rintro ⟨column, member, rfl⟩
    have less := List.mem_range.mp member
    omega
  · rintro ⟨nonneg, less⟩
    exact ⟨number.toNat, List.mem_range.mpr (by omega), by omega⟩

/-- A record has a column. -/
theorem generate_cells_ne_nil (key : Int) (bounds : Bounds) (record : Record)
    (generated : generate key bounds = .ok record) : record.columns.cells ≠ [] := by
  have counted := generateColumnCount_eq_numColumns key bounds record generated
  intro empty
  have least := (columnCount_bounds key bounds _ counted).1
  have some_column := bounds.one_le_minColumns
  rw [Record.numColumns, ColumnMap.size, empty, List.length_nil] at least
  omega

/-- One or two columns of one to four bytes. -/
def Bounds.small : Bounds := ⟨1, 2, 1, 4, by decide, by decide, by decide⟩

/-- One column, of one to four bytes. -/
def Bounds.narrow : Bounds := ⟨1, 1, 1, 4, by decide, by decide, by decide⟩

/-- Two to four columns, of a size around that of a header of four bytes. -/
def Bounds.aroundHeader : Bounds := ⟨2, 4, 3, 8, by decide, by decide, by decide⟩

/-- Two columns, with room for the headers of keys of two digits. -/
def Bounds.roomy : Bounds := ⟨2, 2, 6, 9, by decide, by decide, by decide⟩

/-! ### Rows without problems -/

/-- A row holds a cell when it has its column with its bytes. -/
def HoldsCell (row : ColumnMap (Option Bytes)) (cell : Int × Bytes) : Prop :=
  row.find? cell.1 = some (some cell.2)

instance (row : ColumnMap (Option Bytes)) (cell : Int × Bytes) : Decidable (HoldsCell row cell) :=
  inferInstanceAs (Decidable (_ = _))

theorem compareCell_eq_none_iff (row : ColumnMap (Option Bytes)) (cell : Int × Bytes) :
    compareCell row cell = none ↔ HoldsCell row cell := by
  rw [compareCell, HoldsCell]
  cases row.find? cell.1 with
  | none => simp
  | some content =>
    cases content with
    | none => simp
    | some found => by_cases same : found = cell.2 <;> simp [same]

theorem mem_extraColumns_iff {Value : Type} (expected : ColumnMap Value)
    (row : ColumnMap (Option Bytes)) (number : Int) :
    number ∈ extraColumns expected row ↔ number ∈ row.numbers ∧ number ∉ expected.numbers := by
  rw [extraColumns, List.mem_mergeSort, List.mem_filter, Bool.not_eq_true',
    List.contains_eq_mem, decide_eq_false_iff_not]

/-- A comparison with a row reports nothing exactly when the row has the columns of the record, with
its bytes, and no other column. -/
theorem compareRow_eq_nil_iff (record : Record) (row : ColumnMap (Option Bytes)) :
    compareRow record (some row) = [] ↔
      ∀ number, row.find? number = (record.columns.find? number).map some := by
  rw [compareRow, List.append_eq_nil_iff, List.filterMap_eq_nil_iff, List.map_eq_nil_iff,
    List.eq_nil_iff_forall_not_mem]
  constructor
  · rintro ⟨held, noExtra⟩ number
    cases expected : record.columns.find? number with
    | some value =>
      have member := record.columns.mem_of_find?_eq_some number value expected
      exact (compareCell_eq_none_iff row _).mp (held _ member)
    | none =>
      have known := mt (mem_extraColumns_iff record.columns row number).mpr (noExtra number)
      rw [← ColumnMap.find?_isSome_iff, ← ColumnMap.find?_isSome_iff, expected] at known
      simpa using known
  · intro equal
    refine ⟨fun cell member => ?_, fun number extra => ?_⟩
    · rw [compareCell_eq_none_iff, HoldsCell, equal,
        record.columns.find?_eq_some_of_mem cell member, Option.map_some]
    · have parts := (mem_extraColumns_iff record.columns row number).mp extra
      rw [← ColumnMap.find?_isSome_iff, ← ColumnMap.find?_isSome_iff, equal, Option.isSome_map]
        at parts
      exact parts.2 parts.1

/-- A row has no problems if and only if its content is that of the record. -/
theorem compareColumns_eq_nil_iff (record : Record) (row : Columns) :
    compareColumns record row = [] ↔ row.find? = record.columns.find? := by
  rw [compareColumns, compareRow_eq_nil_iff, funext_iff]
  refine forall_congr' fun number => ?_
  rw [ColumnMap.find?_mapValues]
  exact (Option.map_injective fun _ _ => Option.some.inj).eq_iff

/-! ### Stores that keep rows -/

/-- A store merges writes, in the states that count as regular and stay so: a write lays its columns
over the row of its key or is refused without effect. -/
structure MergesWrites (Storage : Type) [Store Storage] (contents : Storage → Contents)
    (regular : Storage → Prop) : Prop where
  write : ∀ store caller key columns, regular store →
    regular (Store.write store caller key columns).2 ∧
      ((Store.write store caller key columns).1 = .done () ∧
          contents (Store.write store caller key columns).2 =
            (contents store).merge key columns ∨
        (∃ failure, (Store.write store caller key columns).1 = .failed failure) ∧
          contents (Store.write store caller key columns).2 = contents store)

/-- A store makes writes atomic, in the states that count as regular and stay so: a write that
returns lays its columns over the row of its key, and any other write, refused or broken, has no
effect. -/
structure AtomicWrites (Storage : Type) [Store Storage] (contents : Storage → Contents)
    (regular : Storage → Prop) : Prop where
  write : ∀ store caller key columns, regular store →
    regular (Store.write store caller key columns).2 ∧
      ((Store.write store caller key columns).1 = .done () ∧
          contents (Store.write store caller key columns).2 =
            (contents store).merge key columns ∨
        (Store.write store caller key columns).1 ≠ .done () ∧
          contents (Store.write store caller key columns).2 = contents store)

theorem MergesWrites.atomic {Storage : Type} [Store Storage] {contents : Storage → Contents}
    {regular : Storage → Prop} (merges : MergesWrites Storage contents regular) :
    AtomicWrites Storage contents regular where
  write store caller key columns isRegular := by
    obtain ⟨stillRegular, returned | ⟨⟨failure, failed⟩, unchanged⟩⟩ :=
      merges.write store caller key columns isRegular
    · exact ⟨stillRegular, Or.inl returned⟩
    · exact ⟨stillRegular, Or.inr ⟨(fun done => nomatch failed.symm.trans done), unchanged⟩⟩

/-- A store keeps rows: it merges writes, and a read gives the content of the row and changes
nothing. -/
structure KeepsRows (Storage : Type) [Store Storage] (contents : Storage → Contents)
    (regular : Storage → Prop) : Prop extends MergesWrites Storage contents regular where
  read : ∀ store caller key, regular store →
    regular (Store.read store caller key).2 ∧
      contents (Store.read store caller key).2 = contents store ∧
      ∃ row, (Store.read store caller key).1 = .done row ∧
        row.map ColumnMap.find? = contents store key

/-- The content of the rows in memory. -/
def MemoryStore.contents (store : MemoryStore) : Contents := fun key =>
  (store.row? key).map ColumnMap.find?

theorem MemoryStore.contents_merge (store : MemoryStore) (key : Int) (columns : Columns) :
    (store.merge key columns).contents = store.contents.merge key columns := by
  funext other
  rw [contents, Contents.merge, row?, merge, Std.TreeMap.getElem?_insert]
  by_cases same : other = key
  · subst same
    rw [Function.update_self, if_pos (by simp), Option.map_some]
    refine congrArg some (funext fun number => ?_)
    rw [ColumnMap.find?_insertAll, overlay, contents]
    cases store.row? other with
    | none => rfl
    | some row => rfl
  · rw [Function.update_of_ne same, if_neg (by simpa using Ne.symm same)]
    rfl

theorem memoryStore_keepsRows :
    KeepsRows MemoryStore MemoryStore.contents fun _ => True where
  write store _ key columns _ := ⟨trivial, Or.inl ⟨rfl, store.contents_merge key columns⟩⟩
  read store _ key _ := ⟨trivial, rfl, store.row? key, rfl, rfl⟩

/-- A store with faults that break no call and refuse no read. -/
def FaultyStore.Serves (faults : Faults) (store : FaultyStore) : Prop :=
  store.faults = faults ∧ faults.broken = [] ∧ faults.failingReads = []

theorem FaultyStore.write_eq (faults : Faults) (store : FaultyStore) (serves : store.Serves faults)
    (caller : Caller) (key : Int) (columns : Columns) :
    Store.write store caller key columns =
      if refusesWrite faults key columns then
        (.failed ⟨"injected write failure", key⟩, store.note ⟨key, some columns.numbers⟩)
      else (.done (), { store.note ⟨key, some columns.numbers⟩ with
        memory := store.memory.merge key columns }) := by
  obtain ⟨rfl, unbroken, _⟩ := serves
  show (if store.faults.broken.contains key then _ else _) = _
  rw [unbroken, List.contains_nil, if_neg Bool.false_ne_true]
  rfl

theorem FaultyStore.read_eq (faults : Faults) (store : FaultyStore) (serves : store.Serves faults)
    (caller : Caller) (key : Int) :
    Store.read store caller key = (.done (store.memory.row? key), store.note ⟨key, none⟩) := by
  obtain ⟨rfl, unbroken, readable⟩ := serves
  show (if store.faults.broken.contains key then _
    else if store.faults.failingReads.contains key then _ else _) = _
  rw [unbroken, readable, List.contains_nil, if_neg Bool.false_ne_true, if_neg Bool.false_ne_true]
  rfl

/-- Whichever writes a store refuses on purpose, it keeps rows. -/
theorem faultyStore_keepsRows (faults : Faults) :
    KeepsRows FaultyStore (fun store => store.memory.contents) (FaultyStore.Serves faults) where
  write store caller key columns serves := by
    rw [store.write_eq faults serves]
    split
    · exact ⟨serves, Or.inr ⟨⟨_, rfl⟩, rfl⟩⟩
    · exact ⟨serves, Or.inl ⟨rfl, store.memory.contents_merge key columns⟩⟩
  read store caller key serves := by
    rw [store.read_eq faults serves]
    exact ⟨serves, rfl, store.memory.row? key, rfl, rfl⟩

/-- Whatever its faults are, a store with faults makes writes atomic. -/
theorem faultyStore_atomicWrites :
    AtomicWrites FaultyStore (fun store => store.memory.contents) fun _ => True where
  write store caller key columns _ := by
    have written : Store.write store caller key columns =
        if store.faults.broken.contains key then
          (.crashed (FaultyStore.breakage key), store.note ⟨key, some columns.numbers⟩)
        else if FaultyStore.refusesWrite store.faults key columns then
          (.failed ⟨"injected write failure", key⟩, store.note ⟨key, some columns.numbers⟩)
        else (.done (), { store.note ⟨key, some columns.numbers⟩ with
          memory := store.memory.merge key columns }) := rfl
    rw [written]
    refine ⟨trivial, ?_⟩
    split
    · exact Or.inr ⟨(fun done => nomatch done), rfl⟩
    · split
      · exact Or.inr ⟨(fun done => nomatch done), rfl⟩
      · exact Or.inl ⟨rfl, store.memory.contents_merge key columns⟩

end LoadVerifier
