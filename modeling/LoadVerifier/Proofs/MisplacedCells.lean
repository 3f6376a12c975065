/-
This file says that misplaced cells are noticed. The header of a cell is its key and its column in
decimal digits, each followed by a colon, so no header is the beginning of another one. A value that
is at least as long as its header starts with it, and therefore tells which cell it belongs to: the
values of different cells differ, whatever bounds they were generated within.

For a comparison this means that the row of another key never passes for a record, and that two
values that have changed places are reported, these two and nothing else.
-/
import LoadVerifier.Proofs.RowComparison
import Mathlib.Data.List.Nodup
import Mathlib.Logic.Equiv.Basic

namespace LoadVerifier

/-! ### Values that tell their cell -/

/-- A header that another one starts with belongs to the same cell. -/
theorem eq_of_cellHeader_start {key column other otherColumn : Int}
    (start : cellHeader key column <+: cellHeader other otherColumn) :
    key = other ∧ column = otherColumn := by
  have characters := start.map fun byte => Char.ofNat byte.toNat
  rw [characters_cellHeader, characters_cellHeader] at characters
  obtain ⟨rest, equal⟩ := characters
  rw [List.append_assoc, List.cons_append, List.append_assoc] at equal
  obtain ⟨keys, -, behind⟩ := decimal_append_inj rfl rfl equal
  exact ⟨keys, (decimal_append_inj rfl rfl behind).1⟩

/-- A value starts with the header of a cell. -/
def Headed (key column : Int) (value : Bytes) : Prop := cellHeader key column <+: value

/-- A value starts with the header of one cell only. -/
theorem Headed.eq {key column other otherColumn : Int} {value : Bytes}
    (headed : Headed key column value) (otherHeaded : Headed other otherColumn value) :
    key = other ∧ column = otherColumn := by
  rcases List.prefix_or_prefix_of_prefix headed otherHeaded with start | start
  · exact eq_of_cellHeader_start start
  · obtain ⟨keys, columns⟩ := eq_of_cellHeader_start start
    exact ⟨keys.symm, columns.symm⟩

/-- A generated value starts with its header, unless it is shorter. -/
theorem headed_of_generateValue {key column : Int} {bounds : Bounds} {value : Bytes}
    (generated : generateValue key column bounds = .ok value)
    (long : (cellHeader key column).length ≤ value.length) : Headed key column value := by
  obtain ⟨size, stream, -, rfl⟩ := generateValue_eq_ok key column bounds value generated
  have agrees := take_cellContent (cellHeader key column) size stream
  rw [length_cellContent] at long
  rw [Nat.min_eq_right long, List.take_length] at agrees
  exact List.prefix_iff_eq_take.mpr agrees.symm

theorem minSize_le_length {key column : Int} {bounds : Bounds} {value : Bytes}
    (generated : generateValue key column bounds = .ok value) : bounds.minSize ≤ value.length := by
  obtain ⟨size, stream, sized, rfl⟩ := generateValue_eq_ok key column bounds value generated
  rw [length_cellContent]
  exact sized.1

/-! ### Rows of other keys -/

/-- A record has a first cell, and it was generated for its key. -/
theorem exists_first_cell {key : Int} {bounds : Bounds} {record : Record}
    (generated : generate key bounds = .ok record) :
    ∃ value, record.columns.find? 0 = some value ∧ generateValue key 0 bounds = .ok value := by
  have counted := (numColumns_bounds key bounds record generated).1
  have some_column := bounds.one_le_minColumns
  have present := (generate_find?_isSome_iff key bounds record generated 0).mpr (by omega)
  obtain ⟨value, found⟩ := Option.isSome_iff_exists.mp present
  exact ⟨value, found, value_of_mem_cells key bounds record generated _
    (record.columns.mem_of_find?_eq_some 0 value found)⟩

/-- The row of another key is not that of the record, if the first values have room for their
headers. -/
theorem compareColumns_of_other_key {key other : Int} {bounds : Bounds} {record row : Record}
    (different : key ≠ other) (room : (cellHeader key 0).length ≤ bounds.minSize)
    (otherRoom : (cellHeader other 0).length ≤ bounds.minSize)
    (generated : generate key bounds = .ok record)
    (otherGenerated : generate other bounds = .ok row) :
    compareColumns record row.columns ≠ [] := by
  intro alike
  obtain ⟨value, found, made⟩ := exists_first_cell generated
  obtain ⟨otherValue, otherFound, otherMade⟩ := exists_first_cell otherGenerated
  have same := congrFun ((compareColumns_eq_nil_iff record row.columns).mp alike) 0
  rw [found, otherFound] at same
  cases same
  have headed := headed_of_generateValue made (Nat.le_trans room (minSize_le_length made))
  have otherHeaded :=
    headed_of_generateValue otherMade (Nat.le_trans otherRoom (minSize_le_length otherMade))
  exact different (headed.eq otherHeaded).1

/-! ### Values that have changed places -/

section Swapped

variable {record : Record} {row : Columns} {first second : Int} {value other : Bytes}

/-- A row has the columns of a record, but the values of two columns have changed places. -/
def Swapped (record : Record) (first second : Int) (row : Columns) : Prop :=
  ∀ number, row.find? number = record.columns.find? (Equiv.swap first second number)

/-- Two values change places when each is set in the other's column. -/
theorem swapped_insert (found : record.columns.find? first = some value)
    (otherFound : record.columns.find? second = some other) :
    Swapped record first second ((record.columns.insert first other).insert second value) := by
  intro number
  rw [ColumnMap.find?_insert, ColumnMap.find?_insert]
  by_cases isSecond : second = number
  · rw [if_pos isSecond, ← isSecond, Equiv.swap_apply_right, found]
  · by_cases isFirst : first = number
    · rw [if_neg isSecond, if_pos isFirst, ← isFirst, Equiv.swap_apply_left, otherFound]
    · rw [if_neg isSecond, if_neg isFirst,
        Equiv.swap_apply_of_ne_of_ne (Ne.symm isFirst) (Ne.symm isSecond)]

theorem Swapped.find?_first (swapped : Swapped record first second row) :
    row.find? first = record.columns.find? second := by
  rw [swapped, Equiv.swap_apply_left]

theorem Swapped.find?_second (swapped : Swapped record first second row) :
    row.find? second = record.columns.find? first := by
  rw [swapped, Equiv.swap_apply_right]

theorem Swapped.find?_of_ne (swapped : Swapped record first second row) {number : Int}
    (isNotFirst : number ≠ first) (isNotSecond : number ≠ second) :
    row.find? number = record.columns.find? number := by
  rw [swapped, Equiv.swap_apply_of_ne_of_ne isNotFirst isNotSecond]

theorem Swapped.extraColumns_eq_nil (swapped : Swapped record first second row)
    (found : record.columns.find? first = some value)
    (otherFound : record.columns.find? second = some other) :
    extraColumns record.columns (row.mapValues some) = [] := by
  refine List.eq_nil_iff_forall_not_mem.mpr fun number extra => ?_
  obtain ⟨member, absent⟩ := (mem_extraColumns_iff _ _ number).mp extra
  rw [← ColumnMap.find?_isSome_iff, ColumnMap.find?_mapValues, Option.isSome_map] at member
  rw [← ColumnMap.find?_isSome_iff] at absent
  by_cases isFirst : number = first
  · rw [isFirst, found] at absent
    exact absent rfl
  · by_cases isSecond : number = second
    · rw [isSecond, otherFound] at absent
      exact absent rfl
    · rw [swapped.find?_of_ne isFirst isSecond] at member
      exact absent member

/-- The cells that a row with swapped values does not hold are those of the two columns. -/
theorem Swapped.mem_unheldCells_iff (swapped : Swapped record first second row)
    (found : record.columns.find? first = some value)
    (otherFound : record.columns.find? second = some other) (apart : value ≠ other)
    (cell : Int × Bytes) :
    cell ∈ unheldCells record (row.mapValues some) ↔
      cell ∈ [(first, value), (second, other)] := by
  rw [unheldCells, List.mem_filter, decide_eq_true_iff, holdsCell_mapValues_iff, List.mem_cons,
    List.mem_singleton]
  constructor
  · rintro ⟨member, unheld⟩
    have own := record.columns.find?_eq_some_of_mem cell member
    by_cases isFirst : cell.1 = first
    · rw [isFirst, found] at own
      exact .inl (Prod.ext isFirst (Option.some.inj own).symm)
    · by_cases isSecond : cell.1 = second
      · rw [isSecond, otherFound] at own
        exact .inr (Prod.ext isSecond (Option.some.inj own).symm)
      · rw [swapped.find?_of_ne isFirst isSecond] at unheld
        exact absurd own unheld
  · rintro (rfl | rfl)
    · refine ⟨record.columns.mem_of_find?_eq_some _ _ found, fun same => ?_⟩
      rw [swapped.find?_first, otherFound] at same
      exact apart (Option.some.inj same).symm
    · refine ⟨record.columns.mem_of_find?_eq_some _ _ otherFound, fun same => ?_⟩
      rw [swapped.find?_second, found] at same
      exact apart (Option.some.inj same)

/-- Two values that have changed places are reported, and nothing else is. -/
theorem Swapped.reported (swapped : Swapped record first second row)
    (found : record.columns.find? first = some value)
    (otherFound : record.columns.find? second = some other) (apart : value ≠ other) :
    (compareColumns record row).Perm
      [.mismatch first value.length other, .mismatch second other.length value] := by
  have different : first ≠ second := by
    rintro rfl
    exact apart (Option.some.inj (found.symm.trans otherFound))
  have unheld : (unheldCells record (row.mapValues some)).Perm
      [(first, value), (second, other)] := by
    refine (List.perm_ext_iff_of_nodup ?_ ?_).mpr
      (swapped.mem_unheldCells_iff found otherFound apart)
    · exact (List.Nodup.of_map Prod.fst record.columns.distinct).filter _
    · simp [different]
  have problems := unheld.map (problemAt (row.mapValues some))
  have atFirst := swapped.find?_first.trans otherFound
  have atSecond := swapped.find?_second.trans found
  rw [compareColumns, compareRow_eq, swapped.extraColumns_eq_nil found otherFound, List.map_nil,
    List.append_nil]
  simpa [problemAt, ColumnMap.find?_mapValues, atFirst, atSecond] using problems

end Swapped

/-- What headers are good for. -/
structure CellsToldApart : Prop where
  /-- No header is the beginning of the header of another cell. -/
  headers : ∀ key column other otherColumn : Int, (key, column) ≠ (other, otherColumn) →
    ¬cellHeader key column <+: cellHeader other otherColumn ∧
      ¬cellHeader other otherColumn <+: cellHeader key column
  /-- The values of different cells differ if each has room for its header. -/
  values : ∀ (key column other otherColumn : Int) (bounds otherBounds : Bounds)
    (value otherValue : Bytes), (key, column) ≠ (other, otherColumn) →
      generateValue key column bounds = .ok value →
      generateValue other otherColumn otherBounds = .ok otherValue →
      (cellHeader key column).length ≤ value.length →
      (cellHeader other otherColumn).length ≤ otherValue.length → value ≠ otherValue
  /-- The row of another key is not that of the record if all values have room for the headers of
  the first columns. -/
  rows : ∀ (key other : Int) (bounds : Bounds), key ≠ other → 0 ≤ key → 0 ≤ other →
    (cellHeader key 0).length ≤ bounds.minSize → (cellHeader other 0).length ≤ bounds.minSize →
      (bounds.Drawable → ∃ record row,
        generate key bounds = .ok record ∧ generate other bounds = .ok row) ∧
      ∀ record row, generate key bounds = .ok record → generate other bounds = .ok row →
        compareColumns record row.columns ≠ []
  /-- If all values of a record have room for their headers and two of them change places, then
  these two are reported and nothing else is. -/
  swaps : ∀ (key : Int) (bounds : Bounds) (record : Record) (row : Columns) (first second : Int)
    (value other : Bytes), generate key bounds = .ok record →
      (∀ cell ∈ record.columns.cells, (cellHeader key cell.1).length ≤ cell.2.length) →
      first ≠ second → record.columns.find? first = some value →
      record.columns.find? second = some other → Swapped record first second row →
        (compareColumns record row).Perm
          [.mismatch first value.length other, .mismatch second other.length value]

theorem not_start_of_ne {key column other otherColumn : Int}
    (different : (key, column) ≠ (other, otherColumn)) :
    ¬cellHeader key column <+: cellHeader other otherColumn := by
  intro start
  obtain ⟨keys, columns⟩ := eq_of_cellHeader_start start
  exact different (Prod.ext keys columns)

/-- Data in the wrong place is noticed. -/
theorem misplaced_cells_are_noticed : CellsToldApart where
  headers key column other otherColumn different :=
    ⟨not_start_of_ne different, not_start_of_ne different.symm⟩
  values key column other otherColumn bounds otherBounds value otherValue different generated
      otherGenerated long otherLong := by
    rintro rfl
    have headed := headed_of_generateValue generated long
    obtain ⟨keys, columns⟩ := headed.eq (headed_of_generateValue otherGenerated otherLong)
    exact different (Prod.ext keys columns)
  rows key other bounds different nonneg otherNonneg room otherRoom := by
    refine ⟨fun drawable => ?_, fun record row generated otherGenerated =>
      compareColumns_of_other_key different room otherRoom generated otherGenerated⟩
    obtain ⟨record, generated⟩ := generate_of_drawable key bounds nonneg drawable
    obtain ⟨row, otherGenerated⟩ := generate_of_drawable other bounds otherNonneg drawable
    exact ⟨record, row, generated, otherGenerated⟩
  swaps key bounds record row first second value other generated long different found otherFound
      swapped := by
    refine swapped.reported found otherFound ?_
    rintro rfl
    have headed : ∀ number, record.columns.find? number = some value →
        Headed key number value := by
      intro number known
      have member := record.columns.mem_of_find?_eq_some number value known
      exact headed_of_generateValue (value_of_mem_cells key bounds record generated _ member)
        (long _ member)
    exact different ((headed first found).eq (headed second otherFound)).2

theorem misplaced_cells_are_noticed_of_two_keys :
    ¬cellHeader 1 23 <+: cellHeader 12 3 ∧
    ∃ record row, generate 1 .roomy = .ok record ∧ generate 12 .roomy = .ok row ∧
      record.columns.cells =
        [(0, [49, 58, 48, 58, 243, 189, 6]), (1, [49, 58, 49, 58, 205, 150, 245, 84])] ∧
      row.columns.find? 0 ≠ record.columns.find? 0 ∧ compareColumns record row.columns ≠ [] ∧
      (compareColumns record
        ((record.columns.insert 0 [49, 58, 49, 58, 205, 150, 245, 84]).insert 1
          [49, 58, 48, 58, 243, 189, 6])).Perm
        [.mismatch 0 7 [49, 58, 49, 58, 205, 150, 245, 84],
          .mismatch 1 8 [49, 58, 48, 58, 243, 189, 6]] := by
  have noticed := misplaced_cells_are_noticed
  obtain ⟨both, compared⟩ :=
    noticed.rows 1 12 .roomy (by decide) (by decide) (by decide) (by decide) (by decide)
  obtain ⟨record, row, generated, otherGenerated⟩ := both ⟨by decide, by decide⟩
  have known : (generate 1 .roomy).toOption.map (fun record => record.columns.cells) =
      some [(0, [49, 58, 48, 58, 243, 189, 6]), (1, [49, 58, 49, 58, 205, 150, 245, 84])] := by
    decide +kernel
  rw [generated] at known
  have cells : record.columns.cells =
      [(0, [49, 58, 48, 58, 243, 189, 6]), (1, [49, 58, 49, 58, 205, 150, 245, 84])] :=
    Option.some.inj known
  have found := record.columns.find?_eq_some_of_mem (0, _) (cells ▸ List.mem_cons_self)
  have otherFound := record.columns.find?_eq_some_of_mem (1, _)
    (cells ▸ List.mem_cons_of_mem _ List.mem_cons_self)
  obtain ⟨first, firstFound, made⟩ := exists_first_cell otherGenerated
  refine ⟨(noticed.headers 1 23 12 3 (by decide)).1, record, row, generated, otherGenerated, cells,
    ?_, compared record row generated otherGenerated, ?_⟩
  · rw [firstFound, found]
    have ownMade := value_of_mem_cells 1 .roomy record generated _
      (record.columns.mem_of_find?_eq_some _ _ found)
    exact fun same => noticed.values 12 0 1 0 _ _ first _ (by decide) made ownMade
      (Nat.le_trans (by decide) (minSize_le_length made)) (by decide) (Option.some.inj same)
  · refine noticed.swaps 1 .roomy record _ 0 1 _ _ generated ?_ (by decide) found otherFound
      (swapped_insert found otherFound)
    rw [cells]
    decide

end LoadVerifier
