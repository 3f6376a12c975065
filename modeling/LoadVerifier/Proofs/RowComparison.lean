/-
This file says what a comparison of a row with a record reports: every column in which the two
differ, once each. The columns of the record that the row lacks or has with other bytes come first,
in the order of the record; those that only the row has follow in ascending order. So a comparison
reports nothing exactly when the row has the columns of the record, with its bytes.

Each problem becomes one line, and the line tells it back: the key, the kind of the problem and the
column. So two problems of one comparison never share a line.
-/
import LoadVerifier.Proofs.DecimalText
import LoadVerifier.Proofs.RecordShape

namespace LoadVerifier

/-! ### Lines that tell their problem -/

/-- Two problems are of one kind and about one column. -/
def Problem.SameFinding : Problem → Problem → Prop
  | .unreadable _, .unreadable _ => True
  | .noData, .noData => True
  | .missing column, .missing other => column = other
  | .mismatch column _ _, .mismatch other _ _ => column = other
  | .unexpected column, .unexpected other => column = other
  | _, _ => False

/-- What the line of a problem says behind the key. -/
def Problem.remark (problem : Problem) : String :=
  match problem with
  | .unreadable reason => "read failed: " ++ reason
  | .noData => "no data returned"
  | .missing column => "column " ++ toString column ++ " missing"
  | .mismatch column expected found =>
    "column " ++ toString column ++ (" mismatch (expected " ++ toString expected ++
      " bytes, got " ++ toString found.length ++ " bytes, head=" ++
        Text.quotedBytes (found.take shownBytes) ++ ")")
  | .unexpected column => "unexpected column " ++ toString column

/-- A line names the key and then says what is wrong. -/
theorem text_eq (problem : Problem) (key : Int) :
    problem.text key = "key " ++ toString key ++ (": " ++ problem.remark) := by
  have plain : ∀ text : String, toString text = text := fun _ => rfl
  refine String.toList_injective ?_
  unfold Problem.remark Problem.text
  cases problem <;> simp [plain]

/-- Whoever reads a remark knows the kind of the problem and the column. -/
theorem sameFinding_of_remark {problem other : Problem}
    (equal : problem.remark = other.remark) : problem.SameFinding other := by
  have characters := congrArg String.toList equal
  have blank : isDecimal ' ' = false := rfl
  unfold Problem.remark at characters
  cases problem <;> cases other <;> simp [toList_repr] at characters
  case unreadable.unreadable => trivial
  case noData.noData => trivial
  case missing.missing => exact decimal_injective characters
  case missing.mismatch =>
    have rest := (decimal_append_inj blank blank characters).2.2
    simp at rest
  case mismatch.missing =>
    have rest := (decimal_append_inj blank blank characters).2.2
    simp at rest
  case mismatch.mismatch => exact (decimal_append_inj blank blank characters).1
  case unexpected.unexpected => exact decimal_injective characters

/-- Whoever reads a line knows the key, the kind of the problem and the column. -/
theorem sameFinding_of_text {problem other : Problem} {key otherKey : Int}
    (equal : problem.text key = other.text otherKey) :
    key = otherKey ∧ problem.SameFinding other := by
  have characters := congrArg String.toList equal
  simp [text_eq, toList_repr] at characters
  obtain ⟨keys, -, remarks⟩ := decimal_append_inj rfl rfl characters
  exact ⟨keys, sameFinding_of_remark (String.toList_injective (List.cons.inj remarks).2)⟩

/-! ### The columns of the record -/

theorem holdsCell_mapValues_iff (row : Columns) (cell : Int × Bytes) :
    HoldsCell (row.mapValues some) cell ↔ row.find? cell.1 = some cell.2 := by
  rw [HoldsCell, ColumnMap.find?_mapValues]
  cases row.find? cell.1 <;> simp

/-- What is wrong with a cell that a row does not hold. -/
def problemAt (row : ColumnMap (Option Bytes)) (cell : Int × Bytes) : Problem :=
  match row.find? cell.1 with
  | some (some found) => .mismatch cell.1 cell.2.length found
  | _ => .missing cell.1

theorem compareCell_eq_ite (row : ColumnMap (Option Bytes)) (cell : Int × Bytes) :
    compareCell row cell = if HoldsCell row cell then none else some (problemAt row cell) := by
  by_cases held : HoldsCell row cell
  · rw [if_pos held, (compareCell_eq_none_iff row cell).mpr held]
  · rw [if_neg held, compareCell, problemAt]
    cases found : row.find? cell.1 with
    | none => rfl
    | some content =>
      cases content with
      | none => rfl
      | some bytes =>
        have different : bytes ≠ cell.2 := fun same => held (by rw [HoldsCell, found, same])
        exact if_neg different

/-- The cells of a record that a row does not hold, in order. -/
def unheldCells (record : Record) (row : ColumnMap (Option Bytes)) : List (Int × Bytes) :=
  record.columns.cells.filter fun cell => ¬HoldsCell row cell

theorem filterMap_compareCell (row : ColumnMap (Option Bytes)) (cells : List (Int × Bytes)) :
    cells.filterMap (compareCell row) =
      (cells.filter fun cell => ¬HoldsCell row cell).map (problemAt row) := by
  induction cells with
  | nil => rfl
  | cons cell rest inductionHypothesis =>
    rw [List.filterMap_cons, compareCell_eq_ite, inductionHypothesis]
    by_cases held : HoldsCell row cell
    · rw [if_pos held, List.filter_cons_of_neg (by simpa using held)]
    · rw [if_neg held, List.filter_cons_of_pos (by simpa using held), List.map_cons]

/-! ### The columns that only the row has -/

section ExtraColumns

variable {Value : Type} (expected : ColumnMap Value) (row : ColumnMap (Option Bytes))

theorem length_extraColumns :
    (extraColumns expected row).length =
      (row.numbers.filter fun number => number ∉ expected.numbers).length := by
  rw [extraColumns, List.length_mergeSort]
  refine congrArg List.length (List.filter_congr fun number _ => ?_)
  rw [List.contains_eq_mem, decide_not]

/-- The columns that only the row has come in ascending order, each of them once. -/
theorem ascending_extraColumns : (extraColumns expected row).Pairwise (· < ·) := by
  have distinct : (extraColumns expected row).Nodup :=
    (List.mergeSort_perm _ _).nodup_iff.mpr (row.distinct.filter _)
  have ordered : (extraColumns expected row).Pairwise (· ≤ ·) := by
    refine (List.pairwise_mergeSort ?_ ?_ _).imp fun le => of_decide_eq_true le
    · exact fun first second third less further =>
        decide_eq_true (Int.le_trans (of_decide_eq_true less) (of_decide_eq_true further))
    · exact fun first second => by simpa using Int.le_total first second
  exact (ordered.and distinct).imp fun both => Int.lt_iff_le_and_ne.mpr both

end ExtraColumns

/-! ### The comparison -/

theorem compareRow_eq (record : Record) (row : ColumnMap (Option Bytes)) :
    compareRow record (some row) = (unheldCells record row).map (problemAt row) ++
      (extraColumns record.columns row).map Problem.unexpected := by
  rw [compareRow, filterMap_compareCell, unheldCells]

/-- These problems say all that is wrong with a row, in order and once each: the cells of the record
that the row does not hold, in the order of the record, each of them missing when the row has
nothing there and a mismatch otherwise; and then the columns that only the row has, from the least
to the greatest. No two of the problems have one line. -/
structure Reports (record : Record) (row : ColumnMap (Option Bytes)) (problems : List Problem) :
    Prop where
  listed : ∃ extra : List Int,
    problems = (unheldCells record row).map (problemAt row) ++ extra.map Problem.unexpected ∧
      extra.Pairwise (· < ·) ∧
        ∀ number, number ∈ extra ↔ number ∈ row.numbers ∧ number ∉ record.columns.numbers
  distinct : (problems.map fun problem => problem.text record.key).Nodup
  length_eq : problems.length = (unheldCells record row).length +
    (row.numbers.filter fun number => number ∉ record.columns.numbers).length

theorem sameFinding_problemAt {row : ColumnMap (Option Bytes)} {first second : Int × Bytes}
    (same : (problemAt row first).SameFinding (problemAt row second)) : first.1 = second.1 := by
  unfold problemAt at same
  split at same <;> split at same
  · exact same
  · cases same
  · cases same
  · exact same

theorem not_sameFinding_unexpected (row : ColumnMap (Option Bytes)) (cell : Int × Bytes)
    (number : Int) : ¬(problemAt row cell).SameFinding (.unexpected number) := by
  unfold problemAt
  split <;> exact id

/-- No two problems of one comparison have one line. -/
theorem nodup_lines (record : Record) (row : ColumnMap (Option Bytes)) :
    ((compareRow record (some row)).map fun problem => problem.text record.key).Nodup := by
  rw [compareRow_eq, List.map_append, List.map_map, List.map_map, List.nodup_append]
  have cells : ((unheldCells record row).map Prod.fst).Nodup :=
    record.columns.distinct.sublist (List.filter_sublist.map _)
  refine ⟨?_, ?_, ?_⟩
  · refine List.pairwise_map.mpr ((List.pairwise_map.mp cells).imp fun different equal => ?_)
    exact different (sameFinding_problemAt (sameFinding_of_text equal).2)
  · refine List.pairwise_map.mpr ((ascending_extraColumns record.columns row).imp ?_)
    intro number other less equal
    have line : (Problem.unexpected number).text record.key =
        (Problem.unexpected other).text record.key := equal
    exact Int.ne_of_lt less (sameFinding_of_text line).2
  · rintro _ ownLine _ extraLine rfl
    obtain ⟨cell, -, isCell⟩ := List.mem_map.mp ownLine
    obtain ⟨number, -, isNumber⟩ := List.mem_map.mp extraLine
    have line : (problemAt row cell).text record.key =
        (Problem.unexpected number).text record.key := isCell.trans isNumber.symm
    exact not_sameFinding_unexpected row cell number (sameFinding_of_text line).2

theorem reports_compareRow (record : Record) (row : ColumnMap (Option Bytes)) :
    Reports record row (compareRow record (some row)) where
  listed := ⟨extraColumns record.columns row, compareRow_eq record row,
    ascending_extraColumns record.columns row, mem_extraColumns_iff record.columns row⟩
  distinct := nodup_lines record row
  length_eq := by
    rw [compareRow_eq, List.length_append, List.length_map, List.length_map, length_extraColumns]

/-- A comparison reports nothing exactly when the row has the columns of the record with its bytes.
A missing row is one problem. Otherwise every column in which row and record differ is reported
once, in order and by its kind; and the line of a problem tells the key, the kind and the
column. -/
theorem comparison_is_exact (record : Record) (actual : Option (ColumnMap (Option Bytes))) :
    (compareRow record actual = [] ↔
      ∃ row, actual = some row ∧
        ∀ number, row.find? number = (record.columns.find? number).map some) ∧
    (match actual with
      | none => compareRow record actual = [.noData]
      | some row => Reports record row (compareRow record actual)) ∧
    ∀ (problem other : Problem) (key otherKey : Int), problem.text key = other.text otherKey →
      key = otherKey ∧ problem.SameFinding other := by
  refine ⟨?_, ?_, fun _ _ _ _ equal => sameFinding_of_text equal⟩
  · cases actual with
    | none => simp [compareRow]
    | some row => simp [compareRow_eq_nil_iff]
  · cases actual with
    | none => rfl
    | some row => exact reports_compareRow record row

/-- A record of four columns. -/
def fourColumns : Record := ⟨5, ⟨[(0, [97]), (1, [98]), (2, [99]), (3, [100])], by decide⟩⟩

/-- A row that has the last of the four columns as it should be. Of the others one has other bytes,
one nothing and one is absent; two columns are not of the record. -/
def mixedRow : ColumnMap (Option Bytes) :=
  ⟨[(9, some [122]), (2, none), (0, some [97, 88]), (3, some [100]), (7, none)], by decide⟩

theorem comparison_is_exact_of_mixed_row :
    Reports fourColumns mixedRow
      [.mismatch 0 1 [97, 88], .missing 1, .missing 2, .unexpected 7, .unexpected 9] := by
  have unheld : (unheldCells fourColumns mixedRow).map (problemAt mixedRow) =
      [.mismatch 0 1 [97, 88], .missing 1, .missing 2] := by
    decide
  have extra : extraColumns fourColumns.columns mixedRow = [7, 9] := by
    have unsorted : mixedRow.numbers.filter (fun number =>
        !fourColumns.columns.numbers.contains number) = [9, 7] := by
      decide
    rw [extraColumns, unsorted]
    simp [List.mergeSort, List.MergeSort.Internal.splitInTwo]
  have known : compareRow fourColumns (some mixedRow) =
      [.mismatch 0 1 [97, 88], .missing 1, .missing 2, .unexpected 7, .unexpected 9] := by
    rw [compareRow_eq, unheld, extra]
    rfl
  rw [← known]
  exact (comparison_is_exact fourColumns (some mixedRow)).2.1

end LoadVerifier
