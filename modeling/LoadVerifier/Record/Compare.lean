/-
This file compares a stored row with the record generated for its key.

The columns of the record come first, in their order: one that the row does not have is missing,
and one whose content differs is a mismatch. The columns that only the row has follow in ascending
order. A row without problems is the record's own.

A comparison may also start from columns some of which have an unknown content. Such a column can
be missing from the row; there is nothing to compare it with otherwise. When every content is known
this is the comparison with the record.
-/
import LoadVerifier.Record.Generate

namespace LoadVerifier

/-- One problem found with the row of a key. -/
inductive Problem
  | unreadable (reason : String)
  | noData
  | missing (column : Int)
  | mismatch (column : Int) (expected : Nat) (found : Bytes)
  | unexpected (column : Int)
  deriving DecidableEq

/-- The most bytes of a wrong cell that are shown. -/
def shownBytes : Nat := 24

/-- The line that reports a problem with the row of a key. -/
def Problem.text (problem : Problem) (key : Int) : String :=
  match problem with
  | .unreadable reason => s!"key {key}: read failed: {reason}"
  | .noData => s!"key {key}: no data returned"
  | .missing column => s!"key {key}: column {column} missing"
  | .mismatch column expected found =>
    let head := Text.quotedBytes (found.take shownBytes)
    s!"key {key}: column {column} mismatch (expected {expected} bytes, " ++
      s!"got {found.length} bytes, head={head})"
  | .unexpected column => s!"key {key}: unexpected column {column}"

/-- The problem with one column of the record, if there is one. A column without a value counts
as missing. -/
def compareCell (actual : ColumnMap (Option Bytes)) (cell : Int × Bytes) : Option Problem :=
  match actual.find? cell.1 with
  | none | some none => some (.missing cell.1)
  | some (some found) =>
    if found = cell.2 then none else some (.mismatch cell.1 cell.2.length found)

/-- The columns that only the row has, in ascending order. -/
def extraColumns {Value : Type} (expected : ColumnMap Value)
    (actual : ColumnMap (Option Bytes)) : List Int :=
  (actual.numbers.filter fun number => !expected.numbers.contains number).mergeSort (· ≤ ·)

/-- All problems with the row found for a record. -/
def compareRow (record : Record) (actual : Option (ColumnMap (Option Bytes))) : List Problem :=
  match actual with
  | none => [.noData]
  | some row =>
    record.columns.cells.filterMap (compareCell row) ++
      (extraColumns record.columns row).map Problem.unexpected

/-- The problem with one expected column, if there is one, where its content may be unknown. -/
def compareExpected (actual : ColumnMap (Option Bytes)) (cell : Int × Option Bytes) :
    Except Crash (Option Problem) :=
  match cell.2, actual.find? cell.1 with
  | some value, _ => .ok (compareCell actual (cell.1, value))
  | none, some (some _) => .error .unknownContent
  | none, _ => .ok (some (.missing cell.1))

/-- All problems with the row found for expected columns, where their content may be unknown. -/
def comparePartial (expected : ColumnMap (Option Bytes))
    (actual : Option (ColumnMap (Option Bytes))) : Except Crash (List Problem) := do
  match actual with
  | none => return [.noData]
  | some row =>
    let problems ← expected.cells.mapM (compareExpected row)
    return problems.filterMap id ++ (extraColumns expected row).map Problem.unexpected

theorem mapM_compareExpected (row : ColumnMap (Option Bytes)) (cells : List (Int × Bytes)) :
    (cells.map fun cell => (cell.1, some cell.2)).mapM (compareExpected row) =
      .ok (cells.map (compareCell row)) := by
  induction cells with
  | nil => rfl
  | cons cell rest inductionHypothesis =>
    rw [List.map_cons, List.mapM_cons, inductionHypothesis]
    rfl

/-- With every content known, the comparison is the one with the record. -/
theorem comparePartial_mapValues (record : Record) (actual : Option (ColumnMap (Option Bytes))) :
    comparePartial (record.columns.mapValues some) actual = .ok (compareRow record actual) := by
  cases actual with
  | none => rfl
  | some row =>
    have problems := mapM_compareExpected row record.columns.cells
    have numbers : (record.columns.mapValues some).numbers = record.columns.numbers := by
      rw [ColumnMap.numbers, ColumnMap.mapValues, List.map_map]
      rfl
    rw [comparePartial, compareRow, extraColumns, extraColumns, numbers, ColumnMap.mapValues,
      problems]
    refine congrArg Except.ok (congrArg (· ++ _) ?_)
    rw [List.filterMap_map]
    rfl

/-- All problems with a row that has a value in every column. -/
def compareColumns (record : Record) (row : Columns) : List Problem :=
  compareRow record (some (row.mapValues some))

end LoadVerifier
