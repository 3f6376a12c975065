/-
This file holds maps from column numbers to values, in the order in which the columns were first
set. Setting a column again keeps its place. No column occurs twice; the proof is part of the map.
-/

namespace LoadVerifier

/-- The content of a cell. -/
abbrev Bytes := List UInt8

/-- A map from column numbers to values, in order of first insertion. -/
structure ColumnMap (Value : Type) where
  cells : List (Int × Value)
  distinct : (cells.map Prod.fst).Nodup
  deriving DecidableEq

/-- The columns of a row. -/
abbrev Columns := ColumnMap Bytes

namespace ColumnMap

variable {Value Other : Type}

/-- No columns. -/
def empty : ColumnMap Value := ⟨[], List.nodup_nil⟩

instance : Inhabited (ColumnMap Value) := ⟨empty⟩

/-- The column numbers in order. -/
def numbers (columns : ColumnMap Value) : List Int := columns.cells.map Prod.fst

/-- The number of columns. -/
def size (columns : ColumnMap Value) : Nat := columns.cells.length

/-- The value of a column. -/
def find? (columns : ColumnMap Value) (number : Int) : Option Value :=
  (columns.cells.find? fun cell => cell.1 == number).map Prod.snd

/-- Sets the value of a column in a list of cells. -/
def setCell (number : Int) (value : Value) : List (Int × Value) → List (Int × Value)
  | [] => [(number, value)]
  | cell :: rest =>
    if cell.1 = number then (number, value) :: rest else cell :: setCell number value rest

theorem mem_setCell_fst (number other : Int) (value : Value) (cells : List (Int × Value)) :
    other ∈ (setCell number value cells).map Prod.fst ↔
      other = number ∨ other ∈ cells.map Prod.fst := by
  induction cells with
  | nil => simp [setCell]
  | cons cell rest inductionHypothesis =>
    rw [setCell]
    split
    · rename_i equal
      simp [equal]
    · simp only [List.map_cons, List.mem_cons, inductionHypothesis]
      exact or_left_comm

theorem nodup_setCell (number : Int) (value : Value) (cells : List (Int × Value))
    (distinct : (cells.map Prod.fst).Nodup) :
    ((setCell number value cells).map Prod.fst).Nodup := by
  induction cells with
  | nil => simp [setCell]
  | cons cell rest inductionHypothesis =>
    rw [List.map_cons, List.nodup_cons] at distinct
    rw [setCell]
    split
    · rename_i equal
      rw [List.map_cons, List.nodup_cons]
      exact ⟨equal ▸ distinct.1, distinct.2⟩
    · rename_i different
      rw [List.map_cons, List.nodup_cons]
      refine ⟨fun member => ?_, inductionHypothesis distinct.2⟩
      rcases (mem_setCell_fst number cell.1 value rest).mp member with equal | member
      · exact different equal
      · exact distinct.1 member

/-- Sets the value of a column. -/
def insert (columns : ColumnMap Value) (number : Int) (value : Value) : ColumnMap Value :=
  ⟨setCell number value columns.cells, nodup_setCell number value _ columns.distinct⟩

/-- Sets the columns of a list one after another. -/
def insertCells (columns : ColumnMap Value) (cells : List (Int × Value)) : ColumnMap Value :=
  cells.foldl (fun columns cell => columns.insert cell.1 cell.2) columns

/-- Sets all columns of another map. -/
def insertAll (columns other : ColumnMap Value) : ColumnMap Value :=
  columns.insertCells other.cells

/-- The map of a list of cells; the later of two cells of one column wins. -/
def ofCells (cells : List (Int × Value)) : ColumnMap Value := empty.insertCells cells

/-- The map with one column. -/
def single (number : Int) (value : Value) : ColumnMap Value :=
  ⟨[(number, value)], by simp⟩

/-- Removes a column. -/
def erase (columns : ColumnMap Value) (number : Int) : ColumnMap Value :=
  ⟨columns.cells.filter fun cell => cell.1 ≠ number,
    columns.distinct.sublist (List.filter_sublist.map _)⟩

/-- Changes every value. -/
def mapValues (change : Value → Other) (columns : ColumnMap Value) : ColumnMap Other :=
  ⟨columns.cells.map fun cell => (cell.1, change cell.2), by
    rw [List.map_map]
    exact columns.distinct⟩

/-- The cells in ascending order of their columns. -/
def sorted (columns : ColumnMap Value) : List (Int × Value) :=
  columns.cells.mergeSort fun first second => first.1 ≤ second.1

theorem find?_insert (columns : ColumnMap Value) (number other : Int) (value : Value) :
    (columns.insert number value).find? other =
      if number = other then some value else columns.find? other := by
  obtain ⟨cells, distinct⟩ := columns
  simp only [find?, insert]
  clear distinct
  induction cells with
  | nil =>
    by_cases equal : number = other <;> simp [setCell, equal]
  | cons cell rest inductionHypothesis =>
    rw [setCell]
    split
    · rename_i same
      by_cases equal : number = other
      · simp [equal]
      · have differs : cell.1 ≠ other := same ▸ equal
        simp [equal, differs]
    · rename_i different
      by_cases equal : cell.1 = other
      · have differs : number ≠ other := fun same => different (equal.trans same.symm)
        simp [equal, differs]
      · simpa [equal] using inductionHypothesis

end ColumnMap

end LoadVerifier
