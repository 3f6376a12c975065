/-
This file looks at a table as the cells it holds: what is stored under a key and a column. Rows in
memory hold cells too, and a write to a row stores the same cells as the statements of a session do.

A database keeps cells when the statements of a session do to its cells what they say: storing
replaces one cell after another, selecting gives the cells of a key in ascending order of their
columns, counting gives the number of keys that have a cell, and nothing else changes any cell. Only
what it grants matters. The database in memory is such a database.
-/
import LoadVerifier.Database.Scripted
import LoadVerifier.Proofs.RowContents
import LoadVerifier.Store.Session
import LoadVerifier.Table.Create
import Mathlib.Data.Int.Order.Basic
import Mathlib.Data.List.Nodup

namespace LoadVerifier

/-! ### Cells -/

/-- What is stored under a key and a column. -/
abbrev Cells := Int → Int → Option Bytes

/-- The cells after one of them was stored. -/
def Cells.insert (cells : Cells) (row : CellRow) : Cells := fun key column =>
  if row.key = key ∧ row.column = column then some row.value else cells key column

/-- The cells after several of them were stored one after another. -/
def Cells.insertAll (cells : Cells) (rows : List CellRow) : Cells := rows.foldl Cells.insert cells

/-- The cells that columns make under a key lie over those that were there. -/
theorem Cells.insertAll_cellRows (cells : Cells) (key : Int) (columns : Columns)
    (other column : Int) :
    cells.insertAll (SessionStore.cellRows key columns) other column =
      if key = other then (columns.find? column).or (cells other column)
      else cells other column := by
  obtain ⟨list, distinct⟩ := columns
  rw [SessionStore.cellRows, ColumnMap.find?]
  dsimp only
  induction list generalizing cells with
  | nil => simp [insertAll]
  | cons cell rest inductionHypothesis =>
    rw [List.map_cons, List.nodup_cons] at distinct
    rw [List.map_cons, insertAll, List.foldl_cons]
    refine (inductionHypothesis (cells.insert ⟨key, cell.1, cell.2⟩) distinct.2).trans ?_
    by_cases sameKey : key = other
    · by_cases same : cell.1 = column
      · rw [ColumnMap.find?_eq_none_of_not_mem rest column (same ▸ distinct.1)]
        simp [insert, sameKey, same]
      · simp [insert, sameKey, same]
    · simp [insert, sameKey]

/-! ### Rows in memory -/

namespace ColumnMap

variable {Value : Type}

theorem mem_cells_iff (columns : ColumnMap Value) (number : Int) (value : Value) :
    (number, value) ∈ columns.cells ↔ columns.find? number = some value :=
  ⟨columns.find?_eq_some_of_mem (number, value), columns.mem_of_find?_eq_some number value⟩

/-- Maps with the same content differ at most in the order of their columns. -/
theorem perm_of_find?_eq {columns other : ColumnMap Value} (same : columns.find? = other.find?) :
    columns.cells.Perm other.cells := by
  rw [List.perm_ext_iff_of_nodup (List.Nodup.of_map _ columns.distinct)
    (List.Nodup.of_map _ other.distinct)]
  rintro ⟨number, value⟩
  rw [mem_cells_iff, mem_cells_iff, same]

theorem find?_ofCells (cells : List (Int × Value)) (distinct : (cells.map Prod.fst).Nodup) :
    (ofCells cells).find? = (⟨cells, distinct⟩ : ColumnMap Value).find? := by
  funext number
  rw [ofCells, find?_insertCells _ _ distinct]
  exact Option.or_none

end ColumnMap

namespace MemoryStore

/-- The cells of all rows. -/
def cells (memory : MemoryStore) : Cells := fun key column =>
  (memory.row? key).bind fun row => row.find? column

/-- No row is without columns. -/
def Filled (memory : MemoryStore) : Prop :=
  ∀ key row, memory.row? key = some row → row.cells ≠ []

theorem row?_empty (key : Int) : ({} : MemoryStore).row? key = none :=
  Std.TreeMap.getElem?_emptyc

theorem cells_empty : ({} : MemoryStore).cells = fun _ _ => none := by
  funext key column
  rw [cells, row?_empty, Option.bind_none]

theorem filled_empty : ({} : MemoryStore).Filled := by
  intro key row found
  rw [row?_empty] at found
  cases found

theorem row?_merge (memory : MemoryStore) (key other : Int) (columns : Columns) :
    (memory.merge key columns).row? other =
      if key = other then some (((memory.row? key).getD .empty).insertAll columns)
      else memory.row? other := by
  rw [row?, merge, Std.TreeMap.getElem?_insert]
  by_cases same : key = other <;> simp [same, row?]

/-- A write to a row stores the cells that its columns make. -/
theorem cells_merge (memory : MemoryStore) (key : Int) (columns : Columns) :
    (memory.merge key columns).cells =
      memory.cells.insertAll (SessionStore.cellRows key columns) := by
  funext other column
  rw [Cells.insertAll_cellRows, cells, row?_merge]
  by_cases same : key = other
  · subst same
    rw [if_pos rfl, if_pos rfl, Option.bind_some, ColumnMap.find?_insertAll, cells]
    cases memory.row? key <;> rfl
  · rw [if_neg same, if_neg same, cells]

theorem Filled.merge {memory : MemoryStore} (filled : memory.Filled) (key : Int)
    (columns : Columns) (some_cell : columns.cells ≠ []) : (memory.merge key columns).Filled := by
  intro other row found
  rw [row?_merge] at found
  split at found
  · cases found
    obtain ⟨cell, member⟩ := List.exists_mem_of_ne_nil _ some_cell
    refine List.ne_nil_of_mem (a := cell) ((ColumnMap.mem_cells_iff _ _ _).mpr ?_)
    rw [ColumnMap.find?_insertAll, columns.find?_eq_some_of_mem cell member]
    rfl
  · exact filled other row found

/-- A key has a row exactly when it has a cell. -/
theorem Filled.isSome_row?_iff {memory : MemoryStore} (filled : memory.Filled) (key : Int) :
    (memory.row? key).isSome ↔ ∃ column, (memory.cells key column).isSome := by
  constructor
  · intro known
    obtain ⟨row, found⟩ := Option.isSome_iff_exists.mp known
    obtain ⟨cell, member⟩ := List.exists_mem_of_ne_nil _ (filled key row found)
    refine ⟨cell.1, ?_⟩
    rw [cells, found, Option.bind_some, row.find?_eq_some_of_mem cell member]
    rfl
  · rintro ⟨column, known⟩
    rw [cells] at known
    cases found : memory.row? key with
    | some row => rfl
    | none =>
      rw [found] at known
      exact absurd known (by simp)

/-- The keys of a store in memory, each of them once. -/
theorem nodup_keys (memory : MemoryStore) : memory.keys.Nodup :=
  Std.TreeMap.nodup_keys

theorem mem_keys_iff (memory : MemoryStore) (key : Int) :
    key ∈ memory.keys ↔ (memory.row? key).isSome := by
  rw [keys, Std.TreeMap.mem_keys, row?, Std.TreeMap.mem_iff_isSome_getElem?]

end MemoryStore

/-! ### Databases that keep cells -/

/-- The cells of one key in ascending order of their columns, each of them once. -/
structure Cells.Lists (cells : Cells) (key : Int) (list : List (Int × Bytes)) : Prop where
  ascending : (list.map Prod.fst).Pairwise (· < ·)
  mem_iff : ∀ column value, (column, value) ∈ list ↔ cells key column = some value

/-- The number of keys that have a cell. -/
def Cells.Counts (cells : Cells) (count : Nat) : Prop :=
  ∃ keys : List Int, keys.Nodup ∧ keys.length = count ∧
    ∀ key, key ∈ keys ↔ ∃ column, (cells key column).isSome

/-- A database keeps the cells of a table. Whatever it grants does to the cells that it holds what
the statements of a session say, and nothing else. -/
structure KeepsCells (Server : Type) [Database Server] (table : Table)
    (holds : Server → Cells → Prop) : Prop where
  connect : ∀ server after dsn connection cells, holds server cells →
    Database.connect server dsn true = (.ok connection, after) → holds after cells
  prepare : ∀ server after connection statement reply cells, holds server cells →
    statement = quietStatement ∨ statement = asynchronousStatement →
      Database.execute server connection statement [] = (.ok reply, after) → holds after cells
  begin : ∀ server after connection cells, holds server cells →
    Database.begin server connection = (.ok (), after) → holds after cells
  insert : ∀ server after connection rows cells, holds server cells →
    Database.executeMany server connection table.insertStatement rows = (.ok (), after) →
      holds after (cells.insertAll rows)
  commit : ∀ server after connection cells, holds server cells →
    Database.commit server connection = (.ok (), after) → holds after cells
  select : ∀ server after connection key reply cells, holds server cells →
    Database.execute server connection table.selectStatement [key] = (.ok reply, after) →
      holds after cells ∧ ∃ list, reply = .cells list ∧ cells.Lists key list
  count : ∀ server after connection reply cells, holds server cells →
    Database.execute server connection table.countStatement [] = (.ok reply, after) →
      ∃ count, reply = .count count ∧ cells.Counts count

/-! ### The database in memory -/

namespace ScriptedDatabase

/-- The database holds these cells, and no row without a cell. -/
def HoldsCells (database : ScriptedDatabase) (cells : Cells) : Prop :=
  database.rows.Filled ∧ database.rows.cells = cells

/-- What is granted was carried out, with the rows that were there. -/
theorem carriedOut_of_submit {Value : Type} {database after : ScriptedDatabase} {value : Value}
    (request : Request) (carryOut : ScriptedDatabase → Value × ScriptedDatabase)
    (granted : database.submit request carryOut = (.ok value, after)) :
    ∃ noted : ScriptedDatabase, noted.rows = database.rows ∧ carryOut noted = (value, after) := by
  rw [submit] at granted
  split at granted
  · cases granted
  · rename_i noted unhindered
    cases granted
    exact ⟨noted, congrArg (fun noting => noting.2.rows) unhindered.symm, rfl⟩

theorem rows_eq_of_submitUnbroken {Value : Type} {database after : ScriptedDatabase} {value : Value}
    (request : Request) (carryOut : ScriptedDatabase → Value × ScriptedDatabase)
    (keeps : ∀ noted, (carryOut noted).2.rows = noted.rows)
    (granted : database.submitUnbroken request carryOut = (.ok value, after)) :
    after.rows = database.rows := by
  rw [submitUnbroken] at granted
  split at granted
  · cases granted
  · rename_i noted unhindered
    cases granted
    rw [keeps]
    exact congrArg (fun noting => noting.2.rows) unhindered.symm

theorem text_selectStatement (table : Table) :
    ∃ rest, table.selectStatement.text.toList = "SELECT col, value FROM ".toList ++ rest := by
  rw [Statement.text, String.toList_ofList]
  exact ⟨_, rfl⟩

theorem text_countStatement (table : Table) :
    ∃ rest, table.countStatement.text.toList =
      "SELECT count(DISTINCT key) FROM ".toList ++ rest := by
  rw [Statement.text, String.toList_ofList]
  exact ⟨_, rfl⟩

theorem run_selectStatement (table : Table) (key : Int) (database : ScriptedDatabase) :
    run table.selectStatement.text [key] database =
      (.cells (((database.rows.row? key).map ColumnMap.sorted).getD []), database) := by
  obtain ⟨rest, text⟩ := text_selectStatement table
  have selects : startsWith "SELECT col" table.selectStatement.text = true := by
    rw [startsWith, text]
    rfl
  rw [run, if_pos selects]
  rfl

theorem run_countStatement (table : Table) (database : ScriptedDatabase) :
    run table.countStatement.text [] database = (.count database.rows.size, database) := by
  obtain ⟨rest, text⟩ := text_countStatement table
  have selects : startsWith "SELECT col" table.countStatement.text = false := by
    rw [startsWith, text]
    rfl
  have counts : startsWith "SELECT count(" table.countStatement.text = true := by
    rw [startsWith, text]
    rfl
  rw [run, selects, if_neg Bool.false_ne_true, if_pos counts]

/-- The statements that prepare a connection change nothing. -/
theorem run_of_prepares (statement : Statement)
    (prepares : statement = quietStatement ∨ statement = asynchronousStatement)
    (database : ScriptedDatabase) : run statement.text [] database = (.done, database) := by
  rcases prepares with rfl | rfl
  · rw [run, if_neg (by decide +kernel), if_neg (by decide +kernel), if_neg (by decide +kernel)]
  · rw [run, if_neg (by decide +kernel), if_neg (by decide +kernel), if_neg (by decide +kernel)]

/-- Stored cells are stored one after another. -/
theorem holdsCells_storeCells {database : ScriptedDatabase} {cells : Cells}
    (holds : database.HoldsCells cells) (rows : List CellRow) :
    (storeCells rows database).HoldsCells (cells.insertAll rows) := by
  obtain ⟨filled, rfl⟩ := holds
  rw [HoldsCells, storeCells]
  dsimp only
  generalize database.rows = memory at filled ⊢
  induction rows generalizing memory with
  | nil => exact ⟨filled, rfl⟩
  | cons row rest inductionHypothesis =>
    have stored : (memory.setCell row.key row.column row.value).cells = memory.cells.insert row :=
      memory.cells_merge row.key (.single row.column row.value)
    rw [List.foldl_cons, Cells.insertAll, List.foldl_cons, ← stored]
    exact inductionHypothesis _ (filled.merge row.key _ (List.cons_ne_nil _ _))

/-- The sorted columns of a row list the cells of its key. -/
theorem lists_sorted (memory : MemoryStore) (key : Int) :
    memory.cells.Lists key (((memory.row? key).map ColumnMap.sorted).getD []) := by
  cases found : memory.row? key with
  | none =>
    refine ⟨List.Pairwise.nil, fun column value => ?_⟩
    simp [MemoryStore.cells, found]
  | some row =>
    have perm : row.sorted.Perm row.cells := List.mergeSort_perm _ _
    have distinct : (row.sorted.map Prod.fst).Nodup :=
      (perm.map Prod.fst).nodup_iff.mpr row.distinct
    have ordered : (row.sorted.map Prod.fst).Pairwise (· ≤ ·) := by
      refine List.pairwise_map.mpr ((List.pairwise_mergeSort ?_ ?_ row.cells).imp fun le => ?_)
      · exact fun first second third less further =>
          decide_eq_true (le_trans (of_decide_eq_true less) (of_decide_eq_true further))
      · exact fun first second => by simpa using le_total first.1 second.1
      · exact of_decide_eq_true le
    refine ⟨(ordered.and distinct).imp fun both => lt_of_le_of_ne both.1 both.2,
      fun column value => ?_⟩
    rw [Option.map_some, Option.getD_some, perm.mem_iff, row.mem_cells_iff, MemoryStore.cells,
      found, Option.bind_some]

/-- The number of rows counts the keys that have a cell. -/
theorem counts_size (memory : MemoryStore) (filled : memory.Filled) :
    memory.cells.Counts memory.size :=
  ⟨memory.keys, memory.nodup_keys, Std.TreeMap.length_keys, fun key => by
    rw [memory.mem_keys_iff, filled.isSome_row?_iff]⟩

/-- The database in memory keeps cells. -/
theorem keepsCells (table : Table) : KeepsCells ScriptedDatabase table HoldsCells where
  connect database after dsn connection cells holds granted := by
    have same := rows_eq_of_submitUnbroken _ _ (fun _ => rfl) granted
    rwa [HoldsCells, same]
  prepare database after connection statement reply cells holds prepares granted := by
    obtain ⟨noted, same, carried⟩ := carriedOut_of_submit _ _ granted
    rw [run_of_prepares statement prepares] at carried
    cases carried
    rwa [HoldsCells, same]
  begin database after connection cells holds granted := by
    obtain ⟨noted, same, carried⟩ := carriedOut_of_submit _ _ granted
    cases carried
    rwa [HoldsCells, same]
  insert database after connection rows cells holds granted := by
    obtain ⟨noted, same, carried⟩ := carriedOut_of_submit _ _ granted
    cases carried
    refine holdsCells_storeCells ?_ rows
    rwa [HoldsCells, same]
  commit database after connection cells holds granted := by
    obtain ⟨noted, same, carried⟩ := carriedOut_of_submit _ _ granted
    cases carried
    rwa [HoldsCells, same]
  select database after connection key reply cells holds granted := by
    obtain ⟨noted, same, carried⟩ := carriedOut_of_submit _ _ granted
    rw [run_selectStatement] at carried
    cases carried
    obtain ⟨filled, rfl⟩ := holds
    rw [HoldsCells, same]
    exact ⟨⟨filled, rfl⟩, _, rfl, lists_sorted _ key⟩
  count database after connection reply cells holds granted := by
    obtain ⟨noted, same, carried⟩ := carriedOut_of_submit _ _ granted
    rw [run_countStatement] at carried
    cases carried
    obtain ⟨filled, rfl⟩ := holds
    rw [same]
    exact ⟨_, rfl, counts_size _ filled⟩

end ScriptedDatabase

end LoadVerifier
