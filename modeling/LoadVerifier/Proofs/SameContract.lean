/-
This file compares the store in memory with a store of sessions on a database that keeps cells. Both
start without rows and get the same calls in the same order, whoever makes them. As long as no call
of the store of sessions fails, both give the same answers, up to the order of the columns in a row,
and in the end the table holds as many keys as there are rows in memory.

What the two have in common at any time is that the table holds the cells of the rows in memory.
-/
import LoadVerifier.Proofs.SessionCalls
import LoadVerifier.Proofs.TableCells

namespace LoadVerifier

/-! ### Calls in a row -/

/-- What calls give one after another, and the store after them. -/
def performAll {Storage : Type} [Store Storage] :
    Storage → List (Caller × RowCall) → List (CallResult (Option Columns)) × Storage
  | store, [] => ([], store)
  | store, (caller, call) :: rest =>
    let (result, next) := call.perform store caller
    let (results, last) := performAll next rest
    (result :: results, last)

/-- A call that writes no empty set of columns. -/
def RowCall.Proper : RowCall → Prop
  | .write _ columns => columns.cells ≠ []
  | .read _ => True

instance (call : RowCall) : Decidable call.Proper := by
  cases call <;> unfold RowCall.Proper <;> infer_instance

/-- Whether a call is done. -/
def CallResult.isDone {Value : Type} : CallResult Value → Bool
  | .done _ => true
  | .failed _ | .crashed _ => false

/-- Two calls are done, with the same row up to the order of its columns, or both without a row. -/
inductive SameAnswer : CallResult (Option Columns) → CallResult (Option Columns) → Prop
  | noRow : SameAnswer (.done none) (.done none)
  | row (first second : Columns) (perm : first.cells.Perm second.cells) :
    SameAnswer (.done (some first)) (.done (some second))

/-- The columns that the cells of a key make are those of its row in memory. -/
theorem sameAnswer_rowOf {memory : MemoryStore} (filled : memory.Filled) (key : Int)
    (list : List (Int × Bytes)) (lists : memory.cells.Lists key list) :
    SameAnswer (.done (memory.row? key)) (.done (SessionStore.rowOf (.cells list))) := by
  have distinct : (list.map Prod.fst).Nodup := lists.ascending.imp ne_of_lt
  cases found : memory.row? key with
  | none =>
    have empty : list = [] := by
      refine List.eq_nil_iff_forall_not_mem.mpr fun cell member => ?_
      have stored := (lists.mem_iff cell.1 cell.2).mp member
      rw [MemoryStore.cells, found] at stored
      cases stored
    rw [empty]
    exact .noRow
  | some row =>
    have same : row.find? = (ColumnMap.mk list distinct).find? := by
      funext column
      refine Option.ext fun value => ?_
      rw [← ColumnMap.mem_cells_iff ⟨list, distinct⟩, lists.mem_iff, MemoryStore.cells, found,
        Option.bind_some]
    have perm :=
      ColumnMap.perm_of_find?_eq (same.trans (ColumnMap.find?_ofCells list distinct).symm)
    cases list with
    | nil =>
      exact absurd (List.perm_nil.mp (ColumnMap.perm_of_find?_eq same)) (filled key row found)
    | cons cell rest => exact .row _ _ perm

/-! ### One call -/

namespace SessionStore

variable {Server : Type} [Database Server] {holds : Server → Cells → Prop}
  {store next : SessionStore Server}

/-- A prepared connection holds the cells that were there before. -/
theorem holds_of_prepare (keeps : KeepsCells Server store.table holds) (server after : Server)
    (connection : Nat) (synchronousCommit : Bool) (cells : Cells) (holding : holds server cells)
    (prepared : prepare server connection synchronousCommit = (.ok (), after)) :
    holds after cells := by
  rw [prepare] at prepared
  split at prepared
  · cases prepared
  · rename_i reply quieted quiet
    have kept := keeps.prepare _ _ _ _ _ _ holding (.inl rfl) quiet
    split at prepared
    · cases prepared
      exact kept
    · split at prepared
      · cases prepared
      · rename_i answer relaxed relax
        cases prepared
        exact keeps.prepare _ _ _ _ _ _ kept (.inr rfl) relax

/-- Getting a connection changes no cell. -/
theorem holds_of_connection (keeps : KeepsCells Server store.table holds) (caller : Caller)
    (connection : Nat) (cells : Cells) (holding : holds store.server cells)
    (connects : store.connection caller = (.ok connection, next)) :
    holds next.server cells ∧ next.table = store.table := by
  rw [SessionStore.connection] at connects
  split at connects
  · cases connects
    exact ⟨holding, rfl⟩
  · split at connects
    · cases connects
    · rename_i opened server opens
      have kept := keeps.connect _ _ _ _ _ holding opens
      split at connects
      · cases connects
      · rename_i after prepared
        cases connects
        exact ⟨holds_of_prepare keeps _ _ _ _ _ kept prepared, rfl⟩

/-- A write that is done stores the cells of its columns. -/
theorem holds_of_write (keeps : KeepsCells Server store.table holds) (caller : Caller) (key : Int)
    (columns : Columns) (cells : Cells) (holding : holds store.server cells)
    (done : Store.write store caller key columns = (.done (), next)) :
    holds next.server (cells.insertAll (cellRows key columns)) ∧ next.table = store.table := by
  obtain ⟨connection, connected, rows, begun, stored, committed, connects, same, begins, stores,
    commits, rfl⟩ := (write_eq_done_iff _ _ _ _ _).mp done
  obtain rfl := (holdCells_iff _ _ _).mp same
  obtain ⟨kept, sameTable⟩ := holds_of_connection keeps caller connection cells holding connects
  rw [sameTable] at stores
  have started := keeps.begin _ _ _ _ kept begins
  have changed := keeps.insert _ _ _ _ _ started stores
  exact ⟨keeps.commit _ _ _ _ changed commits, sameTable⟩

/-- A read that is done gives the cells of its key, and changes none. -/
theorem holds_of_read (keeps : KeepsCells Server store.table holds) (caller : Caller) (key : Int)
    (row : Option Columns) (cells : Cells) (holding : holds store.server cells)
    (done : Store.read store caller key = (.done row, next)) :
    holds next.server cells ∧ next.table = store.table ∧
      ∃ list, row = rowOf (.cells list) ∧ cells.Lists key list := by
  rw [read_eq, readRow] at done
  split at done
  · cases done
  · rename_i connection connected connects
    obtain ⟨kept, sameTable⟩ := holds_of_connection keeps caller connection cells holding connects
    dsimp only at done
    rw [sameTable] at done
    cases selected : Database.execute connected.server connection store.table.selectStatement
        [key] with
    | mk answer after =>
      rw [selected] at done
      cases answer with
      | error failure => cases done
      | ok reply =>
        cases done
        obtain ⟨still, list, rfl, lists⟩ := keeps.select _ _ _ _ _ _ kept selected
        exact ⟨still, rfl, list, rfl, lists⟩

end SessionStore

/-- The table of a store of sessions holds the cells of the rows in memory, of which none is
empty. -/
structure SameRows {Server : Type} (holds : Server → Cells → Prop) (memory : MemoryStore)
    (store : SessionStore Server) : Prop where
  filled : memory.Filled
  holding : holds store.server memory.cells

section Calls

variable {Server : Type} [Database Server] {holds : Server → Cells → Prop} {memory : MemoryStore}
  {store : SessionStore Server}

/-- A call that is done gives the same answer from both stores, and leaves the same rows. -/
theorem SameRows.perform (same : SameRows holds memory store)
    (keeps : KeepsCells Server store.table holds) (caller : Caller) (call : RowCall)
    (proper : call.Proper) (done : (call.perform store caller).1.isDone = true) :
    SameAnswer (call.perform memory caller).1 (call.perform store caller).1 ∧
      SameRows holds (call.perform memory caller).2 (call.perform store caller).2 ∧
      (call.perform store caller).2.table = store.table := by
  cases call with
  | write key columns =>
    cases wrote : Store.write store caller key columns with
    | mk result next =>
      have performed : (RowCall.write key columns).perform store caller =
          (result.map fun _ => none, next) := by
        rw [RowCall.perform, wrote]
      rw [performed] at done ⊢
      cases result with
      | failed failure => cases done
      | crashed crash => cases done
      | done _ =>
        obtain ⟨holding, sameTable⟩ :=
          SessionStore.holds_of_write keeps caller key columns _ same.holding wrote
        rw [← MemoryStore.cells_merge] at holding
        exact ⟨.noRow, ⟨same.filled.merge key columns proper, holding⟩, sameTable⟩
  | read key =>
    cases looked : Store.read store caller key with
    | mk result next =>
      have performed : (RowCall.read key).perform store caller = (result, next) := looked
      rw [performed] at done ⊢
      cases result with
      | failed failure => cases done
      | crashed crash => cases done
      | done row =>
        obtain ⟨holding, sameTable, list, rfl, lists⟩ :=
          SessionStore.holds_of_read keeps caller key row _ same.holding looked
        exact ⟨sameAnswer_rowOf same.filled key list lists, ⟨same.filled, holding⟩, sameTable⟩

/-- Calls that are done give the same answers from both stores, and leave the same rows. -/
theorem SameRows.performAll (same : SameRows holds memory store)
    (keeps : KeepsCells Server store.table holds) (calls : List (Caller × RowCall))
    (proper : ∀ call ∈ calls, call.2.Proper)
    (done : ∀ result ∈ (performAll store calls).1, result.isDone = true) :
    List.Forall₂ SameAnswer (LoadVerifier.performAll memory calls).1
        (LoadVerifier.performAll store calls).1 ∧
      SameRows holds (LoadVerifier.performAll memory calls).2
        (LoadVerifier.performAll store calls).2 ∧
      (LoadVerifier.performAll store calls).2.table = store.table := by
  induction calls generalizing memory store with
  | nil => exact ⟨.nil, same, rfl⟩
  | cons head rest inductionHypothesis =>
    obtain ⟨caller, call⟩ := head
    obtain ⟨properFirst, properRest⟩ := List.forall_mem_cons.mp proper
    obtain ⟨doneFirst, doneRest⟩ := List.forall_mem_cons.mp done
    obtain ⟨answer, further, sameTable⟩ := same.perform keeps caller call properFirst doneFirst
    obtain ⟨answers, last, stillTable⟩ :=
      inductionHypothesis further (sameTable ▸ keeps) properRest doneRest
    exact ⟨.cons answer answers, last, stillTable.trans sameTable⟩

/-- The number of keys that have a cell is the number of rows in memory. -/
theorem SameRows.count_eq (same : SameRows holds memory store)
    (keeps : KeepsCells Server store.table holds) (connection count : Nat) (after : Server)
    (counted : Table.countKeys store.server connection store.table = (.ok count, after)) :
    count = memory.size := by
  rw [Table.countKeys] at counted
  cases executed : Database.execute store.server connection store.table.countStatement [] with
  | mk answer server =>
    rw [executed] at counted
    cases answer with
    | error failure => cases counted
    | ok reply =>
      cases counted
      obtain ⟨number, rfl, keys, distinct, length, mem_iff⟩ :=
        keeps.count _ _ _ _ _ same.holding executed
      have perm : keys.Perm memory.keys := by
        rw [List.perm_ext_iff_of_nodup distinct memory.nodup_keys]
        intro key
        rw [mem_iff, memory.mem_keys_iff, same.filled.isSome_row?_iff]
      rw [Table.countOf, ← length, perm.length_eq]
      exact Std.TreeMap.length_keys

/-- Two stores without rows, one in memory and one of sessions on a database that keeps cells, get
the same calls in the same order, whoever makes them, and every write has a column. When no call of
the store of sessions fails, every call is done by both with the same answer, up to the order of the
columns in a row. And then the database counts as many keys as there are rows in memory. -/
theorem same_contract (keeps : KeepsCells Server store.table holds)
    (empty : holds store.server fun _ _ => none) (calls : List (Caller × RowCall))
    (proper : ∀ call ∈ calls, call.2.Proper)
    (done : ∀ result ∈ (performAll store calls).1, result.isDone = true) :
    List.Forall₂ SameAnswer (performAll ({} : MemoryStore) calls).1 (performAll store calls).1 ∧
      ∀ connection count after,
        Table.countKeys (performAll store calls).2.server connection store.table =
            (.ok count, after) →
          count = (performAll ({} : MemoryStore) calls).2.size := by
  have start : SameRows holds {} store :=
    ⟨MemoryStore.filled_empty, MemoryStore.cells_empty ▸ empty⟩
  obtain ⟨answers, same, sameTable⟩ := start.performAll keeps calls proper done
  refine ⟨answers, fun connection count after counted => ?_⟩
  rw [← sameTable] at counted
  exact same.count_eq (sameTable.symm ▸ keeps) connection count after counted

end Calls

/-- Sessions on a database in memory that has no rows yet. -/
def onEmptyTable : SessionStore ScriptedDatabase where
  server := {}
  dsn := ""
  table := ⟨Table.defaultSchema, Table.defaultName⟩

/-- Two writers write overlapping columns of a key, and another key; a reader reads the first one
and one that was never written. -/
def overlappingCalls : List (Caller × RowCall) :=
  [(⟨.writer, 0⟩, .write 5 ((ColumnMap.single 1 [1]).insert 0 [2])),
    (⟨.writer, 1⟩, .write 5 ((ColumnMap.single 0 [3]).insert 7 [4])),
    (⟨.reader, 0⟩, .read 5),
    (⟨.writer, 0⟩, .write 8 (ColumnMap.single 0 [])),
    (⟨.reader, 0⟩, .read 6)]

theorem same_contract_of_overlapping_writes :
    List.Forall₂ SameAnswer (performAll ({} : MemoryStore) overlappingCalls).1
        (performAll onEmptyTable overlappingCalls).1 ∧
      (performAll ({} : MemoryStore) overlappingCalls).2.size = 2 := by
  have empty : onEmptyTable.server.HoldsCells fun _ _ => none :=
    ⟨MemoryStore.filled_empty, MemoryStore.cells_empty⟩
  have known : (performAll onEmptyTable overlappingCalls).1.all CallResult.isDone = true ∧
      (Table.countKeys (performAll onEmptyTable overlappingCalls).2.server 1
        onEmptyTable.table).1.toOption = some 2 := by
    decide +kernel
  obtain ⟨done, counted⟩ := known
  obtain ⟨answers, counts⟩ := same_contract (ScriptedDatabase.keepsCells onEmptyTable.table) empty
    overlappingCalls (by decide) (List.all_eq_true.mp done)
  cases result : Table.countKeys (performAll onEmptyTable overlappingCalls).2.server 1
      onEmptyTable.table with
  | mk answer after =>
    rw [result] at counted
    cases answer with
    | error failure => cases counted
    | ok count =>
      cases counted
      exact ⟨answers, (counts 1 2 after result).symm⟩

end LoadVerifier
