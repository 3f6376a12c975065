/-
This file says what a call of a store with sessions can come to, whatever the database refuses: the
connection, the statements that prepare it, the beginning or the end of a transaction, a statement
of the call, or the rollback after it.

A refusal anywhere is a failure of the call, and the failure names the key of the call; no call
breaks. A write is done exactly when the transaction that stores its cells was committed.
-/
import LoadVerifier.Proofs.SmoothWriter
import LoadVerifier.Store.Session

namespace LoadVerifier

/-- How a store call for a key may end: it is done, or it fails and the failure names the key. -/
def CallResult.Expected {Value : Type} (key : Int) : CallResult Value → Prop
  | .done _ => True
  | .failed failure => failure.key = key
  | .crashed _ => False

/-- Changes the value of a call that is done. -/
def CallResult.map {Value Other : Type} (change : Value → Other) :
    CallResult Value → CallResult Other
  | .done value => .done (change value)
  | .failed failure => .failed failure
  | .crashed crash => .crashed crash

/-- A call of a store: columns are written to the row of a key, or the row is read. -/
inductive RowCall
  | write (key : Int) (columns : Columns)
  | read (key : Int)

/-- What a call gives, and the store after it. A write gives no row. -/
def RowCall.perform {Storage : Type} [Store Storage] (store : Storage) (caller : Caller) :
    RowCall → CallResult (Option Columns) × Storage
  | .write key columns =>
    let (result, next) := Store.write store caller key columns
    (result.map fun _ => none, next)
  | .read key => Store.read store caller key

theorem CallResult.Expected.ne_crashed {Value : Type} {key : Int} {result : CallResult Value}
    (expected : result.Expected key) (crash : Crash) : result ≠ .crashed crash := by
  rintro rfl
  exact expected

namespace SessionStore

variable {Server : Type} [Database Server]

theorem write_eq (store : SessionStore Server) (caller : Caller) (key : Int) (columns : Columns) :
    Store.write store caller key columns =
      (callResult "write" key (store.writeRow caller key columns).1,
        (store.writeRow caller key columns).2) :=
  rfl

theorem read_eq (store : SessionStore Server) (caller : Caller) (key : Int) :
    Store.read store caller key =
      (callResult "read" key (store.readRow caller key).1, (store.readRow caller key).2) :=
  rfl

/-- A transaction gives no failure exactly when it was begun, took all cells and was committed. -/
theorem inTransaction_eq_ok_iff (server after : Server) (connection : Nat) (statement : Statement)
    (rows : List CellRow) :
    inTransaction server connection statement rows = (.ok (), after) ↔
      ∃ begun stored, Database.begin server connection = (.ok (), begun) ∧
        Database.executeMany begun connection statement rows = (.ok (), stored) ∧
          Database.commit stored connection = (.ok (), after) := by
  unfold inTransaction
  constructor
  · intro done
    split at done
    · cases done
    · rename_i begun begins
      split at done
      · rename_i stored stores
        exact ⟨begun, stored, begins, stores, done⟩
      · split at done <;> cases done
  · rintro ⟨begun, stored, begins, stores, commits⟩
    rw [begins]
    dsimp only
    rw [stores]
    exact commits

/-- Rows of parameters hold the cells of a key: each is a row of the key, and their columns with
their values are the cells, in their order. -/
structure HoldCells (key : Int) (columns : Columns) (rows : List CellRow) : Prop where
  key_eq : ∀ row ∈ rows, row.key = key
  cells_eq : rows.map (fun row => (row.column, row.value)) = columns.cells

theorem holdCells_iff (key : Int) (columns : Columns) (rows : List CellRow) :
    HoldCells key columns rows ↔ rows = cellRows key columns := by
  rw [cellRows]
  constructor
  · rintro ⟨ofKey, cells⟩
    rw [← cells, List.map_map]
    refine (List.map_id rows).symm.trans (List.map_congr_left fun row member => ?_)
    obtain rfl := ofKey row member
    rfl
  · rintro rfl
    refine ⟨?_, ?_⟩
    · rintro row member
      obtain ⟨cell, -, rfl⟩ := List.mem_map.mp member
      rfl
    · rw [List.map_map]
      exact List.map_id' columns.cells

/-- A write is committed: its caller has a connection, and on it a transaction was begun, took rows
that hold the cells of the key, and ended without a refusal. -/
def Commits (store next : SessionStore Server) (caller : Caller) (key : Int) (columns : Columns) :
    Prop :=
  ∃ connection connected rows begun stored committed,
    store.connection caller = (.ok connection, connected) ∧
      HoldCells key columns rows ∧
      Database.begin connected.server connection = (.ok (), begun) ∧
      Database.executeMany begun connection connected.table.insertStatement rows =
        (.ok (), stored) ∧
      Database.commit stored connection = (.ok (), committed) ∧
        next = { connected with server := committed }

theorem writeRow_eq_ok_iff (store next : SessionStore Server) (caller : Caller) (key : Int)
    (columns : Columns) :
    store.writeRow caller key columns = (.ok (), next) ↔
      store.Commits next caller key columns := by
  unfold writeRow
  constructor
  · intro done
    split at done
    · cases done
    · rename_i connection connected connects
      obtain ⟨transacted, rfl⟩ := Prod.mk.inj done
      have went : inTransaction connected.server connection connected.table.insertStatement
          (cellRows key columns) = (.ok (), (inTransaction connected.server connection
            connected.table.insertStatement (cellRows key columns)).2) :=
        Prod.ext transacted rfl
      obtain ⟨begun, stored, begins, stores, commits⟩ :=
        (inTransaction_eq_ok_iff _ _ _ _ _).mp went
      exact ⟨connection, connected, _, begun, stored, _, connects, (holdCells_iff _ _ _).mpr rfl,
        begins, stores, commits, rfl⟩
  · rintro ⟨connection, connected, rows, begun, stored, committed, connects, holds, begins, stores,
      commits, rfl⟩
    obtain rfl := (holdCells_iff _ _ _).mp holds
    have went := (inTransaction_eq_ok_iff _ _ _ _ _).mpr ⟨begun, stored, begins, stores, commits⟩
    simp only [connects, went]

/-- A write is done exactly when it is committed. -/
theorem write_eq_done_iff (store next : SessionStore Server) (caller : Caller) (key : Int)
    (columns : Columns) :
    Store.write store caller key columns = (.done (), next) ↔
      store.Commits next caller key columns := by
  rw [← writeRow_eq_ok_iff, write_eq]
  cases store.writeRow caller key columns with
  | mk result after => cases result <;> simp [callResult]

theorem callResult_expected {Value : Type} (what : String) (key : Int)
    (result : Except DatabaseFailure Value) : (callResult what key result).Expected key := by
  cases result with
  | error failure => exact rfl
  | ok value => trivial

theorem write_expected (store : SessionStore Server) (caller : Caller) (key : Int)
    (columns : Columns) : (Store.write store caller key columns).1.Expected key :=
  callResult_expected "write" key _

theorem read_expected (store : SessionStore Server) (caller : Caller) (key : Int) :
    (Store.read store caller key).1.Expected key :=
  callResult_expected "read" key _

/-- Whatever the database refuses, no call breaks. -/
theorem unbreakable : Unbreakable (SessionStore Server) fun _ => True where
  write store caller key columns _ :=
    ⟨trivial, (write_expected store caller key columns).ne_crashed⟩
  read store caller key _ := ⟨trivial, (read_expected store caller key).ne_crashed⟩

end SessionStore

end LoadVerifier
