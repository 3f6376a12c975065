/-
This file says what a full read pass over rows that do not change has to find.

While the rows do not change, a read of a key always gives the same: a refusal, no row, or a row
with the same content. So every key of a range is good or bad before the pass starts, and if every
row is compared its fate is known too. A pass compares every row at a percentage of one hundred,
because no draw gives more than ninety-nine.
-/
import LoadVerifier.Proofs.Draws
import LoadVerifier.Proofs.ReaderAccounts
import LoadVerifier.Proofs.ReaderSample

namespace LoadVerifier

open LoadVerifier.Random

/-! ### Comparing every row -/

/-- At one hundred percent every row is compared. -/
theorem decision_hundred (stream : Stream) : decision 100 stream = true := by
  have drawn := upTo_le stream 99
  rw [decision, decide_eq_true_eq]
  omega

/-! ### Rows that do not change -/

/-- What a store gives for each key: nothing when the read is refused, and otherwise the row, if
there is one. -/
abbrev Snapshot := Int → Option (Option Columns)

/-- A read ended as the snapshot says, up to the order of the columns. -/
def AnswersAs (shown : Option (Option Columns)) : CallResult (Option Columns) → Prop
  | .done row => ∃ expected, shown = some expected ∧
      row.map ColumnMap.find? = expected.map ColumnMap.find?
  | .failed _ => shown = none
  | .crashed _ => False

/-- A store shows the same rows at every read, in the states that count as regular and stay so. -/
def Shows (Storage : Type) [Store Storage] (snapshot : Snapshot) (regular : Storage → Prop) :
    Prop :=
  ∀ store caller key, regular store →
    regular (Store.read store caller key).2 ∧
      AnswersAs (snapshot key) (Store.read store caller key).1

/-- The store in memory shows its rows. -/
theorem memoryStore_shows (store : MemoryStore) :
    Shows MemoryStore (fun key => some (store.row? key)) fun other => other = store := by
  rintro other caller key rfl
  exact ⟨rfl, other.row? key, rfl, rfl⟩

/-- The store with faults that break no call shows its rows, but for those it refuses to read. -/
theorem faultyStore_shows (memory : MemoryStore) (faults : Faults) (unbroken : faults.broken = []) :
    Shows FaultyStore
      (fun key => if faults.failingReads.contains key then none else some (memory.row? key))
      fun store => store.memory = memory ∧ store.faults = faults := by
  rintro store caller key ⟨rfl, rfl⟩
  have read : Store.read store caller key =
      if store.faults.broken.contains key then
        (.crashed (FaultyStore.breakage key), store.note ⟨key, none⟩)
      else if store.faults.failingReads.contains key then
        (.failed ⟨"injected read failure", key⟩, store.note ⟨key, none⟩)
      else (.done (store.memory.row? key), store.note ⟨key, none⟩) := rfl
  rw [unbroken, List.contains_nil, if_neg Bool.false_ne_true] at read
  cases refused : store.faults.failingReads.contains key with
  | true =>
    rw [refused, if_pos rfl] at read
    rw [read]
    exact ⟨⟨rfl, rfl⟩, if_pos refused⟩
  | false =>
    rw [refused, if_neg Bool.false_ne_true] at read
    rw [read]
    exact ⟨⟨rfl, rfl⟩, _, if_neg (Bool.eq_false_iff.mp refused), rfl⟩

/-! ### Good and bad keys -/

namespace ReadPlan

/-- A key is bad when its read is refused, when it has no row, or when its row is not that of its
record. -/
def Bad (plan : ReadPlan) (snapshot : Snapshot) (key : Int) : Prop :=
  snapshot key = none ∨ snapshot key = some none ∨
    ∃ columns record, snapshot key = some (some columns) ∧
      generate key plan.bounds = .ok record ∧ columns.find? ≠ record.columns.find?

/-- What becomes of a key when its row is compared. -/
def fateOf (plan : ReadPlan) (snapshot : Snapshot) (key : Int) : Fate :=
  match snapshot key with
  | none => .unreadable
  | some row => fateOfRow key true row plan.bounds

/-- Every key of the range has a record. -/
def Generates (plan : ReadPlan) : Prop :=
  ∀ key, plan.range.start ≤ key → key < plan.range.limit →
    ∃ record, generate key plan.bounds = .ok record

theorem bad_iff (plan : ReadPlan) (snapshot : Snapshot) (key : Int) :
    plan.Bad snapshot key ↔ (plan.fateOf snapshot key).isError = true := by
  unfold Bad fateOf
  cases snapshot key with
  | none => simp [Fate.isError]
  | some row =>
    cases row with
    | none => simp [fateOfRow, Fate.isError]
    | some columns =>
      cases generated : generate key plan.bounds with
      | error error => simp [fateOfRow, generated, Fate.isError]
      | ok record =>
        by_cases same : columns.find? = record.columns.find? <;>
          simp [fateOfRow, generated, Fate.isError, same]

instance (plan : ReadPlan) (snapshot : Snapshot) (key : Int) : Decidable (plan.Bad snapshot key) :=
  decidable_of_iff _ (plan.bad_iff snapshot key).symm

/-- The bad keys of the range, in ascending order. -/
def badKeys (plan : ReadPlan) (snapshot : Snapshot) : List Int :=
  (Int.range plan.range.start plan.range.limit).filter fun key => plan.Bad snapshot key

/-- The keys of the range whose reads are refused, in ascending order. -/
def refusedKeys (plan : ReadPlan) (snapshot : Snapshot) : List Int :=
  (Int.range plan.range.start plan.range.limit).filter fun key => snapshot key = none

end ReadPlan

/-- What becomes of a row depends on its content only. -/
theorem fateOfRow_congr (key : Int) {verify : Bool} (row other : Option Columns) (bounds : Bounds)
    (same : row.map ColumnMap.find? = other.map ColumnMap.find?) :
    fateOfRow key verify row bounds = fateOfRow key verify other bounds := by
  cases row with
  | none =>
    cases other with
    | none => rfl
    | some columns => cases same
  | some first =>
    cases other with
    | none => cases same
    | some second =>
      cases generated : generate key bounds with
      | error error => simp only [fateOfRow, generated]
      | ok record => simp only [fateOfRow, generated, Option.some.inj same]

/-- A compared row has one of three fates when its key has a record. -/
theorem fateOfRow_cases (key : Int) (row : Option Columns) (bounds : Bounds)
    (generates : ∃ record, generate key bounds = .ok record) :
    fateOfRow key true row bounds = .missing ∨ fateOfRow key true row bounds = .matched ∨
      fateOfRow key true row bounds = .mismatched := by
  obtain ⟨record, generated⟩ := generates
  cases row with
  | none => exact Or.inl rfl
  | some columns =>
    by_cases same : columns.find? = record.columns.find?
    · exact Or.inr (Or.inl (by simp [fateOfRow, generated, same]))
    · exact Or.inr (Or.inr (by simp [fateOfRow, generated, same]))

/-- A row makes no worker crash when its key has a record. -/
theorem fateOfRow_ne_ungenerated (key : Int) (verify : Bool) (row : Option Columns)
    (bounds : Bounds) (generates : ∃ record, generate key bounds = .ok record) :
    fateOfRow key verify row bounds ≠ .ungenerated := by
  cases verify with
  | false => cases row <;> exact Fate.noConfusion
  | true =>
    rcases fateOfRow_cases key row bounds generates with fate | fate | fate
    all_goals
      rw [fate]
      exact Fate.noConfusion

/-- A key of the range is refused, or its row has one of three fates. -/
theorem ReadPlan.Generates.fateOf_cases {plan : ReadPlan} (generates : plan.Generates)
    (snapshot : Snapshot) (key : Int)
    (inside : key ∈ Int.range plan.range.start plan.range.limit) :
    (snapshot key = none ∧ plan.fateOf snapshot key = .unreadable) ∨
      (snapshot key ≠ none ∧ (plan.fateOf snapshot key = .missing ∨
        plan.fateOf snapshot key = .matched ∨ plan.fateOf snapshot key = .mismatched)) := by
  obtain ⟨low, high⟩ := Int.mem_range_iff.mp inside
  unfold fateOf
  cases snapshot key with
  | none => exact Or.inl ⟨rfl, rfl⟩
  | some row =>
    exact Or.inr ⟨Option.some_ne_none row,
      fateOfRow_cases key row plan.bounds (generates key low high)⟩

end LoadVerifier
