/-
This file balances the accounts of a writer. Every key that was claimed has failed, was completed,
was lost, or is held by exactly one worker, and the claimed keys are those from the start of the
range up to the cursor, each of them once.

Nothing here depends on what the store does: the accounts stay balanced whichever calls are refused
or break, whichever workers die, and whenever the writer is asked to stop. That the watermark never
goes back, never passes a failed key and never passes the cursor follows from the accounts alone.
-/
import LoadVerifier.Proofs.KeyHandout
import LoadVerifier.Proofs.RowContents
import LoadVerifier.Proofs.WriterLife
import LoadVerifier.Proofs.WrittenPrefix

namespace LoadVerifier

/-! ### Small ranges -/

/-- Whether every key of a range has a record can be computed. -/
theorem generates_of_isSome (range : KeyRange) (bounds : Bounds)
    (computed : ∀ key ∈ Int.range range.start range.limit,
      (generate key bounds).toOption.isSome) (key : Int) (low : range.start ≤ key)
    (high : key < range.limit) : ∃ record, generate key bounds = .ok record := by
  have found := computed key (Int.mem_range_iff.mpr ⟨low, high⟩)
  cases generated : generate key bounds with
  | ok record => exact ⟨record, rfl⟩
  | error error =>
    rw [generated] at found
    cases found

/-- The keys 0, 1 and 2. -/
def KeyRange.three : KeyRange := ⟨0, 3, by decide, by decide, by decide⟩

/-- The keys from 0 to 4. -/
def KeyRange.five : KeyRange := ⟨0, 5, by decide, by decide, by decide⟩

/-- The keys 1 and 2. -/
def KeyRange.oneAndTwo : KeyRange := ⟨1, 3, by decide, by decide, by decide⟩

/-! ### The accounts -/

/-- The key that a worker of a writer holds. -/
def heldAt : Position WriterTask → Multiset Int
  | .working task => task.held
  | .crashed _ | .leaving _ | .left _ => 0

/-- The keys that nobody works on any more. -/
def WriteLedger.closed (ledger : WriteLedger) : Multiset Int :=
  ledger.failed + ledger.completed + ledger.lost

namespace WriteLedger

theorem closed_failed (ledger : WriteLedger) (key : Int) :
    { ledger with failed := ledger.failed ++ [key] }.closed = ledger.closed + {key} := by
  rw [closed, closed, ← Multiset.coe_add, Multiset.coe_singleton]
  ac_rfl

theorem closed_completed (ledger : WriteLedger) (key : Int) :
    { ledger with completed := ledger.completed ++ [key] }.closed = ledger.closed + {key} := by
  rw [closed, closed, ← Multiset.coe_add, Multiset.coe_singleton]
  ac_rfl

theorem closed_lost (ledger : WriteLedger) (keys : List Int) :
    { ledger with lost := ledger.lost ++ keys }.closed = ledger.closed + keys := by
  rw [closed, closed, ← Multiset.coe_add]
  ac_rfl

end WriteLedger

namespace WriterLife

open Pool (Moved)

variable {Storage : Type}

/-- The accounts of a writer that has its range and its progress. -/
structure Accounted (range : KeyRange) (life : WriterLife Storage) : Prop where
  claimed : ∃ cursor, life.writer.shared.cursor = some cursor ∧ cursor.range = range ∧
    life.ledger.claimed = Int.range range.start cursor.next
  conserved : (life.ledger.claimed : Multiset Int) =
    life.ledger.closed + life.writer.total heldAt
  mem_failedKeys : ∀ key, key ∈ life.writer.state.failedKeys ↔ key ∈ life.ledger.failed
  tracked : ∃ written, life.writer.state.written = some written ∧
    written.Tracks range.start life.ledger.completed

/-! ### Keeping the accounts -/

theorem heldAt_eq_of_pass {shared after : Shared} {before position : Position WriterTask}
    (pass : Pass shared before position after) : heldAt before = heldAt position := by
  cases pass <;> rfl

theorem cursor_eq_of_pass {shared after : Shared} {before position : Position WriterTask}
    (pass : Pass shared before position after) : after.cursor = shared.cursor := by
  cases pass <;> rfl

theorem held_afterCall (record : Record) (rest : List Columns) :
    (afterCall record rest).held = [record.key] := by
  rw [afterCall]
  split <;> rfl

variable [Store Storage] {range : KeyRange} {life next : WriterLife Storage} {worker : Nat}

/-- A worker holds after a step what it held before and what it claimed, but for what it closed. -/
theorem Change.balance (change : Change life worker next) :
    ∃ before after claimed closed, Moved life.writer next.writer worker before after ∧
      (next.ledger.claimed : Multiset Int) = life.ledger.claimed + claimed ∧
      next.ledger.closed = life.ledger.closed + closed ∧
      heldAt before + claimed = heldAt after + closed := by
  cases change with
  | passed writer before after moved pass state =>
    exact ⟨before, after, 0, 0, moved, (add_zero _).symm, (add_zero _).symm,
      congrArg (· + 0) (heldAt_eq_of_pass pass)⟩
  | claimed writer cursor bounds record moved known left bounded generated shared state =>
    refine ⟨_, _, {cursor.next}, 0, moved, (Multiset.coe_add _ _).symm, (add_zero _).symm, ?_⟩
    show (0 : Multiset Int) + {cursor.next} = {record.key} + 0
    rw [generate_key _ _ _ generated, add_comm]
  | barren writer cursor crash moved known left _ shared state =>
    exact ⟨_, _, {cursor.next}, {cursor.next}, moved, (Multiset.coe_add _ _).symm,
      life.ledger.closed_lost [cursor.next], rfl⟩
  | stored writer record call rest moved _ shared state =>
    refine ⟨_, _, 0, 0, moved, (add_zero _).symm, (add_zero _).symm, ?_⟩
    rw [heldAt, heldAt, held_afterCall, WriterTask.held]
  | refused writer record call rest failure moved _ shared state =>
    exact ⟨_, _, 0, 0, moved, (add_zero _).symm, (add_zero _).symm, rfl⟩
  | broken writer record call rest crash moved _ shared state =>
    exact ⟨_, _, 0, {record.key}, moved, (add_zero _).symm, life.ledger.closed_lost [record.key],
      add_comm _ _⟩
  | failed writer key reason moved shared state =>
    exact ⟨_, _, 0, {key}, moved, (add_zero _).symm, life.ledger.closed_failed key, add_comm _ _⟩
  | completed writer record written after mark moved known accepted shared state =>
    exact ⟨_, _, 0, {record.key}, moved, (add_zero _).symm, life.ledger.closed_completed record.key,
      add_comm _ _⟩
  | rejected writer record crash moved _ shared state =>
    exact ⟨_, _, 0, {record.key}, moved, (add_zero _).symm, life.ledger.closed_lost [record.key],
      add_comm _ _⟩
  | counted writer record moved shared state =>
    exact ⟨_, _, 0, 0, moved, (add_zero _).symm, (add_zero _).symm, rfl⟩

theorem Change.claimed_eq_range (change : Change life worker next)
    (claimed : ∃ cursor, life.writer.shared.cursor = some cursor ∧ cursor.range = range ∧
      life.ledger.claimed = Int.range range.start cursor.next) :
    ∃ cursor, next.writer.shared.cursor = some cursor ∧ cursor.range = range ∧
      next.ledger.claimed = Int.range range.start cursor.next := by
  obtain ⟨cursor, known, ranged, equal⟩ := claimed
  have advanced : cursor.next < cursor.range.limit →
      cursor.claim.2.range = range ∧ life.ledger.claimed ++ [cursor.next] =
        Int.range range.start cursor.claim.2.next := by
    intro left
    rw [equal, ← ranged, cursor.range_claim left]
    exact ⟨cursor.claim_range, rfl⟩
  cases change with
  | claimed writer claimable bounds record moved known' left bounded generated shared state =>
    cases known.symm.trans known'
    exact ⟨cursor.claim.2, by rw [shared], advanced left⟩
  | barren writer claimable crash moved known' left _ shared state =>
    cases known.symm.trans known'
    exact ⟨cursor.claim.2, by rw [shared], advanced left⟩
  | passed writer before after moved pass state =>
    exact ⟨cursor, (cursor_eq_of_pass pass).trans known, ranged, equal⟩
  | _ =>
    rename_i shared state
    exact ⟨cursor, by rw [shared]; exact known, ranged, equal⟩

/-- The range of a writer stays the same. -/
theorem Change.range?_eq (change : Change life worker next) :
    next.writer.range? = life.writer.range? := by
  rw [Pool.range?, Pool.range?]
  cases change with
  | claimed writer cursor bounds record moved known left bounded generated shared state =>
    rw [shared, known]
    exact congrArg some cursor.claim_range
  | barren writer cursor crash moved known left _ shared state =>
    rw [shared, known]
    exact congrArg some cursor.claim_range
  | passed writer before after moved pass state =>
    rw [cursor_eq_of_pass pass]
  | _ =>
    rename_i shared state
    rw [shared]

theorem Change.mem_failedKeys (change : Change life worker next)
    (same : ∀ key, key ∈ life.writer.state.failedKeys ↔ key ∈ life.ledger.failed) (key : Int) :
    key ∈ next.writer.state.failedKeys ↔ key ∈ next.ledger.failed := by
  cases change with
  | failed writer other reason moved shared state =>
    rw [state, Std.TreeSet.mem_insert, Std.LawfulEqCmp.compare_eq_iff_eq, same, List.mem_append,
      List.mem_singleton, or_comm, eq_comm]
  | completed writer record written after mark moved known accepted shared state =>
    rw [state]
    exact same key
  | _ =>
    rename_i state
    rw [state]
    exact same key

theorem Change.tracked (change : Change life worker next)
    (tracked : ∃ written, life.writer.state.written = some written ∧
      written.Tracks range.start life.ledger.completed) :
    ∃ written, next.writer.state.written = some written ∧
      written.Tracks range.start next.ledger.completed := by
  cases change with
  | failed writer other reason moved shared state =>
    rw [state]
    exact tracked
  | completed writer record written after mark moved known accepted shared state =>
    obtain ⟨before, same, tracks⟩ := tracked
    cases same.symm.trans known
    exact ⟨after, by rw [state], tracks.of_complete_eq_ok record.key accepted⟩
  | _ =>
    rename_i state
    rw [state]
    exact tracked

/-- Every step of a worker keeps the accounts. -/
theorem Change.accounted (change : Change life worker next) (accounted : life.Accounted range) :
    next.Accounted range := by
  obtain ⟨before, after, claimed, closed, moved, claimedEq, closedEq, balance⟩ := change.balance
  refine ⟨change.claimed_eq_range accounted.claimed, ?_,
    change.mem_failedKeys accounted.mem_failedKeys, change.tracked accounted.tracked⟩
  rw [claimedEq, closedEq]
  exact moved.conserved _ _ _ _ accounted.conserved balance

/-! ### Who holds a key -/

omit [Store Storage]

theorem Accounted.nodup_parts (accounted : life.Accounted range) :
    (life.ledger.closed + life.writer.total heldAt).Nodup := by
  obtain ⟨cursor, _, _, claimed⟩ := accounted.claimed
  rw [← accounted.conserved, claimed, Multiset.coe_nodup]
  exact nodup_range _ _

theorem mem_total_heldAt (worker : Nat) (task : WriterTask) (key : Int)
    (found : life.writer.position? worker = some (.working task)) (held : key ∈ task.held) :
    key ∈ life.writer.total heldAt :=
  (Pool.mem_total_iff life.writer key).mpr ⟨worker, _, found, Multiset.mem_coe.mpr held⟩

/-- A key that a worker holds is held by no other. -/
theorem Accounted.eq_of_held (accounted : life.Accounted range) (first second : Nat)
    (firstTask secondTask : WriterTask) (key : Int)
    (firstFound : life.writer.position? first = some (.working firstTask))
    (secondFound : life.writer.position? second = some (.working secondTask))
    (firstHolds : key ∈ firstTask.held) (secondHolds : key ∈ secondTask.held) :
    first = second :=
  Pool.eq_of_mem_held heldAt life.writer (Multiset.nodup_add.mp accounted.nodup_parts).2.1
    first second _ _ key firstFound secondFound (Multiset.mem_coe.mpr firstHolds)
    (Multiset.mem_coe.mpr secondHolds)

/-- A key that a worker holds is not closed. -/
theorem Accounted.not_mem_closed (accounted : life.Accounted range) (worker : Nat)
    (task : WriterTask) (key : Int)
    (found : life.writer.position? worker = some (.working task)) (held : key ∈ task.held) :
    key ∉ life.ledger.closed := fun closed =>
  Multiset.disjoint_left.mp (Multiset.nodup_add.mp accounted.nodup_parts).2.2 closed
    (mem_total_heldAt worker task key found held)

theorem mem_closed_iff (ledger : WriteLedger) (key : Int) :
    key ∈ ledger.closed ↔ key ∈ ledger.failed ∨ key ∈ ledger.completed ∨ key ∈ ledger.lost := by
  rw [WriteLedger.closed, Multiset.mem_add, Multiset.mem_add, or_assoc]
  rfl

theorem Accounted.mem_claimed_iff (accounted : life.Accounted range) (key : Int) :
    key ∈ life.ledger.claimed ↔
      key ∈ life.ledger.closed ∨ key ∈ life.writer.total heldAt := by
  rw [← Multiset.mem_coe, accounted.conserved, Multiset.mem_add]

/-- A failed key was not completed. -/
theorem Accounted.not_completed_of_failed (accounted : life.Accounted range) (key : Int)
    (failed : key ∈ life.ledger.failed) : key ∉ life.ledger.completed := by
  intro completed
  have nodup := (Multiset.nodup_add.mp accounted.nodup_parts).1
  have disjoint := (Multiset.nodup_add.mp (Multiset.nodup_add.mp nodup).1).2.2
  exact Multiset.disjoint_left.mp disjoint failed completed

/-! ### The watermark -/

theorem watermark_eq (written : WrittenPrefix)
    (tracked : life.writer.state.written = some written) :
    life.writer.watermark = written.watermark := by
  rw [Writer.watermark, tracked]

/-- Every key up to the watermark was completed. -/
theorem Accounted.completed_of_le_watermark (accounted : life.Accounted range) (key : Int)
    (low : range.start ≤ key) (high : key ≤ life.writer.watermark) :
    key ∈ life.ledger.completed := by
  obtain ⟨written, tracked, tracks⟩ := accounted.tracked
  rw [watermark_eq written tracked] at high
  exact tracks.mem_of_le_watermark key low high

theorem Accounted.range_of_claimed (accounted : life.Accounted range) (key : Int)
    (claimed : key ∈ life.ledger.claimed) :
    range.start ≤ key ∧ key < range.start + life.writer.keysClaimed := by
  obtain ⟨cursor, known, ranged, equal⟩ := accounted.claimed
  rw [equal, Int.mem_range_iff] at claimed
  rw [Pool.keysClaimed, known]
  show _ ∧ key < range.start + (cursor.next - cursor.range.start)
  rw [ranged]
  omega

/-- The watermark never passes a failed key. -/
theorem Accounted.watermark_lt_of_failed (accounted : life.Accounted range) (key : Int)
    (failed : key ∈ life.writer.state.failedKeys) : life.writer.watermark < key := by
  rw [accounted.mem_failedKeys] at failed
  by_contra reached
  have closed := (mem_closed_iff life.ledger key).mpr (Or.inl failed)
  have claimed := (accounted.mem_claimed_iff key).mpr (Or.inl closed)
  have low := (accounted.range_of_claimed key claimed).1
  exact accounted.not_completed_of_failed key failed
    (accounted.completed_of_le_watermark key low (not_lt.mp reached))

/-- The watermark starts right before the range. -/
theorem Accounted.start_le_watermark_add_one (accounted : life.Accounted range) :
    range.start ≤ life.writer.watermark + 1 := by
  obtain ⟨written, tracked, tracks⟩ := accounted.tracked
  have above := tracks.start_le_next
  rw [watermark_eq written tracked, WrittenPrefix.watermark, Int.sub_add_cancel]
  exact above

/-- The watermark never passes the cursor. -/
theorem Accounted.watermark_lt_claimed (accounted : life.Accounted range) :
    life.writer.watermark < range.start + life.writer.keysClaimed := by
  by_cases above : range.start ≤ life.writer.watermark
  · have completed := accounted.completed_of_le_watermark _ above (le_refl _)
    have closed := (mem_closed_iff life.ledger _).mpr (Or.inr (Or.inl completed))
    exact (accounted.range_of_claimed _ ((accounted.mem_claimed_iff _).mpr (Or.inl closed))).2
  · obtain ⟨cursor, known, ranged, _⟩ := accounted.claimed
    have forward := cursor.start_le_next
    rw [Pool.keysClaimed, known]
    show _ < range.start + (cursor.next - cursor.range.start)
    omega

/-- The watermark never passes the last key of the range. -/
theorem Accounted.watermark_lt_limit (accounted : life.Accounted range) :
    life.writer.watermark < range.limit := by
  obtain ⟨cursor, known, ranged, _⟩ := accounted.claimed
  have behind : life.writer.watermark < range.start + life.writer.keysClaimed :=
    accounted.watermark_lt_claimed
  have claimed : life.writer.keysClaimed = cursor.next - cursor.range.start := by
    rw [Pool.keysClaimed, known]
    rfl
  rw [claimed, ranged, add_sub_cancel] at behind
  exact lt_of_lt_of_le behind (ranged ▸ cursor.next_le_limit)

/-- When the keys up to a limit, and no others, have failed or were completed, the watermark is just
below the first failed key, or just below the limit. -/
theorem Accounted.watermark_eq_of_settled (accounted : life.Accounted range) (limit : Int)
    (forward : range.start ≤ limit)
    (settled : ∀ key, (range.start ≤ key ∧ key < limit) ↔
      key ∈ life.ledger.failed ∨ key ∈ life.ledger.completed) :
    life.writer.watermark = life.writer.state.failedKeys.toList.min?.getD limit - 1 := by
  obtain ⟨written, tracked, tracks⟩ := accounted.tracked
  have noted : ∀ key, key ∈ life.writer.state.failedKeys.toList ↔ key ∈ life.ledger.failed :=
    fun key => Std.TreeSet.mem_toList.trans (accounted.mem_failedKeys key)
  have below : ∀ key, range.start ≤ key → key < written.next → key ∈ life.ledger.completed :=
    tracks.mem_of_lt_next
  have boundary : written.next < limit → written.next ∈ life.ledger.failed :=
    fun less => ((settled written.next).mp ⟨tracks.start_le_next, less⟩).resolve_right
      tracks.next_not_mem
  rw [watermark_eq written tracked, WrittenPrefix.watermark]
  cases least : life.writer.state.failedKeys.toList.min? with
  | none =>
    rw [List.min?_eq_none_iff] at least
    have reached : ¬written.next < limit := fun less => by
      have failed := (noted _).mpr (boundary less)
      rw [least] at failed
      cases failed
    have within : written.next ≤ limit := by
      by_contra beyond
      have completed := below limit forward (not_le.mp beyond)
      exact lt_irrefl _ ((settled limit).mpr (Or.inr completed)).2
    show written.next - 1 = limit - 1
    omega
  | some first =>
    rw [List.min?_eq_some_iff] at least
    have failed := (noted first).mp least.1
    have inside := (settled first).mpr (Or.inl failed)
    have lower : ¬first < written.next := fun less =>
      accounted.not_completed_of_failed first failed (below first inside.1 less)
    have upper : ¬written.next < first := fun less =>
      absurd (least.2 _ ((noted _).mpr (boundary (less.trans inside.2)))) (not_le.mpr less)
    show written.next - 1 = first - 1
    omega

/-- The watermark never goes back while completed keys stay completed. -/
theorem Accounted.watermark_mono (accounted : life.Accounted range)
    (nextAccounted : next.Accounted range)
    (subset : ∀ key ∈ life.ledger.completed, key ∈ next.ledger.completed) :
    life.writer.watermark ≤ next.writer.watermark := by
  obtain ⟨written, tracked, tracks⟩ := accounted.tracked
  obtain ⟨later, laterTracked, laterTracks⟩ := nextAccounted.tracked
  rw [watermark_eq written tracked, watermark_eq later laterTracked]
  exact tracks.watermark_mono laterTracks subset

end WriterLife

end LoadVerifier
