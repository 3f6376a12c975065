/-
This file says what a written prefix keeps of the keys that were completed. Whatever the order in
which keys are accepted, the boundary is the least key from the start on that is missing among
them, and the pending keys are the accepted ones above it. A key that is new and not below the
start is never refused.
-/
import LoadVerifier.Writing.Watermark
import Mathlib.Data.Int.Order.Basic
import Mathlib.Data.List.Nodup

namespace LoadVerifier.WrittenPrefix

/-- The prefix keeps track of the accepted keys: all keys below the boundary are accepted, the
boundary is not, and the accepted keys above it are pending. -/
structure Tracks (written : WrittenPrefix) (start : Int) (accepted : List Int) : Prop where
  start_le_next : start ≤ written.next
  mem_of_lt_next : ∀ key, start ≤ key → key < written.next → key ∈ accepted
  next_not_mem : written.next ∉ accepted
  mem_pending_iff : ∀ key, key ∈ written.pending ↔ key ∈ accepted ∧ written.next < key
  start_le_of_mem : ∀ key ∈ accepted, start ≤ key
  nodup : accepted.Nodup
  completed_eq : written.completed = accepted.length

/-! ### Moving the boundary -/

/-- With enough fuel the boundary stops at the first key that is not pending, and the keys it
passed are pending no longer. -/
theorem absorbUpTo_spec (count : Nat) (next : Int) (pending : Std.TreeSet Int)
    (enough : pending.size ≤ count) :
    next ≤ (absorbUpTo count next pending).1 ∧
      (∀ key, next ≤ key → key < (absorbUpTo count next pending).1 → key ∈ pending) ∧
      (absorbUpTo count next pending).1 ∉ pending ∧
      ∀ key, key ∈ (absorbUpTo count next pending).2 ↔
        key ∈ pending ∧ ¬(next ≤ key ∧ key < (absorbUpTo count next pending).1) := by
  induction count generalizing next pending with
  | zero =>
    have empty : pending.isEmpty := by
      rw [Std.TreeSet.isEmpty_eq_size_eq_zero]
      simpa using enough
    refine ⟨le_refl _, fun key _ _ => by rw [absorbUpTo] at *; omega, ?_, fun key => ?_⟩
    · exact Std.TreeSet.not_mem_of_isEmpty empty
    · constructor
      · intro member
        exact absurd member (Std.TreeSet.not_mem_of_isEmpty empty)
      · exact fun both => both.1
  | succ count inductionHypothesis =>
    rw [absorbUpTo]
    split
    · rename_i present
      have member : next ∈ pending := present
      have smaller : (pending.erase next).size ≤ count := by
        rw [Std.TreeSet.size_erase, if_pos present]
        omega
      obtain ⟨forward, passed, stopped, kept⟩ :=
        inductionHypothesis (next + 1) (pending.erase next) smaller
      have mem_erase : ∀ key, key ∈ pending.erase next ↔ key ≠ next ∧ key ∈ pending := by
        intro key
        rw [Std.TreeSet.mem_erase, Ne, Std.LawfulEqCmp.compare_eq_iff_eq, eq_comm]
      refine ⟨by omega, fun key low high => ?_, fun back => ?_, fun key => ?_⟩
      · by_cases same : key = next
        · exact same ▸ member
        · exact ((mem_erase key).mp (passed key (by omega) high)).2
      · exact stopped ((mem_erase _).mpr ⟨by omega, back⟩)
      · rw [kept key, mem_erase key]
        constructor
        · rintro ⟨⟨different, old⟩, outside⟩
          exact ⟨old, by omega⟩
        · rintro ⟨old, outside⟩
          exact ⟨⟨by omega, old⟩, by omega⟩
    · rename_i absent
      refine ⟨le_refl _, fun key low high => by omega, absent, fun key => ?_⟩
      exact ⟨fun old => ⟨old, by omega⟩, fun both => both.1⟩

/-! ### Completing a key -/

/-- What a call does, taken as a whole. Nothing is assigned before the refusal. -/
theorem complete_eq (written : WrittenPrefix) (key : Int) :
    written.complete key =
      if key < written.next ∨ key ∈ written.pending then (.error (.writtenTwice key), written)
      else if key = written.next then
        (.ok ((absorb (key + 1) written.pending).1 - 1),
          ⟨(absorb (key + 1) written.pending).1, (absorb (key + 1) written.pending).2,
            written.completed + 1⟩)
      else (.ok (written.next - 1), { written with
        pending := written.pending.insert key, completed := written.completed + 1 }) := by
  by_cases known : key < written.next ∨ key ∈ written.pending
  · simp [complete, completeMethod, known]
  · rw [if_neg known]
    by_cases boundary : key = written.next
    · have absent : written.next ∉ written.pending :=
        fun pending => known (Or.inr (boundary ▸ pending))
      subst boundary
      simp [complete, completeMethod, absent, Except.map]
    · simp [complete, completeMethod, known, boundary, Except.map]

/-- A refused call leaves the prefix as it was. -/
theorem eq_of_complete_eq_error {written after : WrittenPrefix} {key : Int} {crash : Crash}
    (refused : written.complete key = (.error crash, after)) : after = written := by
  rw [complete_eq] at refused
  split at refused
  · exact (Prod.mk.inj refused).2.symm
  · split at refused <;> cases (Prod.mk.inj refused).1

theorem tracks_ofStart (start : Int) : (ofStart start).Tracks start [] where
  start_le_next := le_refl start
  mem_of_lt_next _ low high := absurd high (not_lt.mpr low)
  next_not_mem := List.not_mem_nil
  mem_pending_iff key := by simp [ofStart]
  start_le_of_mem key member := absurd member List.not_mem_nil
  nodup := List.nodup_nil
  completed_eq := rfl

variable {written : WrittenPrefix} {start : Int} {accepted : List Int}

/-- A key that was accepted before is refused, and so is one below the start. -/
theorem Tracks.complete_eq_error (tracks : written.Tracks start accepted) (key : Int)
    (known : key ∈ accepted ∨ key < start) :
    written.complete key = (.error (.writtenTwice key), written) := by
  have startLe := tracks.start_le_next
  rw [complete_eq, if_pos]
  by_cases below : key < written.next
  · exact Or.inl below
  · have member : key ∈ accepted := known.resolve_right (by omega)
    have different : key ≠ written.next := fun same => tracks.next_not_mem (same ▸ member)
    exact Or.inr ((tracks.mem_pending_iff key).mpr ⟨member, by omega⟩)

/-- A new key may join the accepted ones. -/
theorem Tracks.snoc (tracks : written.Tracks start accepted) (key : Int)
    (fresh : key ∉ accepted) (above : start ≤ key) :
    (∀ other ∈ accepted ++ [key], start ≤ other) ∧ (accepted ++ [key]).Nodup ∧
      written.completed + 1 = (accepted ++ [key]).length := by
  refine ⟨fun other member => ?_, ?_, ?_⟩
  · rcases List.mem_append.mp member with old | new
    · exact tracks.start_le_of_mem other old
    · exact (List.mem_singleton.mp new) ▸ above
  · rw [List.nodup_append]
    exact ⟨tracks.nodup, List.nodup_singleton key,
      fun old member new single equal => fresh ((List.mem_singleton.mp single) ▸ equal ▸ member)⟩
  · rw [List.length_append, ← tracks.completed_eq, List.length_singleton]

/-- A key at the boundary moves it to the next gap. -/
theorem Tracks.boundary (tracks : written.Tracks start accepted) :
    Tracks ⟨(absorb (written.next + 1) written.pending).1,
      (absorb (written.next + 1) written.pending).2, written.completed + 1⟩ start
      (accepted ++ [written.next]) := by
  have startLe := tracks.start_le_next
  obtain ⟨start_le_of_mem, nodup, completed⟩ :=
    tracks.snoc written.next tracks.next_not_mem startLe
  obtain ⟨forward, passed, stopped, kept⟩ :=
    absorbUpTo_spec written.pending.size (written.next + 1) written.pending (Nat.le_refl _)
  rw [← absorb] at forward passed stopped kept
  refine ⟨le_trans (by omega) forward, ?_, ?_, ?_, start_le_of_mem, nodup, completed⟩
  · intro other low high
    rw [List.mem_append, List.mem_singleton]
    by_cases old : other < written.next
    · exact Or.inl (tracks.mem_of_lt_next other low old)
    · by_cases same : other = written.next
      · exact Or.inr same
      · exact Or.inl ((tracks.mem_pending_iff other).mp (passed other (by omega) high)).1
  · intro member
    rw [List.mem_append, List.mem_singleton] at member
    rcases member with old | same
    · refine stopped ((tracks.mem_pending_iff _).mpr ⟨old, ?_⟩)
      exact lt_of_lt_of_le (by omega) forward
    · exact absurd same (ne_of_gt (lt_of_lt_of_le (by omega) forward))
  · intro other
    refine (kept other).trans ?_
    rw [tracks.mem_pending_iff, List.mem_append, List.mem_singleton]
    constructor
    · rintro ⟨⟨member, above⟩, outside⟩
      refine ⟨Or.inl member, ?_⟩
      have different : other ≠ (absorb (written.next + 1) written.pending).1 :=
        fun same => stopped ((tracks.mem_pending_iff _).mpr ⟨same ▸ member, same ▸ above⟩)
      by_contra notAbove
      exact outside ⟨by omega, lt_of_le_of_ne (not_lt.mp notAbove) different⟩
    · rintro ⟨member | same, high⟩
      · exact ⟨⟨member, lt_of_lt_of_le (by omega) (le_trans forward (le_of_lt high))⟩,
          fun both => absurd both.2 (not_lt.mpr (le_of_lt high))⟩
      · exact absurd high (not_lt.mpr (le_trans (by omega) forward))

/-- A new key above the boundary is pending. -/
theorem Tracks.pend (tracks : written.Tracks start accepted) (key : Int) (fresh : key ∉ accepted)
    (above : written.next < key) :
    Tracks { written with
      pending := written.pending.insert key, completed := written.completed + 1 } start
      (accepted ++ [key]) := by
  have startLe := tracks.start_le_next
  obtain ⟨start_le_of_mem, nodup, completed⟩ :=
    tracks.snoc key fresh (le_trans startLe (le_of_lt above))
  refine ⟨startLe, ?_, ?_, ?_, start_le_of_mem, nodup, completed⟩
  · exact fun other low high => List.mem_append_left _ (tracks.mem_of_lt_next other low high)
  · intro member
    rw [List.mem_append, List.mem_singleton] at member
    exact member.elim tracks.next_not_mem fun same => ne_of_lt above same
  · intro other
    rw [Std.TreeSet.mem_insert, Std.LawfulEqCmp.compare_eq_iff_eq, tracks.mem_pending_iff,
      List.mem_append, List.mem_singleton]
    constructor
    · rintro (same | ⟨member, high⟩)
      · exact ⟨Or.inr same.symm, same ▸ above⟩
      · exact ⟨Or.inl member, high⟩
    · rintro ⟨member | same, high⟩
      · exact Or.inr ⟨member, high⟩
      · exact Or.inl same.symm

/-- A new key is accepted, and the answer is the watermark after it. -/
theorem Tracks.complete_eq_ok (tracks : written.Tracks start accepted) (key : Int)
    (fresh : key ∉ accepted) (above : start ≤ key) :
    ∃ after, written.complete key = (.ok after.watermark, after) ∧
      after.Tracks start (accepted ++ [key]) := by
  have notBelow : ¬key < written.next := fun below => fresh (tracks.mem_of_lt_next key above below)
  have notPending : key ∉ written.pending := fun pending =>
    fresh ((tracks.mem_pending_iff key).mp pending).1
  rw [complete_eq, if_neg (not_or.mpr ⟨notBelow, notPending⟩)]
  by_cases boundary : key = written.next
  · subst boundary
    rw [if_pos rfl]
    exact ⟨_, rfl, tracks.boundary⟩
  · rw [if_neg boundary]
    exact ⟨_, rfl, tracks.pend key fresh (by omega)⟩

/-- Only a new key is accepted, and it is kept track of. -/
theorem Tracks.of_complete_eq_ok {mark : Int} {after : WrittenPrefix}
    (tracks : written.Tracks start accepted) (key : Int)
    (completed : written.complete key = (.ok mark, after)) :
    after.Tracks start (accepted ++ [key]) := by
  by_cases known : key ∈ accepted ∨ key < start
  · rw [tracks.complete_eq_error key known] at completed
    cases completed
  · rw [not_or, not_lt] at known
    obtain ⟨next, accept, nextTracks⟩ := tracks.complete_eq_ok key known.1 known.2
    rw [accept] at completed
    cases completed
    exact nextTracks

/-! ### What the watermark says -/

/-- The keys up to the watermark are the accepted ones without a gap. -/
theorem Tracks.mem_of_le_watermark (tracks : written.Tracks start accepted) (key : Int)
    (low : start ≤ key) (high : key ≤ written.watermark) : key ∈ accepted :=
  tracks.mem_of_lt_next key low (by rw [watermark] at high; omega)

/-- The key after the watermark is missing. -/
theorem Tracks.watermark_succ_not_mem (tracks : written.Tracks start accepted) :
    written.watermark + 1 ∉ accepted := by
  have same : written.watermark + 1 = written.next := by rw [watermark]; omega
  exact same ▸ tracks.next_not_mem

/-- More accepted keys never give a lower watermark. -/
theorem Tracks.watermark_mono {later : WrittenPrefix} {more : List Int}
    (tracks : written.Tracks start accepted) (laterTracks : later.Tracks start more)
    (subset : ∀ key ∈ accepted, key ∈ more) : written.watermark ≤ later.watermark := by
  by_contra lower
  have startLe := laterTracks.start_le_next
  refine laterTracks.watermark_succ_not_mem (subset _ (tracks.mem_of_le_watermark _ ?_ ?_))
  · rw [watermark]; omega
  · omega

end LoadVerifier.WrittenPrefix
