/-
This file says where a written prefix stands after any calls: new keys in any order, keys that were
completed before, and keys below the start. Only new keys from the start on are accepted, and a
refused key changes nothing. The boundary is the least key from the start on that was not accepted,
and the counters are those of the accepted keys. A call for a new key answers the last key before
the boundary that it leaves. So where the prefix stands depends on which keys were accepted, and not
on their order.
-/
import LoadVerifier.Proofs.WrittenPrefix
import Mathlib.Data.Finset.Card
import Mathlib.Data.List.Induction
import Mathlib.Order.Bounds.Basic

namespace LoadVerifier.WrittenPrefix

/-- A written prefix under calls, and the keys it has accepted. -/
structure Completion where
  written : WrittenPrefix
  accepted : Finset Int

namespace Completion

/-- Nothing is called for yet. -/
def ofStart (start : Int) : Completion := ⟨.ofStart start, ∅⟩

/-- One call. Whatever it answers, the prefix is the one that it leaves. -/
def call (completion : Completion) (key : Int) : Completion :=
  match completion.written.complete key with
  | (.ok _, after) => ⟨after, insert key completion.accepted⟩
  | (.error _, after) => ⟨after, completion.accepted⟩

/-- Calls for one key after another. -/
def ofCalls (start : Int) (keys : List Int) : Completion := keys.foldl call (ofStart start)

theorem ofCalls_concat (start : Int) (keys : List Int) (key : Int) :
    ofCalls start (keys ++ [key]) = (ofCalls start keys).call key := by
  rw [ofCalls, List.foldl_append, List.foldl_cons, List.foldl_nil, ← ofCalls]

end Completion

/-- A prefix that says exactly how far the accepted keys reach: the key after the watermark is the
least one from the start on that is missing, and the counters count the accepted keys and those of
them that the watermark does not cover. -/
structure Measures (written : WrittenPrefix) (start : Int) (accepted : Finset Int) : Prop where
  least_missing : IsLeast {key | start ≤ key ∧ key ∉ accepted} (written.watermark + 1)
  completed_eq : written.completed = accepted.card
  pending_size : written.pending.size = {key ∈ accepted | written.watermark + 1 < key}.card

/-- Two prefixes that nothing tells apart. -/
structure SameStanding (written other : WrittenPrefix) : Prop where
  watermark_eq : written.watermark = other.watermark
  completed_eq : written.completed = other.completed
  pending_eq : written.pending.toList = other.pending.toList

theorem watermark_add_one (written : WrittenPrefix) : written.watermark + 1 = written.next := by
  rw [watermark, Int.sub_add_cancel]

section Tracked

variable {written other : WrittenPrefix} {start : Int} {order otherOrder : List Int}

theorem Tracks.pending_toFinset (tracks : written.Tracks start order) :
    written.pending.toList.toFinset = {key ∈ order.toFinset | written.next < key} := by
  ext key
  rw [List.mem_toFinset, Std.TreeSet.mem_toList, tracks.mem_pending_iff, Finset.mem_filter,
    List.mem_toFinset]

theorem Tracks.measures (tracks : written.Tracks start order) :
    written.Measures start order.toFinset where
  least_missing := by
    rw [watermark_add_one]
    refine ⟨⟨tracks.start_le_next, ?_⟩, fun key missing => ?_⟩
    · rw [List.mem_toFinset]
      exact tracks.next_not_mem
    · by_contra below
      exact missing.2 (List.mem_toFinset.mpr
        (tracks.mem_of_lt_next key missing.1 (not_le.mp below)))
  completed_eq := by rw [tracks.completed_eq, List.toFinset_card_of_nodup tracks.nodup]
  pending_size := by
    have distinct : written.pending.toList.Nodup :=
      (Std.TreeSet.ordered_toList.imp fun less => Std.compare_eq_lt.mp less).imp ne_of_lt
    rw [watermark_add_one, ← tracks.pending_toFinset, List.toFinset_card_of_nodup distinct,
      Std.TreeSet.length_toList]

/-- The same keys leave a prefix in the same standing, whatever their order. -/
theorem Tracks.sameStanding (tracks : written.Tracks start order)
    (otherTracks : other.Tracks start otherOrder) (same : order.toFinset = otherOrder.toFinset) :
    written.SameStanding other := by
  have measures := tracks.measures
  have otherMeasures := otherTracks.measures
  rw [← same] at otherMeasures
  have next : written.next = other.next := by
    rw [← watermark_add_one, ← watermark_add_one]
    exact measures.least_missing.unique otherMeasures.least_missing
  refine ⟨?_, ?_, ?_⟩
  · rw [watermark, watermark, next]
  · rw [measures.completed_eq, otherMeasures.completed_eq]
  · refine (Std.TreeSet.Equiv.of_forall_mem_iff fun key => ?_).toList_eq
    rw [tracks.mem_pending_iff, otherTracks.mem_pending_iff, next, ← List.mem_toFinset, same,
      List.mem_toFinset]

end Tracked

namespace Completion

variable {completion : Completion} {start : Int}

/-- The prefix keeps track of the accepted keys, in the order in which they came. -/
def Tracked (completion : Completion) (start : Int) : Prop :=
  ∃ order, completion.written.Tracks start order ∧ order.toFinset = completion.accepted

theorem tracked_ofStart (start : Int) : (ofStart start).Tracked start :=
  ⟨[], tracks_ofStart start, rfl⟩

/-- A known key and a key below the start are refused. -/
theorem Tracked.refuses (tracked : completion.Tracked start) (key : Int)
    (known : key < start ∨ key ∈ completion.accepted) :
    completion.written.complete key = (.error (.writtenTwice key), completion.written) ∧
      completion.call key = completion := by
  obtain ⟨order, tracks, same⟩ := tracked
  have refused : completion.written.complete key =
      (.error (.writtenTwice key), completion.written) := by
    refine tracks.complete_eq_error key (known.symm.imp_left fun member => ?_)
    rwa [← same, List.mem_toFinset] at member
  exact ⟨refused, by rw [call, refused]⟩

/-- A new key is accepted with the watermark after it, and the prefix keeps track of it. -/
theorem Tracked.accepts (tracked : completion.Tracked start) (key : Int) (above : start ≤ key)
    (fresh : key ∉ completion.accepted) :
    ∃ after, completion.written.complete key = (.ok after.watermark, after) ∧
      completion.call key = ⟨after, insert key completion.accepted⟩ ∧
      (completion.call key).Tracked start := by
  obtain ⟨order, tracks, same⟩ := tracked
  rw [← same, List.mem_toFinset] at fresh
  obtain ⟨after, accepted, continued⟩ := tracks.complete_eq_ok key fresh above
  have called : completion.call key = ⟨after, insert key completion.accepted⟩ := by
    rw [call, accepted]
  refine ⟨after, accepted, called, order ++ [key], ?_, ?_⟩
  · rw [called]
    exact continued
  · rw [called, List.toFinset_append, same, Finset.union_comm]
    rfl

/-- Whatever key is called for, the prefix keeps track of the accepted ones, which are one more if
the key is not below the start. -/
theorem Tracked.call (tracked : completion.Tracked start) (key : Int) :
    (completion.call key).Tracked start ∧
      (completion.call key).accepted =
        if start ≤ key then insert key completion.accepted else completion.accepted := by
  by_cases known : key < start ∨ key ∈ completion.accepted
  · rw [(tracked.refuses key known).2]
    refine ⟨tracked, ?_⟩
    split
    · rename_i above
      rw [Finset.insert_eq_self.mpr (known.resolve_left (not_lt.mpr above))]
    · rfl
  · rw [not_or, not_lt] at known
    obtain ⟨after, _, called, continued⟩ := tracked.accepts key known.1 known.2
    exact ⟨continued, by rw [called, if_pos known.1]⟩

/-- After any calls the accepted keys are those not below the start. -/
theorem tracked_ofCalls (start : Int) (keys : List Int) :
    (ofCalls start keys).Tracked start ∧
      (ofCalls start keys).accepted = {key ∈ keys.toFinset | start ≤ key} := by
  induction keys using List.reverseRecOn with
  | nil => exact ⟨tracked_ofStart start, rfl⟩
  | append_singleton keys key inductionHypothesis =>
    obtain ⟨tracked, accepted⟩ := inductionHypothesis
    obtain ⟨continued, grown⟩ := tracked.call key
    rw [ofCalls_concat]
    refine ⟨continued, ?_⟩
    rw [grown, accepted]
    ext other
    by_cases above : start ≤ key <;> by_cases same : other = key <;> simp [above, same]

theorem Tracked.measures (tracked : completion.Tracked start) :
    completion.written.Measures start completion.accepted := by
  obtain ⟨order, tracks, same⟩ := tracked
  rw [← same]
  exact tracks.measures

theorem Tracked.sameStanding {other : Completion} (tracked : completion.Tracked start)
    (otherTracked : other.Tracked start) (equal : completion.accepted = other.accepted) :
    completion.written.SameStanding other.written := by
  obtain ⟨order, tracks, same⟩ := tracked
  obtain ⟨otherOrder, otherTracks, otherSame⟩ := otherTracked
  exact tracks.sameStanding otherTracks (by rw [same, equal, otherSame])

/-- Whatever keys a prefix was called for, in whatever order, it measures the keys it has accepted,
which are those from the start on. It refuses a key exactly when it is below the start or was
accepted before, and then the call has changed nothing. A new key is accepted; the answer is the
last key before the least one that is missing then, and the prefix after the call measures the
accepted keys with the new one. Any other calls with the same accepted keys leave the prefix in the
same standing. -/
theorem prefix_measures_accepted (start : Int) (keys : List Int) :
    (ofCalls start keys).written.Measures start (ofCalls start keys).accepted ∧
      (ofCalls start keys).accepted = {key ∈ keys.toFinset | start ≤ key} ∧
      (∀ key, key < start ∨ key ∈ (ofCalls start keys).accepted →
        (ofCalls start keys).written.complete key =
            (.error (.writtenTwice key), (ofCalls start keys).written) ∧
          (Crash.writtenTwice key).kind = "ValueError" ∧
          ofCalls start (keys ++ [key]) = ofCalls start keys) ∧
      (∀ key, start ≤ key → key ∉ (ofCalls start keys).accepted →
        ∃ mark after, (ofCalls start keys).written.complete key = (.ok mark, after) ∧
          IsLeast {other | start ≤ other ∧ other ∉ insert key (ofCalls start keys).accepted}
            (mark + 1) ∧
          after.Measures start (insert key (ofCalls start keys).accepted) ∧
          ofCalls start (keys ++ [key]) = ⟨after, insert key (ofCalls start keys).accepted⟩) ∧
      ∀ others, (ofCalls start others).accepted = (ofCalls start keys).accepted →
        (ofCalls start others).written.SameStanding (ofCalls start keys).written := by
  obtain ⟨tracked, accepted⟩ := tracked_ofCalls start keys
  refine ⟨tracked.measures, accepted, fun key known => ?_, fun key above fresh => ?_,
    fun others equal => (tracked_ofCalls start others).1.sameStanding tracked equal⟩
  · rw [ofCalls_concat]
    obtain ⟨refused, unchanged⟩ := tracked.refuses key known
    exact ⟨refused, rfl, unchanged⟩
  · rw [ofCalls_concat]
    obtain ⟨after, took, called, continued⟩ := tracked.accepts key above fresh
    rw [called] at continued
    have measures := continued.measures
    exact ⟨after.watermark, after, took, measures.least_missing, measures, called⟩

/-- Keys above a gap, one of them twice and one below the start, in two orders. The key that closes
the gap answers how far the prefix reaches then. -/
theorem prefix_measures_accepted_out_of_order :
    (ofCalls 10 [12, 11, 15, 12, 9]).written.Measures 10 {11, 12, 15} ∧
      (ofCalls 10 [12, 11, 15, 12, 9]).written.complete 15 =
        (.error (.writtenTwice 15), (ofCalls 10 [12, 11, 15, 12, 9]).written) ∧
      ((ofCalls 10 [12, 11, 15, 12, 9]).written.complete 10).1 = .ok 12 ∧
      IsLeast {other | 10 ≤ other ∧ other ∉ ({10, 11, 12, 15} : Finset Int)} 13 ∧
      (ofCalls 10 [15, 12, 11]).written.SameStanding
        (ofCalls 10 [12, 11, 15, 12, 9]).written := by
  have accepted : (ofCalls 10 [12, 11, 15, 12, 9]).accepted = {11, 12, 15} := by decide
  obtain ⟨measures, _, refuses, accepts, stands⟩ :=
    prefix_measures_accepted 10 [12, 11, 15, 12, 9]
  rw [accepted] at measures refuses accepts stands
  have answer : ((ofCalls 10 [12, 11, 15, 12, 9]).written.complete 10).1 = .ok 12 := rfl
  obtain ⟨mark, after, took, least, _⟩ := accepts 10 (by decide) (by decide)
  rw [took] at answer
  cases answer
  exact ⟨measures, (refuses 15 (by decide)).1, by rw [took], least, stands _ (by decide)⟩

end Completion

end LoadVerifier.WrittenPrefix
