/-
This file says what a cursor hands out, whoever calls it and in whatever order. A call holds the
lock of the cursor from its look at the next key until it has moved on. So calls take effect one
after another, and an order in which the calls of any number of callers can do so is a list of
callers.

What a call gets depends on nothing but the number of calls before it: the key that far behind the
start, or no key once the range is used up. So the keys come in their order, none is left out and
none comes twice, and those of one caller are ascending because all of them are.
-/
import LoadVerifier.Key.Cursor
import Mathlib.Data.Int.Range
import Mathlib.Data.List.Induction

namespace LoadVerifier

/-! ### The keys of an interval -/

theorem range_succ (low high : Int) (ordered : low ≤ high) :
    Int.range low (high + 1) = Int.range low high ++ [high] := by
  have size : (high + 1 - low).toNat = (high - low).toNat + 1 := by omega
  have last : low + ((high - low).toNat : Int) = high := by omega
  rw [Int.range, Int.range, size, List.range_succ, List.map_append, List.map_singleton, last]

theorem ascending_range (low high : Int) : (Int.range low high).Pairwise (· < ·) := by
  rw [Int.range]
  exact List.Pairwise.map _ (fun first second less => by omega) List.pairwise_lt_range

theorem nodup_range (low high : Int) : (Int.range low high).Nodup :=
  (ascending_range low high).imp ne_of_lt

theorem length_range (low high : Int) : (Int.range low high).length = (high - low).toNat := by
  rw [Int.range, List.length_map, List.length_range]

/-! ### One call -/

/-- A claim adds its key to those up to the cursor. -/
theorem Cursor.range_claim (cursor : Cursor) (left : cursor.next < cursor.range.limit) :
    Int.range cursor.range.start cursor.claim.2.next =
      Int.range cursor.range.start cursor.next ++ [cursor.next] := by
  rw [(cursor.claim_of_lt left).2, range_succ _ _ cursor.start_le_next]

/-- The key for a call that comes after so many others, as long as the range has one. -/
def KeyRange.keyAfter? (range : KeyRange) (calls : Nat) : Option Int :=
  if calls < range.size then some (range.start + calls) else none

theorem KeyRange.keyAfter?_eq_none_iff (range : KeyRange) (calls : Nat) :
    range.keyAfter? calls = none ↔ range.size ≤ calls := by
  simp [keyAfter?]

theorem KeyRange.keyAfter?_eq_some_iff (range : KeyRange) (calls : Nat) (key : Int) :
    range.keyAfter? calls = some key ↔ calls < range.size ∧ range.start + calls = key := by
  simp [keyAfter?]

namespace Cursor

variable {cursor : Cursor} {range : KeyRange} {calls : Nat}

/-- A cursor of the range that has handed out what so many calls can get. -/
structure StandsAfter (cursor : Cursor) (range : KeyRange) (calls : Nat) : Prop where
  range_eq : cursor.range = range
  claimed_eq : cursor.claimed = (min calls range.size : Nat)

theorem standsAfter_ofRange (range : KeyRange) : (ofRange range).StandsAfter range 0 where
  range_eq := rfl
  claimed_eq := by
    show range.start - range.start = _
    omega

/-- A call gets the key that is due after the calls before it, and is one more of them. -/
theorem StandsAfter.claim (stands : cursor.StandsAfter range calls) :
    cursor.claim.1 = range.keyAfter? calls ∧ cursor.claim.2.StandsAfter range (calls + 1) := by
  obtain ⟨rfl, claimed_eq⟩ := stands
  have size := cursor.range.size_eq
  rw [claimed] at claimed_eq
  by_cases left : cursor.next < cursor.range.limit
  · obtain ⟨answer, next⟩ := cursor.claim_of_lt left
    refine ⟨?_, cursor.claim_range, ?_⟩
    · rw [answer, eq_comm, KeyRange.keyAfter?_eq_some_iff]
      omega
    · rw [claimed, claim_range, next]
      omega
  · rw [cursor.claim_of_not_lt left]
    refine ⟨?_, rfl, ?_⟩
    · rw [eq_comm, KeyRange.keyAfter?_eq_none_iff]
      omega
    · show cursor.next - cursor.range.start = _
      omega

/-! ### Calls of several callers -/

/-- A cursor under calls, and what it answered to whom, in the order of the calls. -/
structure Handout (Caller : Type) where
  cursor : Cursor
  answers : List (Caller × Option Int)

namespace Handout

variable {Caller : Type}

/-- Nobody has called yet. -/
def ofRange (range : KeyRange) : Handout Caller := ⟨.ofRange range, []⟩

/-- One call. -/
def call (handout : Handout Caller) (caller : Caller) : Handout Caller :=
  ⟨handout.cursor.claim.2, handout.answers ++ [(caller, handout.cursor.claim.1)]⟩

/-- Calls of one caller after another. -/
def ofCalls (range : KeyRange) (callers : List Caller) : Handout Caller :=
  callers.foldl call (ofRange range)

/-- The keys that were handed out, in the order of the calls. -/
def keys (handout : Handout Caller) : List Int := handout.answers.filterMap Prod.snd

/-- The keys that one caller got, in the order of its calls. -/
def keysOf [DecidableEq Caller] (handout : Handout Caller) (caller : Caller) : List Int :=
  (handout.answers.filter (·.1 = caller)).filterMap Prod.snd

theorem ofCalls_concat (range : KeyRange) (callers : List Caller) (caller : Caller) :
    ofCalls range (callers ++ [caller]) = (ofCalls range callers).call caller := by
  rw [ofCalls, List.foldl_append, List.foldl_cons, List.foldl_nil, ← ofCalls]

theorem keys_call (handout : Handout Caller) (caller : Caller) :
    (handout.call caller).keys = handout.keys ++ handout.cursor.claim.1.toList := by
  rw [keys, call, List.filterMap_append, keys]
  cases handout.cursor.claim.1 <;> rfl

theorem mem_keysOf_iff [DecidableEq Caller] (handout : Handout Caller) (caller : Caller)
    (key : Int) : key ∈ handout.keysOf caller ↔ (caller, some key) ∈ handout.answers := by
  simp [keysOf]

theorem keysOf_sublist [DecidableEq Caller] (handout : Handout Caller) (caller : Caller) :
    (handout.keysOf caller).Sublist handout.keys :=
  List.filter_sublist.filterMap Prod.snd

/-- Every call got what was due in its turn, and the keys handed out are those up to the cursor. -/
structure InTurn (handout : Handout Caller) (range : KeyRange) (callers : List Caller) : Prop where
  stands : handout.cursor.StandsAfter range callers.length
  answers_eq : handout.answers =
    callers.zipIdx.map fun (caller, before) => (caller, range.keyAfter? before)
  keys_eq : handout.keys = Int.range range.start handout.cursor.next

theorem inTurn_ofRange (range : KeyRange) : (ofRange range : Handout Caller).InTurn range [] where
  stands := standsAfter_ofRange range
  answers_eq := rfl
  keys_eq := by
    show [] = Int.range range.start range.start
    rw [Int.range, sub_self]
    rfl

section Calls

variable {handout : Handout Caller} {range : KeyRange} {callers : List Caller}

/-- One more call gets what is due in its turn. -/
theorem InTurn.call (inTurn : handout.InTurn range callers) (caller : Caller) :
    (handout.call caller).InTurn range (callers ++ [caller]) := by
  obtain ⟨stands, answers, keys⟩ := inTurn
  obtain ⟨answer, further⟩ := stands.claim
  refine ⟨?_, ?_, ?_⟩
  · rw [List.length_append]
    exact further
  · rw [Handout.call, answers, answer, List.zipIdx_append, List.map_append, Nat.zero_add]
    rfl
  · obtain ⟨rfl, _⟩ := stands
    rw [keys_call, keys, Handout.call]
    by_cases left : handout.cursor.next < handout.cursor.range.limit
    · rw [(handout.cursor.claim_of_lt left).1, Option.toList_some, handout.cursor.range_claim left]
    · rw [handout.cursor.claim_of_not_lt left, Option.toList_none, List.append_nil]

theorem inTurn_ofCalls (range : KeyRange) (callers : List Caller) :
    (ofCalls range callers).InTurn range callers := by
  induction callers using List.reverseRecOn with
  | nil => exact inTurn_ofRange range
  | append_singleton callers caller inductionHypothesis =>
    rw [ofCalls_concat]
    exact inductionHypothesis.call caller

theorem InTurn.next_eq (inTurn : handout.InTurn range callers) :
    handout.cursor.next = range.start + (min callers.length range.size : Nat) := by
  rw [← inTurn.stands.claimed_eq, claimed, inTurn.stands.range_eq, add_sub_cancel]

/-- The key that a call got tells how many calls were before it. -/
theorem InTurn.exists_before (inTurn : handout.InTurn range callers) (caller : Caller) (key : Int)
    (got : (caller, some key) ∈ handout.answers) :
    ∃ before : Nat, callers[before]? = some caller ∧ range.start + before = key := by
  rw [inTurn.answers_eq, List.mem_map] at got
  obtain ⟨⟨called, before⟩, member, same⟩ := got
  obtain ⟨rfl, due⟩ := Prod.mk.inj same
  exact ⟨before, List.mk_mem_zipIdx_iff_getElem?.mp member,
    ((range.keyAfter?_eq_some_iff before key).mp due).2⟩

/-- A call gets nothing exactly when the calls before it have used up the range. -/
theorem InTurn.none_iff (inTurn : handout.InTurn range callers) (before : Nat) (caller : Caller)
    (answer : Option Int) (found : handout.answers[before]? = some (caller, answer)) :
    answer = none ↔ range.size ≤ before := by
  rw [inTurn.answers_eq, List.getElem?_map, List.getElem?_zipIdx, Option.map_map] at found
  obtain ⟨called, _, same⟩ := Option.map_eq_some_iff.mp found
  rw [Function.comp_apply, Prod.mk.injEq, Nat.zero_add] at same
  rw [← same.2, KeyRange.keyAfter?_eq_none_iff]

/-- A key that was handed out has one caller. -/
theorem InTurn.one_caller [DecidableEq Caller] (inTurn : handout.InTurn range callers) (key : Int)
    (handed : key ∈ handout.keys) : ∃! caller, key ∈ handout.keysOf caller := by
  obtain ⟨⟨caller, answer⟩, member, rfl⟩ := List.mem_filterMap.mp handed
  -- The key tells how many calls were before the one that got it, and their number who called.
  obtain ⟨before, called, due⟩ := inTurn.exists_before caller key member
  refine ⟨caller, (mem_keysOf_iff _ _ _).mpr member, fun other got => ?_⟩
  obtain ⟨otherBefore, otherCalled, otherDue⟩ :=
    inTurn.exists_before other key ((mem_keysOf_iff _ _ _).mp got)
  obtain rfl : otherBefore = before := by omega
  exact Option.some.inj (otherCalled.symm.trans called)

end Calls

/-- The keys of a range went to the callers from the start on, each of them once, for as long as
there were any. -/
structure HandsOutOnce [DecidableEq Caller] (handout : Handout Caller) (range : KeyRange)
    (callers : List Caller) : Prop where
  callers_eq : handout.answers.map Prod.fst = callers
  keys_eq : handout.keys =
    Int.range range.start (range.start + min callers.length range.size)
  one_caller : ∀ key ∈ handout.keys, ∃! caller, key ∈ handout.keysOf caller
  ascending : ∀ caller, (handout.keysOf caller).Pairwise (· < ·)
  none_iff : ∀ before caller answer, handout.answers[before]? = some (caller, answer) →
    (answer = none ↔ range.size ≤ before)
  claimed_eq : handout.cursor.claimed = (min callers.length range.size : Nat)
  contained : ∀ key ∈ handout.keys, range.contains key = true

/-- Whoever calls a cursor, however often and in whatever order, the keys of its range are handed
out from the start on, each of them to one caller and once. The first calls get them, as many as
there are keys, and all calls after these get none. -/
theorem range_is_handed_out_once [DecidableEq Caller] (range : KeyRange) (callers : List Caller) :
    (ofCalls range callers).HandsOutOnce range callers := by
  have inTurn := inTurn_ofCalls range callers
  refine ⟨?_, ?_, inTurn.one_caller, fun caller => ?_, inTurn.none_iff, inTurn.stands.claimed_eq,
    fun key handed => ?_⟩
  · rw [inTurn.answers_eq, List.map_map]
    exact List.zipIdx_map_fst 0 callers
  · rw [inTurn.keys_eq, inTurn.next_eq]
  · exact (inTurn.keys_eq ▸ ascending_range _ _).sublist (keysOf_sublist _ caller)
  · rw [inTurn.keys_eq, Int.mem_range_iff] at handed
    have inside := (ofCalls range callers).cursor.next_le_limit
    rw [inTurn.stands.range_eq] at inside
    exact (range.contains_iff key).mpr ⟨handed.1, handed.2.trans_le inside⟩

/-- Two of three callers share the last keys that there can be, and the third comes too late. -/
example : (ofCalls ⟨9223372036854775804, 9223372036854775807, by decide, by decide, by decide⟩
    ["left", "right", "left", "right", "late"]).answers =
      [("left", some 9223372036854775804), ("right", some 9223372036854775805),
        ("left", some 9223372036854775806), ("right", none), ("late", none)] := by
  decide

end Handout

end Cursor

end LoadVerifier
