/-
This file follows a reader with one worker, which is not linked to a writer, over rows that do not
change, and which nobody asks to stop.

The worker takes the keys of its range in order and draws once for each of them, whatever the reads
give. So the place of a key in the range says which draw decides for it, and with the row of the key
its fate is known. All that is left open is how far the worker gets: it goes on as long as no more
errors were found than are allowed, and it leaves its range early only when there were more.
-/
import LoadVerifier.Proofs.FullVerification
import Mathlib.Data.Nat.Count

namespace LoadVerifier

open LoadVerifier.Random

/-! ### The places of a range -/

namespace ReadPlan

/-- The key at a place of the range. -/
def keyAt (plan : ReadPlan) (place : Nat) : Int := plan.range.start + place

/-- The draw for the key at a place, by a worker that draws for all keys in order. -/
def drawAt (stream : Stream) (place : Nat) : Nat := ((streamAfter place stream).upTo 99).1

/-- The draw for the key at a place decides for a comparison. -/
def ChosenAt (plan : ReadPlan) (stream : Stream) (place : Nat) : Prop :=
  (drawAt stream place : Int) < plan.verifyPercent

/-- The read of the key at a place is not refused. -/
def ReadableAt (plan : ReadPlan) (snapshot : Snapshot) (place : Nat) : Prop :=
  snapshot (plan.keyAt place) ≠ none

/-- The row of the key at a place is compared, and is that of its record. -/
def VerifiedAt (plan : ReadPlan) (snapshot : Snapshot) (stream : Stream) (place : Nat) : Prop :=
  plan.ChosenAt stream place ∧
    ∃ columns record, snapshot (plan.keyAt place) = some (some columns) ∧
      generate (plan.keyAt place) plan.bounds = .ok record ∧ columns.find? = record.columns.find?

/-- The key at a place is bad: its read is refused, or it has no row, or its row is compared and is
not that of its record. -/
def BadAt (plan : ReadPlan) (snapshot : Snapshot) (stream : Stream) (place : Nat) : Prop :=
  snapshot (plan.keyAt place) = none ∨ snapshot (plan.keyAt place) = some none ∨
    plan.ChosenAt stream place ∧
      ∃ columns record, snapshot (plan.keyAt place) = some (some columns) ∧
        generate (plan.keyAt place) plan.bounds = .ok record ∧ columns.find? ≠ record.columns.find?

/-- What becomes of the key at a place. -/
def fateAt (plan : ReadPlan) (snapshot : Snapshot) (stream : Stream) (place : Nat) : Fate :=
  match snapshot (plan.keyAt place) with
  | none => .unreadable
  | some row =>
    fateOfRow (plan.keyAt place) (decision plan.verifyPercent (streamAfter place stream)) row
      plan.bounds

section Places

variable (plan : ReadPlan) (snapshot : Snapshot) (stream : Stream) (place : Nat)

theorem decision_eq_true_iff :
    decision plan.verifyPercent (streamAfter place stream) = true ↔ plan.ChosenAt stream place :=
  decide_eq_true_iff

/-- The fate of a key decides whether it is readable, verified or bad. -/
theorem fateAt_spec :
    (plan.ReadableAt snapshot place ↔ (plan.fateAt snapshot stream place).isRow = true) ∧
      (plan.VerifiedAt snapshot stream place ↔
        (Fate.matched).is (plan.fateAt snapshot stream place) = true) ∧
      (plan.BadAt snapshot stream place ↔
        (plan.fateAt snapshot stream place).isError = true) := by
  have chosen := plan.decision_eq_true_iff stream place
  unfold ReadableAt VerifiedAt BadAt fateAt
  rw [← chosen]
  generalize decision plan.verifyPercent (streamAfter place stream) = verify
  cases snapshot (plan.keyAt place) with
  | none => simp [Fate.isRow, Fate.is, Fate.isError]
  | some row =>
    cases row with
    | none => simp [fateOfRow, Fate.isRow, Fate.is, Fate.isError]
    | some columns =>
      cases verify with
      | false => simp [fateOfRow, Fate.isRow, Fate.is, Fate.isError]
      | true =>
        cases generated : generate (plan.keyAt place) plan.bounds with
        | error error => simp [fateOfRow, generated, Fate.isRow, Fate.is, Fate.isError]
        | ok record =>
          by_cases same : columns.find? = record.columns.find? <;>
            simp [fateOfRow, generated, Fate.isRow, Fate.is, Fate.isError, same]

theorem readableAt_iff :
    plan.ReadableAt snapshot place ↔ (plan.fateAt snapshot stream place).isRow = true :=
  (plan.fateAt_spec snapshot stream place).1

theorem verifiedAt_iff : plan.VerifiedAt snapshot stream place ↔
    (Fate.matched).is (plan.fateAt snapshot stream place) = true :=
  (plan.fateAt_spec snapshot stream place).2.1

theorem badAt_iff :
    plan.BadAt snapshot stream place ↔ (plan.fateAt snapshot stream place).isError = true :=
  (plan.fateAt_spec snapshot stream place).2.2

/-- A reader that is not linked finds no key unreachable. -/
theorem not_unreachable : (Fate.unreachable).is (plan.fateAt snapshot stream place) = false := by
  unfold fateAt
  cases snapshot (plan.keyAt place) with
  | none => rfl
  | some row =>
    exact judge_cases stream (plan.keyAt place) _ row plan.bounds
      (motive := fun fate _ => (Fate.unreachable).is fate = false)
      rfl rfl rfl (fun _ => rfl) fun _ => rfl

instance : Decidable (plan.ReadableAt snapshot place) :=
  decidable_of_iff (snapshot (plan.keyAt place)).isSome Option.isSome_iff_ne_none

instance : Decidable (plan.VerifiedAt snapshot stream place) :=
  decidable_of_iff _ (plan.verifiedAt_iff snapshot stream place).symm

instance : Decidable (plan.BadAt snapshot stream place) :=
  decidable_of_iff _ (plan.badAt_iff snapshot stream place).symm

end Places

/-- What becomes of the first keys of the range. -/
def fatesBefore (plan : ReadPlan) (snapshot : Snapshot) (stream : Stream) (count : Nat) :
    List (Int × Fate) :=
  (List.range count).map fun place => (plan.keyAt place, plan.fateAt snapshot stream place)

/-- The bad ones of the first keys of the range, in ascending order. -/
def badKeysBefore (plan : ReadPlan) (snapshot : Snapshot) (stream : Stream) (count : Nat) :
    List Int :=
  ((List.range count).filter fun place => plan.BadAt snapshot stream place).map plan.keyAt

section Prefixes

variable (plan : ReadPlan) (snapshot : Snapshot) (stream : Stream) (count : Nat)

theorem fatesBefore_succ : plan.fatesBefore snapshot stream (count + 1) =
    plan.fatesBefore snapshot stream count ++
      [(plan.keyAt count, plan.fateAt snapshot stream count)] := by
  rw [fatesBefore, List.range_succ, List.map_append]
  rfl

/-- The first keys with some fates are counted. -/
theorem length_keysWith_fatesBefore (chosen : Fate → Bool) (Happens : Nat → Prop)
    [DecidablePred Happens]
    (fated : ∀ place, Happens place ↔ chosen (plan.fateAt snapshot stream place) = true) :
    (keysWith chosen (plan.fatesBefore snapshot stream count)).length =
      Nat.count Happens count := by
  induction count with
  | zero => rfl
  | succ count inductionHypothesis =>
    rw [fatesBefore_succ, keysWith_append, keysWith_singleton, List.length_append,
      inductionHypothesis, Nat.count_succ]
    by_cases happens : Happens count
    · rw [if_pos happens, if_pos ((fated count).mp happens)]
      rfl
    · rw [if_neg happens, if_neg (mt (fated count).mpr happens)]
      rfl

theorem length_errors_fatesBefore :
    (keysWith Fate.isError (plan.fatesBefore snapshot stream count)).length =
      Nat.count (plan.BadAt snapshot stream) count :=
  plan.length_keysWith_fatesBefore snapshot stream count _ _ (plan.badAt_iff snapshot stream)

theorem keysWith_isError_fatesBefore :
    keysWith Fate.isError (plan.fatesBefore snapshot stream count) =
      plan.badKeysBefore snapshot stream count := by
  rw [keysWith, fatesBefore, List.filter_map, List.map_map, badKeysBefore]
  refine congrArg _ (List.filter_congr fun place _ => ?_)
  rw [Function.comp_apply, Bool.eq_iff_iff, decide_eq_true_eq]
  exact (plan.badAt_iff snapshot stream place).symm

theorem ascending_badKeysBefore :
    (plan.badKeysBefore snapshot stream count).Pairwise (· < ·) := by
  rw [badKeysBefore, List.pairwise_map]
  refine (List.pairwise_lt_range.filter _).imp fun {earlier later} less => ?_
  rw [keyAt, keyAt]
  omega

theorem mem_fatesBefore_iff (key : Int) (fate : Fate) :
    (key, fate) ∈ plan.fatesBefore snapshot stream count ↔
      ∃ place < count, key = plan.keyAt place ∧ fate = plan.fateAt snapshot stream place := by
  rw [fatesBefore, List.mem_map]
  simp only [List.mem_range, Prod.mk.injEq, eq_comm]

end Prefixes

/-- What a worker reports that goes through the range in order and stops after a number of keys. -/
def resultAfter (plan : ReadPlan) (snapshot : Snapshot) (stream : Stream) (count : Nat) :
    ReadResult where
  status := if plan.maxErrors < Nat.count (plan.BadAt snapshot stream) count then .aborted
    else .completed
  keysRead := Nat.count (plan.ReadableAt snapshot) count
  verified := Nat.count (plan.VerifiedAt snapshot stream) count
  errors := Nat.count (plan.BadAt snapshot stream) count
  unreachable := 0
  errorKeys := plan.badKeysBefore snapshot stream count

/-- A worker that goes through the range in order stops after this number of keys: before the last
of them there were no more bad keys than errors are allowed, and unless it is the last key of the
range, there are more with it. -/
structure StopsAfter (plan : ReadPlan) (snapshot : Snapshot) (stream : Stream) (count : Nat) :
    Prop where
  le_size : count ≤ plan.range.size
  tolerated : ∀ earlier < count,
    (Nat.count (plan.BadAt snapshot stream) earlier : Int) ≤ plan.maxErrors
  exceeded : count < plan.range.size →
    plan.maxErrors < Nat.count (plan.BadAt snapshot stream) count

/-- A worker with more bad keys before it stops no later. -/
theorem StopsAfter.le_of_bad {first second : ReadPlan} {snapshot : Snapshot} {stream : Stream}
    {count other : Nat} (stops : first.StopsAfter snapshot stream count)
    (stopsToo : second.StopsAfter snapshot stream other)
    (range : first.range = second.range) (limit : first.maxErrors = second.maxErrors)
    (more : ∀ place, first.BadAt snapshot stream place → second.BadAt snapshot stream place) :
    other ≤ count := by
  -- Otherwise the second worker would still be within its limit where the first one is over it.
  by_contra further
  have earlier : count < other := Nat.lt_of_not_le further
  have exceeded := stops.exceeded (earlier.trans_le (range ▸ stopsToo.le_size))
  have tolerated := stopsToo.tolerated count earlier
  have fewer : Nat.count (first.BadAt snapshot stream) count ≤
      Nat.count (second.BadAt snapshot stream) count :=
    Nat.count_mono_left fun place _ => more place
  omega

/-- A worker that stops is over its limit if and only if the range is. -/
theorem StopsAfter.exceeded_iff {plan : ReadPlan} {snapshot : Snapshot} {stream : Stream}
    {count : Nat} (stops : plan.StopsAfter snapshot stream count) :
    plan.maxErrors < Nat.count (plan.BadAt snapshot stream) count ↔
      plan.maxErrors < Nat.count (plan.BadAt snapshot stream) plan.range.size := by
  constructor
  · intro exceeded
    exact exceeded.trans_le (Int.ofNat_le.mpr (Nat.count_monotone _ stops.le_size))
  · intro exceeded
    rcases Nat.lt_or_eq_of_le stops.le_size with less | rfl
    · exact stops.exceeded less
    · exact exceeded

/-- A worker that is not over its limit goes through the whole range. -/
theorem StopsAfter.eq_size {plan : ReadPlan} {snapshot : Snapshot} {stream : Stream} {count : Nat}
    (stops : plan.StopsAfter snapshot stream count)
    (within : ¬plan.maxErrors < Nat.count (plan.BadAt snapshot stream) plan.range.size) :
    count = plan.range.size :=
  stops.le_size.eq_or_lt.resolve_right fun less =>
    within (stops.exceeded_iff.mp (stops.exceeded less))

end ReadPlan

/-! ### A pool with one worker -/

namespace Pool

variable {State Task : Type} {pool : Pool State Task} {worker : Nat} {position : Position Task}

theorem eq_zero_of_alone (alone : pool.workerCount = 1)
    (found : pool.position? worker = some position) : worker = 0 :=
  Nat.lt_one_iff.mp (alone ▸ lt_workerCount_of_position pool worker position found)

/-- Nothing weighs but the only worker. -/
theorem total_of_alone {Weight : Type} [AddCommMonoid Weight] (alone : pool.workerCount = 1)
    (found : pool.position? worker = some position) (weight : Position Task → Weight) :
    pool.total weight = weight position := by
  rw [total, alone, Finset.sum_range_one, ← eq_zero_of_alone alone found,
    weightOf_of_position weight pool worker position found]

end Pool

namespace ReaderAudit

open Pool (Moved)

variable {Storage Source : Type} {snapshot : Snapshot} {regular : Storage → Prop}
  {plan : ReadPlan} {stream : Stream} {audit next : ReaderAudit Storage Source} {worker : Nat}

/-! ### The only worker -/

/-- The only worker holds the key at a place, and has drawn for it. -/
structure HoldsAt (plan : ReadPlan) (stream : Stream) (place : Nat) (rest : Stream) (key : Int)
    (verify : Bool) : Prop where
  key_eq : key = plan.keyAt place
  inside : place < plan.range.size
  verify_eq : verify = decision plan.verifyPercent (streamAfter place stream)
  rest_eq : rest = streamAfter (place + 1) stream

/-- Where the only worker can be when it is done with a number of keys, and which flags are set
then. Until it aborts the reader, nobody has, and then it asks itself to stop. -/
def SoloAt (plan : ReadPlan) (snapshot : Snapshot) (stream : Stream) (count : Nat)
    (aborted stopped : Bool) : Position ReaderTask → Prop
  | .working task =>
    match task with
    | .seed => count = 0 ∧ aborted = false
    | .checkStop rest => rest = streamAfter count stream ∧ (aborted = true → stopped = true)
    | .claim rest | .verified rest _ | .recordError rest _ _ | .abort rest _ =>
      rest = streamAfter count stream ∧ aborted = false
    | .stopPool rest _ => rest = streamAfter count stream ∧ aborted = true
    | .read rest key verify => HoldsAt plan stream count rest key verify ∧ aborted = false
    | .countRead rest key verify row | .countRow rest key verify row =>
      HoldsAt plan stream count rest key verify ∧ aborted = false ∧
        ∃ shown, snapshot key = some shown ∧ row.map ColumnMap.find? = shown.map ColumnMap.find?
    | .look _ _ _ | .askFinished _ _ _ | .lookAgain _ _ | .unreachable _ _ | .pause _ _ _ => False
  | .crashed _ => False
  | .leaving crash | .left crash => crash = none

/-- A reader with one worker goes through its range in order. -/
structure Solo (regular : Storage → Prop) (plan : ReadPlan) (snapshot : Snapshot)
    (stream : Stream) (audit : ReaderAudit Storage Source) : Prop where
  kept : Kept plan audit
  regular : regular audit.world.store
  unlinked : audit.world.source = none
  bounds_eq : audit.reader.state.bounds = plan.bounds
  seed_eq : audit.reader.state.seed = plan.seed
  verifyPercent_eq : audit.reader.state.verifyPercent = plan.verifyPercent
  alone : Pool.workerCount audit.reader = 1
  stopped : audit.reader.shared.stopRequested = true → audit.reader.state.aborted = true
  fates_eq : audit.account.fates =
    plan.fatesBefore snapshot stream audit.account.fates.length
  tolerated : ∀ earlier < audit.account.fates.length,
    (Nat.count (plan.BadAt snapshot stream) earlier : Int) ≤ plan.maxErrors
  soloAt : ∀ worker position, audit.reader.position? worker = some position →
    SoloAt plan snapshot stream audit.account.fates.length audit.reader.state.aborted
      audit.reader.shared.stopRequested position

theorem soloAt_checkStop {count : Nat} {aborted stopped : Bool} {rest : Stream}
    (drawn : rest = streamAfter count stream) (unaborted : aborted = false) :
    SoloAt plan snapshot stream count aborted stopped (.working (.checkStop rest)) :=
  ⟨drawn, fun isAborted => absurd (unaborted.symm.trans isAborted) Bool.false_ne_true⟩

/-- A worker that holds no key claims the next one of the range. -/
theorem Solo.next_eq (solo : Solo regular plan snapshot stream audit)
    (position : Position ReaderTask) (found : audit.reader.position? worker = some position)
    (nothing : atTask openKey position = 0) (cursor : Cursor)
    (known : audit.reader.shared.cursor = some cursor) :
    cursor.next = plan.keyAt audit.account.fates.length := by
  obtain ⟨other, otherKnown, ranged, claims⟩ := solo.kept.claimed
  cases known.symm.trans otherKnown
  have keys := solo.kept.balanced.keys
  rw [Pool.total_of_alone solo.alone found, nothing, add_zero, claims, Multiset.coe_eq_coe] at keys
  have lengths := keys.length_eq
  have forward : plan.range.start ≤ cursor.next := ranged ▸ cursor.start_le_next
  rw [length_range, List.length_map] at lengths
  rw [ReadPlan.keyAt]
  omega

/-- Before the only worker is done with a key, no more errors were found than are allowed. -/
theorem Solo.errors_le (solo : Solo regular plan snapshot stream audit) (task : ReaderTask)
    (found : audit.reader.position? worker = some (.working task)) (noError : errorDue task = 0)
    (noAbort : abortDue task = 0) (unaborted : audit.reader.state.aborted = false) :
    (Nat.count (plan.BadAt snapshot stream) audit.account.fates.length : Int) ≤ plan.maxErrors := by
  -- Nobody else owes an error or is about to abort, so the recorded errors are those of the fates.
  have errors := solo.kept.balanced.errors
  have exceeded := solo.kept.flagged.exceeded_iff
  rw [Pool.total_of_alone solo.alone found] at errors exceeded
  have due : atTask errorDue (.working task) = 0 := noError
  have way : atTask abortDue (.working task) = 0 := noAbort
  rw [due, add_zero, Multiset.coe_eq_coe] at errors
  rw [way, unaborted] at exceeded
  have within : ¬plan.maxErrors < audit.reader.state.tally.errors := fun more =>
    (exceeded.mpr more).elim Bool.false_ne_true (Nat.lt_irrefl 0)
  rw [← plan.length_errors_fatesBefore, ← solo.fates_eq, errors.length_eq,
    ← solo.kept.balanced.errors_eq]
  exact not_lt.mp within

theorem HoldsAt.generated {place : Nat} {rest : Stream} {key : Int} {verify : Bool}
    (holds : HoldsAt plan stream place rest key verify) (generates : plan.Generates) :
    ∃ record, generate key plan.bounds = .ok record := by
  have inside := holds.inside
  rw [KeyRange.size] at inside
  rw [holds.key_eq, ReadPlan.keyAt]
  exact generates _ (by omega) (by omega)

section Steps

variable [Store Storage]

/-- The only worker closes the keys of the range in order, each with its fate, and closes none when
more errors were found than are allowed. -/
theorem Change.fates_cases (change : Change audit worker next)
    (shows : Shows Storage snapshot regular)
    (solo : Solo regular plan snapshot stream audit) :
    next.account.fates = audit.account.fates ∨
      next.account.fates = audit.account.fates ++
          [(plan.keyAt audit.account.fates.length,
            plan.fateAt snapshot stream audit.account.fates.length)] ∧
        (Nat.count (plan.BadAt snapshot stream) audit.account.fates.length : Int) ≤
          plan.maxErrors := by
  cases change with
  | gaveUp reader rest key delay stopped moved shared state =>
    exact absurd (solo.soloAt worker _ moved.position_eq) id
  | missed reader rest key moved shared state =>
    exact absurd (solo.soloAt worker _ moved.position_eq) id
  | refused reader rest key verify failure answer moved shared state =>
    obtain ⟨holds, unaborted⟩ := solo.soloAt worker _ moved.position_eq
    have shown := (shows audit.world.store ⟨.reader, worker⟩ key solo.regular).2
    rw [answer, holds.key_eq] at shown
    refine Or.inr ⟨?_, solo.errors_le _ moved.position_eq rfl rfl unaborted⟩
    rw [ReadPlan.fateAt, show snapshot (plan.keyAt _) = none from shown, ← holds.key_eq]
    rfl
  | broke reader rest key verify crash answer moved shared state =>
    have shown := (shows audit.world.store ⟨.reader, worker⟩ key solo.regular).2
    rw [answer] at shown
    exact absurd shown id
  | countedRow reader rest key verify row moved shared state =>
    obtain ⟨holds, unaborted, shown, shownEq, same⟩ := solo.soloAt worker _ moved.position_eq
    refine Or.inr ⟨?_, solo.errors_le _ moved.position_eq rfl rfl unaborted⟩
    rw [ReadPlan.fateAt, ← holds.key_eq, shownEq, solo.bounds_eq, ReadAccount.close,
      fateOfRow_congr key row shown plan.bounds same, holds.verify_eq]
  | _ => exact Or.inl rfl

/-- The only worker stays where it should be. -/
theorem Change.soloAt (change : Change audit worker next)
    (shows : Shows Storage snapshot regular) (generates : plan.Generates)
    (streamed : Reader.streamOf plan.seed 0 = .ok stream)
    (solo : Solo regular plan snapshot stream audit) :
    ∃ before after, Moved audit.reader next.reader worker before after ∧
      SoloAt plan snapshot stream next.account.fates.length next.reader.state.aborted
        next.reader.shared.stopRequested after := by
  have done : ∀ key fate, (audit.account.close key fate).fates.length =
      audit.account.fates.length + 1 := fun key fate => List.length_append
  obtain ⟨cursor, known, ranged, _⟩ := solo.kept.claimed
  cases change with
  | wandered reader before after wanders moved shared state =>
    refine ⟨before, after, moved, ?_⟩
    rw [shared, state]
    have own := solo.soloAt worker before moved.position_eq
    cases Pool.eq_zero_of_alone solo.alone moved.position_eq
    cases wanders with
    | seeded drawn found =>
      obtain ⟨none, unaborted⟩ := own
      rw [solo.seed_eq] at found
      cases streamed.symm.trans found
      exact soloAt_checkStop (by rw [none]; rfl) unaborted
    | unseeded crash failed =>
      rw [solo.seed_eq] at failed
      cases streamed.symm.trans failed
    | goOn rest running =>
      refine ⟨own.1, Bool.eq_false_iff.mpr fun aborted => ?_⟩
      exact Bool.false_ne_true (running.symm.trans (own.2 aborted))
    | stopSeen => rfl
    | usedUp => rfl
    | baseless rest unknown => exact absurd (known.symm.trans unknown) (Option.some_ne_none _)
    | left crash => exact own
  | claimed reader rest claimable found left moved shared state =>
    refine ⟨_, _, moved, ?_⟩
    cases known.symm.trans found
    obtain ⟨drawn, unaborted⟩ := solo.soloAt worker _ moved.position_eq
    have next := solo.next_eq _ moved.position_eq rfl cursor known
    rw [solo.unlinked, Option.isSome_none, if_neg Bool.false_ne_true, ReaderLife.readTask_eq,
      solo.verifyPercent_eq, state]
    refine ⟨⟨next, ?_, by rw [drawn], by rw [drawn, streamAfter_snoc]⟩, unaborted⟩
    show audit.account.fates.length < plan.range.size
    rw [next, ranged, ReadPlan.keyAt] at left
    rw [KeyRange.size]
    omega
  | read reader rest key verify row answer moved shared state =>
    refine ⟨_, _, moved, ?_⟩
    obtain ⟨holds, unaborted⟩ := solo.soloAt worker _ moved.position_eq
    have shown := (shows audit.world.store ⟨.reader, worker⟩ key solo.regular).2
    rw [answer] at shown
    rw [state]
    exact ⟨holds, unaborted, shown⟩
  | refused reader rest key verify failure answer moved shared state =>
    refine ⟨_, _, moved, ?_⟩
    obtain ⟨holds, unaborted⟩ := solo.soloAt worker _ moved.position_eq
    rw [done, state]
    exact ⟨holds.rest_eq, unaborted⟩
  | broke reader rest key verify crash answer moved shared state =>
    have shown := (shows audit.world.store ⟨.reader, worker⟩ key solo.regular).2
    rw [answer] at shown
    exact absurd shown id
  | countedRead reader rest key verify row moved shared state =>
    refine ⟨_, _, moved, ?_⟩
    rw [state]
    exact solo.soloAt worker _ moved.position_eq
  | countedRow reader rest key verify row moved shared state =>
    refine ⟨_, _, moved, ?_⟩
    obtain ⟨holds, unaborted, _⟩ := solo.soloAt worker _ moved.position_eq
    have sane := fateOfRow_ne_ungenerated key verify row plan.bounds (holds.generated generates)
    rw [done, state, unaborted, solo.bounds_eq, holds.rest_eq]
    revert sane
    exact judge_cases _ key verify row plan.bounds
      (motive := fun fate move => fate ≠ .ungenerated →
        SoloAt plan snapshot stream _ false reader.shared.stopRequested (Pool.positionAfter move))
      (fun _ => ⟨rfl, rfl⟩) (fun _ => soloAt_checkStop rfl rfl) (fun _ => ⟨rfl, rfl⟩)
      (fun _ _ => ⟨rfl, rfl⟩) fun _ impossible => absurd rfl impossible
  | verified reader rest key moved shared state =>
    refine ⟨_, _, moved, ?_⟩
    obtain ⟨drawn, unaborted⟩ := solo.soloAt worker _ moved.position_eq
    rw [state]
    exact soloAt_checkStop drawn unaborted
  | erred reader rest key problems moved shared state =>
    refine ⟨_, _, moved, ?_⟩
    obtain ⟨drawn, unaborted⟩ := solo.soloAt worker _ moved.position_eq
    rw [state]
    split
    · exact soloAt_checkStop drawn unaborted
    · exact ⟨drawn, unaborted⟩
  | foundAborted reader rest errors aborted moved shared state =>
    obtain ⟨_, unaborted⟩ := solo.soloAt worker _ moved.position_eq
    exact absurd (unaborted.symm.trans aborted) Bool.false_ne_true
  | aborted reader rest errors unaborted moved shared state =>
    refine ⟨_, _, moved, ?_⟩
    rw [state]
    exact ⟨(solo.soloAt worker _ moved.position_eq).1, rfl⟩
  | stoppedPool reader rest errors moved shared state =>
    refine ⟨_, _, moved, ?_⟩
    rw [shared]
    exact ⟨(solo.soloAt worker _ moved.position_eq).1, fun _ => rfl⟩
  | waited reader before after key source waits linked moved shared state =>
    have own := solo.soloAt worker _ moved.position_eq
    cases waits <;> exact absurd own id
  | gaveUp reader rest key delay stopped moved shared state =>
    exact absurd (solo.soloAt worker _ moved.position_eq) id
  | missed reader rest key moved shared state =>
    exact absurd (solo.soloAt worker _ moved.position_eq) id
  | reported reader crash moved shared state =>
    exact absurd (solo.soloAt worker _ moved.position_eq) id

/-- Every step goes on in order. -/
theorem Solo.work [WatermarkSource Source] (solo : Solo regular plan snapshot stream audit)
    (shows : Shows Storage snapshot regular) (generates : plan.Generates)
    (streamed : Reader.streamOf plan.seed 0 = .ok stream) (worked : audit.work worker = some next) :
    Solo regular plan snapshot stream next := by
  have change := change_of_work audit next worker worked
  obtain ⟨bounds, seedEq, percent, abortedMono⟩ := change.settings
  obtain ⟨isRegular, unlinked⟩ := change.world shows solo.regular solo.unlinked
  obtain ⟨before, after, moved, own⟩ := change.soloAt shows generates streamed solo
  have alone : Pool.workerCount next.reader = 1 := moved.workerCount_eq.trans solo.alone
  have places : next.account.fates =
      plan.fatesBefore snapshot stream next.account.fates.length ∧
        ∀ earlier < next.account.fates.length,
          (Nat.count (plan.BadAt snapshot stream) earlier : Int) ≤ plan.maxErrors := by
    rcases change.fates_cases shows solo with same | ⟨closed, within⟩
    · rw [same]
      exact ⟨solo.fates_eq, solo.tolerated⟩
    · rw [closed, List.length_append, List.length_singleton, plan.fatesBefore_succ,
        ← solo.fates_eq]
      refine ⟨rfl, fun earlier less => ?_⟩
      rcases Nat.lt_succ_iff_lt_or_eq.mp less with before | rfl
      · exact solo.tolerated earlier before
      · exact within
  exact {
    kept := solo.kept.step (.work worker) worked
    regular := isRegular
    unlinked := unlinked
    bounds_eq := bounds.trans solo.bounds_eq
    seed_eq := seedEq.trans solo.seed_eq
    verifyPercent_eq := percent.trans solo.verifyPercent_eq
    alone := alone
    stopped := fun stopped => abortedMono <| by
      rcases change.asked stopped with before | ⟨rest, errors, found⟩ | ⟨crash, found⟩
      · exact solo.stopped before
      · exact (solo.soloAt worker _ found).2
      · exact absurd (solo.soloAt worker _ found) id
    fates_eq := places.1
    tolerated := places.2
    soloAt := fun other position found => by
      have same : other = worker :=
        (Pool.eq_zero_of_alone alone found).trans
          (Pool.eq_zero_of_alone solo.alone moved.position_eq).symm
      subst same
      cases moved.arrived.symm.trans found
      exact own }

end Steps

/-- A reader that was just started with one worker. -/
theorem solo_of_starts (reader : Reader) (starts : plan.Starts 1 reader) (store : Storage)
    (isRegular : regular store) :
    Solo regular plan snapshot stream
      (⟨reader, ⟨store, none⟩, {}⟩ : ReaderAudit Storage Source) := by
  have kept := kept_of_starts plan 1 reader starts (⟨store, none⟩ : ReaderWorld Storage Source)
  obtain ⟨_, _, now, rfl⟩ := plan.eq_spawn_of_starts 1 reader starts
  refine ⟨kept, isRegular, rfl, rfl, rfl, rfl, Pool.workerCount_spawn _ _ _ _,
    fun stopped => absurd stopped Bool.false_ne_true, rfl,
    fun earlier less => absurd less (Nat.not_lt_zero earlier), fun worker position found => ?_⟩
  rw [Pool.eq_of_position?_spawn _ _ _ _ _ _ found]
  exact ⟨rfl, rfl⟩

/-! ### The end -/

section End

variable (solo : Solo regular plan snapshot stream audit)
  (finished : Pool.finished audit.reader = true)

include solo

/-- Nobody crashes. -/
theorem Solo.sound (worker : Nat) (crash : Crash) :
    audit.reader.position? worker ≠ some (.left (some crash)) := by
  intro found
  have none : some crash = none := solo.soloAt worker _ found
  cases none

include finished

theorem Solo.wait_eq : audit.reader.wait = some (.ok audit.reader.result) :=
  solo.kept.wait_of_sound finished solo.sound

/-- In the end the worker is done with all keys before the cursor. -/
theorem Solo.cursor_of_finished : ∃ cursor, audit.reader.shared.cursor = some cursor ∧
    cursor.range = plan.range ∧ cursor.next = plan.keyAt audit.account.fates.length := by
  obtain ⟨cursor, known, ranged, _⟩ := solo.kept.claimed
  obtain ⟨position, found⟩ := Pool.exists_position_of_lt audit.reader 0 solo.kept.some_worker
  obtain ⟨crash, rfl⟩ := solo.kept.counted.left_of_finished finished 0 position found
  exact ⟨cursor, known, ranged, solo.next_eq _ found rfl cursor known⟩

theorem Solo.claims_eq : audit.account.claims.map Prod.snd =
    (List.range audit.account.fates.length).map plan.keyAt := by
  obtain ⟨cursor, known, _, next⟩ := solo.cursor_of_finished finished
  obtain ⟨other, otherKnown, _, claims⟩ := solo.kept.claimed
  cases known.symm.trans otherKnown
  rw [claims, next, Int.range, ReadPlan.keyAt, add_sub_cancel_left, Int.toNat_natCast]
  rfl

/-- In the end the errors are the bad keys. -/
theorem Solo.errors_eq : audit.reader.state.tally.errors =
    Nat.count (plan.BadAt snapshot stream) audit.account.fates.length := by
  rw [solo.kept.errors_eq finished, solo.fates_eq, plan.length_errors_fatesBefore,
    ← solo.fates_eq]

/-- In the end the worker has stopped where it should. -/
theorem Solo.stopsAfter : plan.StopsAfter snapshot stream audit.account.fates.length := by
  obtain ⟨cursor, known, ranged, next⟩ := solo.cursor_of_finished finished
  have inside := cursor.next_le_limit
  rw [next, ranged, ReadPlan.keyAt] at inside
  refine ⟨by rw [KeyRange.size]; omega, solo.tolerated, fun less => ?_⟩
  rw [← solo.errors_eq finished, ← solo.kept.status_aborted_iff finished]
  -- A worker that has left before the end of the range was asked to, and only by its own abort.
  obtain ⟨position, found⟩ := Pool.exists_position_of_lt audit.reader 0 solo.kept.some_worker
  obtain ⟨crash, rfl⟩ := solo.kept.counted.left_of_finished finished 0 position found
  have none : crash = none := solo.soloAt 0 _ found
  subst none
  have aborted : audit.reader.state.aborted = true := by
    rcases solo.kept.flagged.dismissed 0 _ found with stopped | ⟨other, otherKnown, used⟩
    · exact solo.stopped stopped
    · cases known.symm.trans otherKnown
      rw [next, ranged, ReadPlan.keyAt] at used
      rw [KeyRange.size] at less
      omega
  rw [Reader.status, aborted]
  rfl

theorem Solo.status_eq : audit.reader.status =
    if plan.maxErrors < Nat.count (plan.BadAt snapshot stream) audit.account.fates.length
      then .aborted else .completed := by
  rw [← solo.errors_eq finished]
  split
  · rename_i exceeded
    exact (solo.kept.status_aborted_iff finished).mpr exceeded
  · rename_i within
    have unaborted : audit.reader.state.aborted = false := by
      rw [Bool.eq_false_iff]
      intro aborted
      exact within (solo.kept.flagged.exceeded_iff.mp (Or.inl aborted))
    refine (status_eq_completed_iff audit.reader).mpr ⟨unaborted, Bool.eq_false_iff.mpr ?_⟩
    exact fun stopped => Bool.false_ne_true (unaborted.symm.trans (solo.stopped stopped))

theorem Solo.aborted_iff : audit.reader.result.status = .aborted ↔
    plan.maxErrors < Nat.count (plan.BadAt snapshot stream) plan.range.size := by
  rw [← (solo.stopsAfter finished).exceeded_iff, ← solo.errors_eq finished]
  exact solo.kept.status_aborted_iff finished

/-- In the end the report is the one for the keys that the worker is done with. -/
theorem Solo.result_eq : audit.reader.result =
    plan.resultAfter snapshot stream audit.account.fates.length := by
  have exactly := solo.kept.exact finished solo.sound
  have counts := plan.length_keysWith_fatesBefore snapshot stream audit.account.fates.length
  have read := exactly.keysRead_eq
  have verified := exactly.verified_eq
  have unreachable := exactly.unreachable_eq
  have never : ∀ place, False ↔
      (Fate.unreachable).is (plan.fateAt snapshot stream place) = true := fun place =>
    iff_of_false id (Bool.eq_false_iff.mp (plan.not_unreachable snapshot stream place))
  have errorKeys : audit.reader.result.errorKeys =
      plan.badKeysBefore snapshot stream audit.account.fates.length := by
    refine exactly.ascending.eq_of_mem_iff (plan.ascending_badKeysBefore snapshot stream _)
      fun key => (solo.kept.mem_errorKeys_iff finished key).trans ?_
    rw [solo.fates_eq, plan.keysWith_isError_fatesBefore, ← solo.fates_eq]
  rw [solo.kept.balanced.counted, solo.fates_eq, counts _ _ (plan.readableAt_iff snapshot stream)]
    at read
  rw [ReadAccount.keysOf, solo.fates_eq, counts _ _ (plan.verifiedAt_iff snapshot stream)]
    at verified
  rw [ReadAccount.keysOf, solo.fates_eq, counts _ _ never, Nat.count_false] at unreachable
  have errors := congrArg Int.ofNat (solo.errors_eq finished)
  rw [ReadPlan.resultAfter, ← errorKeys]
  exact ReadResult.mk.injEq .. ▸
    ⟨solo.status_eq finished, read, verified, errors, unreachable, rfl⟩

end End

/-! ### Runs -/

/-- The first worker draws from the stream of the seed itself. -/
theorem exists_stream_of_seed (seed : Int) (nonneg : 0 ≤ seed) :
    ∃ stream, Stream.seeded? [seed] = some stream ∧
      Reader.streamOf (.value seed) 0 = .ok stream := by
  obtain ⟨stream, seeded⟩ := seeded?_isSome [seed] (by simpa using nonneg)
  refine ⟨stream, seeded, ?_⟩
  simp only [Reader.streamOf, Given.need, bind, Except.bind, add_zero, seeded]
  rfl

/-- A worker that goes through its range in order waits for no writer. -/
theorem not_waitsAt_of_soloAt {count : Nat} {aborted stopped : Bool}
    (position : Position ReaderTask)
    (soloAt : SoloAt plan snapshot stream count aborted stopped position) : ¬WaitsAt position := by
  cases position with
  | working task => cases task <;> first | exact id | exact absurd soloAt id
  | _ => exact id

section Runs

variable [Store Storage] [WatermarkSource Source]

/-- A reader was started with one worker, which took some steps. -/
def RanAlone (plan : ReadPlan) (store : Storage) (schedule : List Nat)
    (audit : ReaderAudit Storage Source) : Prop :=
  ∃ reader, plan.Starts 1 reader ∧ replay work ⟨reader, ⟨store, none⟩, {}⟩ schedule = some audit

/-- A reader with one worker comes to its end: it takes no more than eight steps for each key and
four besides, and has a step until it is finished. -/
structure Progresses (plan : ReadPlan) (schedule : List Nat)
    (audit : ReaderAudit Storage Source) : Prop where
  bounded : schedule.length ≤ 8 * plan.range.size + 4
  continues : Pool.finished audit.reader = false → ∃ worker, (audit.work worker).isSome

/-- A reader that was started with one worker goes through its range in order, and comes to its
end. -/
theorem solo_of_run (shows : Shows Storage snapshot regular) (plan : ReadPlan)
    (generates : plan.Generates) (streamed : Reader.streamOf plan.seed 0 = .ok stream)
    (store : Storage) (isRegular : regular store) (schedule : List Nat)
    (audit : ReaderAudit Storage Source) (ran : RanAlone plan store schedule audit) :
    Solo regular plan snapshot stream audit ∧ audit.Progresses plan schedule := by
  obtain ⟨reader, starts, replayed⟩ := ran
  have start : Solo regular plan snapshot stream
      (⟨reader, ⟨store, none⟩, {}⟩ : ReaderAudit Storage Source) :=
    solo_of_starts reader starts store isRegular
  have goesOn : ∀ (state : ReaderAudit Storage Source) worker next,
      Solo regular plan snapshot stream state → state.work worker = some next →
        Solo regular plan snapshot stream next :=
    fun _ _ _ solo worked => solo.work shows generates streamed worked
  have solo := replay_invariant _ goesOn _ audit schedule start replayed
  have bounded := replay_length_le _ goesOn potential (fun state worker next solo worked => by
    obtain ⟨cursor, known, _⟩ := solo.kept.claimed
    exact (change_of_work state next worker worked).potential_lt (by rw [known]; rfl)
      solo.unlinked fun other position found =>
        not_waitsAt_of_soloAt position (solo.soloAt other position found))
    _ audit schedule start replayed
  rw [potential_of_starts plan 1 reader starts] at bounded
  refine ⟨solo, by omega, fun unfinished => ?_⟩
  exact exists_work audit solo.kept.counted solo.kept.some_worker unfinished

end Runs

end ReaderAudit

end LoadVerifier
