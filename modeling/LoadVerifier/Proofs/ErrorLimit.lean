/-
This file proves that a reader with one worker stops exactly at its limit of errors: at the first
bad key over the limit, or at the end of its range. The draws of the worker say which rows are
compared, and with the rows they say which keys are bad; everything that the reader reports is
counted over the keys up to the one where it stops.
-/
import LoadVerifier.Proofs.SoloReader

namespace LoadVerifier

open LoadVerifier.Random

namespace ReadPlan

/-! ### The last key -/

/-- The places of the bad keys of the range, in ascending order. -/
def badPlaces (plan : ReadPlan) (snapshot : Snapshot) (stream : Stream) : List Nat :=
  (List.range plan.range.size).filter fun place => plan.BadAt snapshot stream place

/-- The number of keys that one worker claims: all up to the first bad key over the limit, or the
whole range when there are not so many bad keys. -/
def reach (plan : ReadPlan) (snapshot : Snapshot) (stream : Stream) : Nat :=
  match (plan.badPlaces snapshot stream)[plan.maxErrors.toNat]? with
  | some place => place + 1
  | none => plan.range.size

/-- An item of a list of numbers with some property is preceded by as many as its index says. -/
theorem count_of_getElem?_filter_range (Happens : Nat → Prop) [DecidablePred Happens]
    (size index place : Nat)
    (found : ((List.range size).filter fun number => Happens number)[index]? = some place) :
    place < size ∧ Happens place ∧ Nat.count Happens place = index := by
  induction size with
  | zero => cases found
  | succ size inductionHypothesis =>
    have length : ((List.range size).filter fun number => Happens number).length =
        Nat.count Happens size := List.countP_eq_length_filter.symm
    rw [List.range_succ, List.filter_append, List.getElem?_append, length] at found
    split at found
    · obtain ⟨less, happens, counted⟩ := inductionHypothesis found
      exact ⟨Nat.lt_succ_of_lt less, happens, counted⟩
    · rename_i notBefore
      obtain ⟨inside, equal⟩ := List.getElem?_eq_some_iff.mp found
      have happens : Happens size := by
        by_contra not
        rw [List.filter_singleton, decide_eq_false not] at inside
        exact Nat.not_lt_zero _ inside
      simp only [List.filter_singleton, happens, decide_true, cond_true, List.length_singleton,
        List.getElem_singleton] at inside equal
      subst equal
      exact ⟨Nat.lt_succ_self _, happens, by omega⟩

variable {plan : ReadPlan} {snapshot : Snapshot} {stream : Stream}

theorem length_badPlaces : (plan.badPlaces snapshot stream).length =
    Nat.count (plan.BadAt snapshot stream) plan.range.size :=
  List.countP_eq_length_filter.symm

/-- That is where one worker stops. -/
theorem Possible.stopsAfter_reach (possible : plan.Possible) (snapshot : Snapshot)
    (stream : Stream) : plan.StopsAfter snapshot stream (plan.reach snapshot stream) := by
  have limit := Int.toNat_of_nonneg possible.maxErrors_nonneg
  have monotone := Nat.count_monotone (plan.BadAt snapshot stream)
  rw [reach]
  cases found : (plan.badPlaces snapshot stream)[plan.maxErrors.toNat]? with
  | some place =>
    obtain ⟨less, bad, counted⟩ := count_of_getElem?_filter_range _ _ _ _ found
    refine ⟨less, fun earlier before => ?_, fun _ => ?_⟩
    · have fewer := monotone (Nat.lt_succ_iff.mp before)
      omega
    · rw [Nat.count_succ, if_pos bad]
      omega
  | none =>
    have few := List.getElem?_eq_none_iff.mp found
    rw [length_badPlaces] at few
    refine ⟨Nat.le_refl _, fun earlier before => ?_, fun impossible =>
      absurd impossible (Nat.lt_irrefl _)⟩
    have fewer : Nat.count (plan.BadAt snapshot stream) earlier ≤
        Nat.count (plan.BadAt snapshot stream) plan.range.size := monotone (Nat.le_of_lt before)
    omega

end ReadPlan

/-! ### The report -/

namespace ReaderAudit

variable {Storage Source : Type} {snapshot : Snapshot} {regular : Storage → Prop}
  {plan : ReadPlan} {stream : Stream} {audit : ReaderAudit Storage Source}

/-- A reader stopped at its limit of errors: it claimed all keys up to the first bad one over the
limit, or the whole range. It is aborted exactly when the range has such a key, and it counted the
claimed keys that are readable, verified and bad. -/
structure StopsAtLimit (plan : ReadPlan) (snapshot : Snapshot) (stream : Stream)
    (audit : ReaderAudit Storage Source) (result : ReadResult) : Prop where
  claims_eq : audit.account.claims.map Prod.snd =
    (List.range (plan.reach snapshot stream)).map plan.keyAt
  status_eq : result.status =
    if plan.maxErrors < (plan.badPlaces snapshot stream).length then .aborted else .completed
  keysRead_eq : result.keysRead =
    Nat.count (plan.ReadableAt snapshot) (plan.reach snapshot stream)
  verified_eq : result.verified =
    Nat.count (plan.VerifiedAt snapshot stream) (plan.reach snapshot stream)
  errors_eq : result.errors = Nat.count (plan.BadAt snapshot stream) (plan.reach snapshot stream)
  unreachable_eq : result.unreachable = 0
  errorKeys_eq : result.errorKeys = plan.badKeysBefore snapshot stream (plan.reach snapshot stream)

theorem Solo.stopsAtLimit (solo : Solo regular plan snapshot stream audit)
    (finished : Pool.finished audit.reader = true) (possible : plan.Possible) :
    StopsAtLimit plan snapshot stream audit audit.reader.result := by
  have stops := solo.stopsAfter finished
  have reached := possible.stopsAfter_reach snapshot stream
  have same : audit.account.fates.length = plan.reach snapshot stream :=
    le_antisymm (reached.le_of_bad stops rfl rfl fun _ => id)
      (stops.le_of_bad reached rfl rfl fun _ => id)
  have result := solo.result_eq finished
  rw [same] at result
  rw [result]
  refine ⟨same ▸ solo.claims_eq finished, ?_, rfl, rfl, rfl, rfl, rfl⟩
  rw [ReadPlan.length_badPlaces]
  exact if_congr reached.exceeded_iff rfl rfl

section Runs

variable [Store Storage] [WatermarkSource Source]

/-- A reader with one worker, which is not linked, stops exactly at its limit of errors. The rows do
not change, and every key of the range has a record. Then the reader comes to its end; and when it
is finished, it has claimed the keys up to the first bad one over the limit, and reports what is to
be counted over them, with the draws from the stream of its seed. -/
theorem one_worker_stops_at_limit (shows : Shows Storage snapshot regular) (plan : ReadPlan)
    (seed : Int) (seeded : plan.seed = .value seed) (nonneg : 0 ≤ seed)
    (generates : plan.Generates) (store : Storage) (isRegular : regular store)
    (schedule : List Nat) (audit : ReaderAudit Storage Source)
    (ran : RanAlone plan store schedule audit) :
    audit.Progresses plan schedule ∧
      ∃ stream, Stream.seeded? [seed] = some stream ∧
        (Pool.finished audit.reader = true →
          ∃ result, audit.reader.wait = some (.ok result) ∧
            StopsAtLimit plan snapshot stream audit result) := by
  obtain ⟨stream, drawn, streamed⟩ := exists_stream_of_seed seed nonneg
  obtain ⟨solo, progresses⟩ := solo_of_run shows plan generates (seeded ▸ streamed) store isRegular
    schedule audit ran
  obtain ⟨reader, starts, _⟩ := ran
  have possible := (plan.eq_spawn_of_starts 1 reader starts).1
  exact ⟨progresses, stream, drawn, fun finished =>
    ⟨_, solo.wait_eq finished, solo.stopsAtLimit finished possible⟩⟩

end Runs

/-- Five keys of which about one half is compared, with one error allowed. -/
def halfCompared : ReadPlan where
  bounds := .small
  seed := .value 3
  verifyPercent := 50
  maxErrors := 1
  keyWindow := 0
  range := .five

theorem halfCompared_generates : halfCompared.Generates :=
  generates_of_isSome halfCompared.range halfCompared.bounds (by decide +kernel)

/-- The first three records, the first and the third of them with a wrong cell. -/
def twoWrongCells : MemoryStore :=
  (((MemoryStore.populate {} .small 0 3).toOption.getD {}).setCell 0 0 []).setCell 2 0 []

/-- The first wrong cell is not compared, so the second error is the missing row of key 3. -/
theorem one_worker_stops_at_second_error :
    ∃ (audit : ReaderAudit MemoryStore ScriptedSource) (result : ReadResult) (stream : Stream),
      RanAlone halfCompared twoWrongCells (List.replicate 28 0) audit ∧
        Stream.seeded? [3] = some stream ∧ audit.reader.wait = some (.ok result) ∧
        StopsAtLimit halfCompared (fun key => some (twoWrongCells.row? key)) stream audit result ∧
        halfCompared.reach (fun key => some (twoWrongCells.row? key)) stream = 4 ∧
        result = ⟨.aborted, 4, 1, 2, 0, [2, 3]⟩ := by
  have known : (replay work (⟨halfCompared.idle.spawn .seed 1 0.0, ⟨twoWrongCells, none⟩, {}⟩ :
      ReaderAudit MemoryStore ScriptedSource) (List.replicate 28 0)).map
        (fun audit => (Pool.finished audit.reader, audit.reader.result)) =
          some (true, ⟨.aborted, 4, 1, 2, 0, [2, 3]⟩) := by
    decide +kernel
  have reached : (Stream.seeded? [3]).map
      (halfCompared.reach fun key => some (twoWrongCells.row? key)) = some 4 := by
    decide +kernel
  obtain ⟨audit, replayed, seen⟩ := Option.map_eq_some_iff.mp known
  rw [Prod.mk.injEq] at seen
  have ran : RanAlone halfCompared twoWrongCells (List.replicate 28 0) audit :=
    ⟨_, ⟨halfCompared.ready, 0.0, rfl, rfl⟩, replayed⟩
  obtain ⟨_, stream, drawn, ends⟩ := one_worker_stops_at_limit (memoryStore_shows twoWrongCells)
    halfCompared 3 rfl (by decide) halfCompared_generates twoWrongCells rfl _ audit ran
  obtain ⟨result, waited, stops⟩ := ends seen.1
  rw [drawn, Option.map_some, Option.some_inj] at reached
  refine ⟨audit, result, stream, ran, drawn, waited, stops, reached, ?_⟩
  rw [← seen.2]
  exact (Reader.wait_eq_ok audit.reader result waited).2

end ReaderAudit

end LoadVerifier
