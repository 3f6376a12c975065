/-
This file compares two runs of a reader with one worker that differ in the percentage of compared
rows only.

The worker draws for every key, whatever the percentage and whatever the reads give, so both runs
have the same draw at the same place. A draw that decides for a comparison at the lower percentage
does so at the higher one. So a key has the same fate in both runs, unless it is unchecked at the
lower percentage; up to each place the higher percentage finds at least as many bad keys, and its
run stops no later.
-/
import LoadVerifier.Proofs.ErrorLimit

namespace LoadVerifier

open LoadVerifier.Random

/-! ### The same draws -/

/-- A row has the same fate when more is compared, unless it was unchecked. -/
theorem fateOfRow_raised (key : Int) (verify verifyToo : Bool) (row : Option Columns)
    (bounds : Bounds) (raised : verify = true → verifyToo = true) :
    fateOfRow key verify row bounds = .unchecked ∨
      fateOfRow key verify row bounds = fateOfRow key verifyToo row bounds := by
  cases row with
  | none => exact Or.inr rfl
  | some columns =>
    cases verify with
    | false => exact Or.inl rfl
    | true => exact Or.inr (by rw [raised rfl])

namespace ReadPlan

/-- The same plan with another percentage. -/
def withPercent (plan : ReadPlan) (verifyPercent : Int) : ReadPlan := { plan with verifyPercent }

theorem keyAt_withPercent (plan : ReadPlan) (percent : Int) :
    (plan.withPercent percent).keyAt = plan.keyAt :=
  rfl

section Places

variable {lower higher : Int} (le : lower ≤ higher) (plan : ReadPlan) (snapshot : Snapshot)
  (stream : Stream) (place : Nat)

include le

/-- A key has the same fate at a higher percentage, unless it was unchecked. -/
theorem fateAt_raised :
    (plan.withPercent lower).fateAt snapshot stream place = .unchecked ∨
      (plan.withPercent lower).fateAt snapshot stream place =
        (plan.withPercent higher).fateAt snapshot stream place := by
  unfold fateAt
  rw [keyAt_withPercent, keyAt_withPercent]
  cases snapshot (plan.keyAt place) with
  | none => exact Or.inr rfl
  | some row =>
    refine fateOfRow_raised _ _ _ row plan.bounds fun chosen => ?_
    exact decide_eq_true ((of_decide_eq_true chosen).trans_le le)

theorem selected_raised (selected : Fate → Bool) (unchecked : selected .unchecked = false)
    (here : selected ((plan.withPercent lower).fateAt snapshot stream place) = true) :
    selected ((plan.withPercent higher).fateAt snapshot stream place) = true := by
  rcases fateAt_raised le plan snapshot stream place with fate | same
  · rw [fate, unchecked] at here
    cases here
  · exact same ▸ here

/-- A bad key is bad at a higher percentage. -/
theorem badAt_raised (bad : (plan.withPercent lower).BadAt snapshot stream place) :
    (plan.withPercent higher).BadAt snapshot stream place :=
  (badAt_iff _ snapshot stream place).mpr
    (selected_raised le plan snapshot stream place _ rfl
      ((badAt_iff _ snapshot stream place).mp bad))

/-- A verified key is verified at a higher percentage. -/
theorem verifiedAt_raised (verified : (plan.withPercent lower).VerifiedAt snapshot stream place) :
    (plan.withPercent higher).VerifiedAt snapshot stream place :=
  (verifiedAt_iff _ snapshot stream place).mpr
    (selected_raised le plan snapshot stream place _ rfl
      ((verifiedAt_iff _ snapshot stream place).mp verified))

end Places

end ReadPlan

/-! ### Two runs -/

namespace ReaderAudit

/-- The row of a key was compared with its record. -/
def Compared {Storage Source : Type} (audit : ReaderAudit Storage Source) (key : Int) : Prop :=
  (key, Fate.matched) ∈ audit.account.fates ∨ (key, Fate.mismatched) ∈ audit.account.fates

/-- A second run finds no less than the first one. The first one may claim more keys, when the
second one is aborted earlier; but of the keys that both claimed, all that the first one compared or
reported, the second one did too. -/
structure FindsNoLess {Storage Source : Type} (first second : ReaderAudit Storage Source)
    (firstResult secondResult : ReadResult) : Prop where
  claims_prefix :
    second.account.claims.map Prod.snd <+: first.account.claims.map Prod.snd
  compared : ∀ key ∈ second.account.claims.map Prod.snd, first.Compared key → second.Compared key
  errorKeys : ∀ key ∈ second.account.claims.map Prod.snd,
    key ∈ firstResult.errorKeys → key ∈ secondResult.errorKeys
  aborted : firstResult.status = .aborted → secondResult.status = .aborted
  counts : firstResult.status ≠ .aborted → secondResult.status ≠ .aborted →
    firstResult.keysRead = secondResult.keysRead ∧
      firstResult.verified ≤ secondResult.verified ∧ firstResult.errors ≤ secondResult.errors

variable {Storage Source : Type} {snapshot : Snapshot} {regular : Storage → Prop}
  {plan : ReadPlan} {stream : Stream} {first second : ReaderAudit Storage Source}
  {lower higher : Int}

section End

variable (le : lower ≤ higher)
  (solo : Solo regular (plan.withPercent lower) snapshot stream first)
  (soloToo : Solo regular (plan.withPercent higher) snapshot stream second)
  (finished : Pool.finished first.reader = true)
  (finishedToo : Pool.finished second.reader = true)

include le solo soloToo finished finishedToo

/-- The run with the higher percentage stops no later. -/
theorem Solo.length_fates_le : second.account.fates.length ≤ first.account.fates.length :=
  (solo.stopsAfter finished).le_of_bad (soloToo.stopsAfter finishedToo) rfl rfl
    (ReadPlan.badAt_raised le plan snapshot stream)

omit finished in
/-- Of the keys that both claimed, those with a fate other than unchecked keep it. -/
theorem Solo.mem_fates_raised (key : Int) (claimed : key ∈ second.account.claims.map Prod.snd)
    (fate : Fate) (checked : fate ≠ .unchecked) (member : (key, fate) ∈ first.account.fates) :
    (key, fate) ∈ second.account.fates := by
  rw [solo.fates_eq, ReadPlan.mem_fatesBefore_iff] at member
  rw [soloToo.claims_eq finishedToo, List.mem_map] at claimed
  obtain ⟨place, _, keyEq, rfl⟩ := member
  obtain ⟨other, inside, otherEq⟩ := claimed
  -- Both runs go through the same range, so they have the key at the same place.
  have same : other = place := by
    rw [keyEq, ReadPlan.keyAt_withPercent, ReadPlan.keyAt_withPercent, ReadPlan.keyAt,
      ReadPlan.keyAt] at otherEq
    omega
  subst same
  rw [soloToo.fates_eq, ReadPlan.mem_fatesBefore_iff]
  refine ⟨other, List.mem_range.mp inside, keyEq, ?_⟩
  exact (ReadPlan.fateAt_raised le plan snapshot stream other).resolve_left checked

/-- In the end the run with the higher percentage has found no less. -/
theorem Solo.findsNoLess :
    FindsNoLess first second first.reader.result second.reader.result := by
  have keeps := solo.mem_fates_raised le soloToo finishedToo
  have bad : ∀ count, Nat.count ((plan.withPercent lower).BadAt snapshot stream) count ≤
      Nat.count ((plan.withPercent higher).BadAt snapshot stream) count := fun count =>
    Nat.count_mono_left fun place _ => ReadPlan.badAt_raised le plan snapshot stream place
  have aborted := solo.aborted_iff finished
  have abortedToo := soloToo.aborted_iff finishedToo
  refine ⟨?_, fun key claimed => ?_, fun key claimed => ?_, fun isAborted => ?_,
    fun unaborted unabortedToo => ?_⟩
  · rw [solo.claims_eq finished, soloToo.claims_eq finishedToo,
      ← Nat.min_eq_left (solo.length_fates_le le soloToo finished finishedToo), ← List.take_range]
    exact (List.take_prefix _ _).map _
  · exact Or.imp (keeps key claimed _ Fate.noConfusion) (keeps key claimed _ Fate.noConfusion)
  · intro reported
    obtain ⟨fate, member, wrong⟩ := (mem_keysWith_iff _ _ key).mp
      ((solo.kept.mem_errorKeys_iff finished key).mp reported)
    have checked : fate ≠ .unchecked := by
      rintro rfl
      cases wrong
    exact (soloToo.kept.mem_errorKeys_iff finishedToo key).mpr ((mem_keysWith_iff _ _ key).mpr
      ⟨fate, keeps key claimed fate checked member, wrong⟩)
  · have exceeded := aborted.mp isAborted
    exact abortedToo.mpr (exceeded.trans_le (Int.ofNat_le.mpr (bad _)))
  · -- Neither run is over its limit, so both went through the whole range.
    have whole := (solo.stopsAfter finished).eq_size (mt aborted.mpr unaborted)
    have wholeToo := (soloToo.stopsAfter finishedToo).eq_size (mt abortedToo.mpr unabortedToo)
    rw [solo.result_eq finished, soloToo.result_eq finishedToo, whole, wholeToo]
    refine ⟨rfl, Int.ofNat_le.mpr ?_, Int.ofNat_le.mpr (bad _)⟩
    exact Nat.count_mono_left fun place _ =>
      ReadPlan.verifiedAt_raised le plan snapshot stream place

end End

section Runs

variable [Store Storage] [WatermarkSource Source]

/-- A higher percentage of compared rows never loses a detection. A reader with one worker, which is
not linked, reads the same unchanging rows twice, with the same seed and the same settings but for
the percentage, and every key of the range has a record. Then both runs come to their end; and when
they are finished, the run with the higher percentage has found no less. -/
theorem higher_percent_finds_no_less (shows : Shows Storage snapshot regular) (plan : ReadPlan)
    (seed : Int) (seeded : plan.seed = .value seed) (nonneg : 0 ≤ seed)
    (generates : plan.Generates) (lower higher : Int) (le : lower ≤ higher)
    (store : Storage) (isRegular : regular store)
    (firstSchedule : List Nat) (first : ReaderAudit Storage Source)
    (ranFirst : RanAlone (plan.withPercent lower) store firstSchedule first)
    (secondSchedule : List Nat) (second : ReaderAudit Storage Source)
    (ranSecond : RanAlone (plan.withPercent higher) store secondSchedule second) :
    first.Progresses (plan.withPercent lower) firstSchedule ∧
      second.Progresses (plan.withPercent higher) secondSchedule ∧
      (Pool.finished first.reader = true → Pool.finished second.reader = true →
        ∃ firstResult secondResult, first.reader.wait = some (.ok firstResult) ∧
          second.reader.wait = some (.ok secondResult) ∧
          FindsNoLess first second firstResult secondResult) := by
  obtain ⟨stream, _, streamed⟩ := exists_stream_of_seed seed nonneg
  rw [← seeded] at streamed
  obtain ⟨solo, progresses⟩ := solo_of_run shows (plan.withPercent lower) generates streamed store
    isRegular firstSchedule first ranFirst
  obtain ⟨soloToo, progressesToo⟩ := solo_of_run shows (plan.withPercent higher) generates streamed
    store isRegular secondSchedule second ranSecond
  exact ⟨progresses, progressesToo, fun finished finishedToo =>
    ⟨_, _, solo.wait_eq finished, soloToo.wait_eq finishedToo,
      solo.findsNoLess le soloToo finished finishedToo⟩⟩

end Runs

/-- At fifty percent the wrong cell of key 0 is missed, and at one hundred percent it is found, so
that the second error comes one key earlier. -/
theorem higher_percent_finds_no_less_of_half :
    ∃ (first second : ReaderAudit MemoryStore ScriptedSource)
      (firstResult secondResult : ReadResult),
      RanAlone (halfCompared.withPercent 50) twoWrongCells (List.replicate 28 0) first ∧
        RanAlone (halfCompared.withPercent 100) twoWrongCells (List.replicate 23 0) second ∧
        first.reader.wait = some (.ok firstResult) ∧
        second.reader.wait = some (.ok secondResult) ∧
        FindsNoLess first second firstResult secondResult ∧
        first.account.claims.map Prod.snd = [0, 1, 2, 3] ∧ firstResult.errorKeys = [2, 3] ∧
        second.account.claims.map Prod.snd = [0, 1, 2] ∧ secondResult.errorKeys = [0, 2] := by
  have known : (replay work (⟨(halfCompared.withPercent 50).idle.spawn .seed 1 0.0,
      ⟨twoWrongCells, none⟩, {}⟩ : ReaderAudit MemoryStore ScriptedSource)
        (List.replicate 28 0)).map (fun audit => (Pool.finished audit.reader,
          audit.account.claims.map Prod.snd, audit.reader.result.errorKeys)) =
            some (true, [0, 1, 2, 3], [2, 3]) := by
    decide +kernel
  have knownToo : (replay work (⟨(halfCompared.withPercent 100).idle.spawn .seed 1 0.0,
      ⟨twoWrongCells, none⟩, {}⟩ : ReaderAudit MemoryStore ScriptedSource)
        (List.replicate 23 0)).map (fun audit => (Pool.finished audit.reader,
          audit.account.claims.map Prod.snd, audit.reader.result.errorKeys)) =
            some (true, [0, 1, 2], [0, 2]) := by
    decide +kernel
  obtain ⟨first, replayed, seen⟩ := Option.map_eq_some_iff.mp known
  obtain ⟨second, replayedToo, seenToo⟩ := Option.map_eq_some_iff.mp knownToo
  simp only [Prod.mk.injEq] at seen seenToo
  have ran : RanAlone (halfCompared.withPercent 50) twoWrongCells (List.replicate 28 0) first :=
    ⟨_, ⟨(halfCompared.withPercent 50).ready, 0.0, rfl, rfl⟩, replayed⟩
  have ranToo : RanAlone (halfCompared.withPercent 100) twoWrongCells (List.replicate 23 0)
      second := ⟨_, ⟨(halfCompared.withPercent 100).ready, 0.0, rfl, rfl⟩, replayedToo⟩
  obtain ⟨_, _, ends⟩ := higher_percent_finds_no_less (memoryStore_shows twoWrongCells) halfCompared
    3 rfl (by decide) halfCompared_generates 50 100 (by decide) twoWrongCells rfl _ first ran _
    second ranToo
  obtain ⟨firstResult, secondResult, waited, waitedToo, findsNoLess⟩ := ends seen.1 seenToo.1
  refine ⟨first, second, firstResult, secondResult, ran, ranToo, waited, waitedToo, findsNoLess,
    seen.2.1, ?_, seenToo.2.1, ?_⟩
  · rw [(Reader.wait_eq_ok first.reader firstResult waited).2]
    exact seen.2.2
  · rw [(Reader.wait_eq_ok second.reader secondResult waitedToo).2]
    exact seenToo.2.2

end ReaderAudit

end LoadVerifier
