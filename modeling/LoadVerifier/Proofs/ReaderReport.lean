/-
This file proves that the report of a reader is exact: when all workers have left and none has
crashed, every claimed key has come to one of seven ends, and everything reported follows from the
ends alone. That holds for every store and every source of watermarks, in every schedule, and
whenever the reader is asked to stop.

The counts are exact because the account is in balance. The status is exact because of two flags
that different workers set: the reader is aborted, or some worker is about to abort it, as soon as
the errors exceed the limit; and a worker leaves early, or gives a key up, only after somebody
asked the reader to stop.
-/
import LoadVerifier.Proofs.ReaderAccounts
import LoadVerifier.Store.Faulty

namespace LoadVerifier.ReaderAudit

open LoadVerifier.Random
open Pool (Moved)

variable {Storage Source : Type} {audit next : ReaderAudit Storage Source} {worker : Nat}

/-! ### The flags -/

/-- An error exceeded the limit, and the reader is not aborted for it yet. -/
def abortDue : ReaderTask → Nat
  | .abort _ _ => 1
  | _ => 0

/-- Workers may leave: somebody asked them to stop, or the range is used up. -/
def MayLeave (shared : Shared) : Prop :=
  shared.stopRequested = true ∨
    ∃ cursor, shared.cursor = some cursor ∧ ¬cursor.next < cursor.range.limit

/-- A worker that has not crashed leaves only when it may. -/
def Dismissed (shared : Shared) : Position ReaderTask → Prop
  | .leaving none | .left none => MayLeave shared
  | .working _ | .crashed _ | .leaving (some _) | .left (some _) => True

theorem dismissed_mono {shared later : Shared} (mono : MayLeave shared → MayLeave later)
    (position : Position ReaderTask) (dismissed : Dismissed shared position) :
    Dismissed later position := by
  cases position with
  | working task => trivial
  | crashed crash => trivial
  | leaving crash =>
    cases crash with
    | none => exact mono dismissed
    | some crash => trivial
  | left crash =>
    cases crash with
    | none => exact mono dismissed
    | some crash => trivial

/-- The flags of a reader say what they should: it is aborted, or about to be, when the errors
exceed the limit; a key was given up, and a worker left early, only after somebody asked it to
stop. -/
structure Flagged (maxErrors : Int) (audit : ReaderAudit Storage Source) : Prop where
  maxErrors_eq : audit.reader.state.maxErrors = maxErrors
  exceeded_iff :
    (audit.reader.state.aborted = true ∨ 0 < audit.reader.total (atTask abortDue)) ↔
      maxErrors < audit.reader.state.tally.errors
  givenUp : ∀ key, (key, Fate.givenUp) ∈ audit.account.fates →
    audit.reader.shared.stopRequested = true
  dismissed : ∀ worker position, audit.reader.position? worker = some position →
    Dismissed audit.reader.shared position

section Steps

variable [Store Storage]

/-- Nobody takes back the request to stop. -/
theorem Change.stopRequested (change : Change audit worker next)
    (stopped : audit.reader.shared.stopRequested = true) :
    next.reader.shared.stopRequested = true := by
  cases change with
  | stoppedPool reader stream errors moved shared state => rw [shared]
  | reported reader crash moved shared state => rw [shared]
  | _ =>
    rename_i shared state
    rw [shared]
    exact stopped

/-- Only a worker that is about to, because it aborted the reader or has crashed, asks the reader to
stop. -/
theorem Change.asked (change : Change audit worker next)
    (stopped : next.reader.shared.stopRequested = true) :
    audit.reader.shared.stopRequested = true ∨
      (∃ stream errors,
        audit.reader.position? worker = some (.working (.stopPool stream errors))) ∨
      ∃ crash, audit.reader.position? worker = some (.crashed crash) := by
  cases change with
  | stoppedPool reader stream errors moved shared state =>
    exact Or.inr (Or.inl ⟨stream, errors, moved.position_eq⟩)
  | reported reader crash moved shared state => exact Or.inr (Or.inr ⟨crash, moved.position_eq⟩)
  | _ =>
    rename_i shared _
    rw [shared] at stopped
    exact Or.inl stopped

/-- Workers that may leave may still leave later. -/
theorem Change.mayLeave (change : Change audit worker next)
    (mayLeave : MayLeave audit.reader.shared) : MayLeave next.reader.shared := by
  rcases mayLeave with stopped | ⟨cursor, known, used⟩
  · exact Or.inl (change.stopRequested stopped)
  · refine Or.inr ⟨cursor, ?_, used⟩
    cases change with
    | claimed reader stream claimable found left moved shared state =>
      cases known.symm.trans found
      exact absurd left used
    | _ =>
      rename_i shared state
      rw [shared]
      exact known

/-- What a step does to the errors and to the flag of the abort: nothing, one more error, or the
end of a way to the abort. -/
theorem Change.errors_cases (change : Change audit worker next) :
    next.reader.state.maxErrors = audit.reader.state.maxErrors ∧
      ∃ before after, Moved audit.reader next.reader worker before after ∧
        ((atTask abortDue after = atTask abortDue before ∧
            next.reader.state.aborted = audit.reader.state.aborted ∧
            next.reader.state.tally.errors = audit.reader.state.tally.errors) ∨
          (atTask abortDue before = 0 ∧
            next.reader.state.aborted = audit.reader.state.aborted ∧
            next.reader.state.tally.errors = audit.reader.state.tally.errors + 1 ∧
            atTask abortDue after =
              if (next.reader.state.tally.errors : Int) ≤ audit.reader.state.maxErrors then 0
              else 1) ∨
          (atTask abortDue before = 1 ∧ atTask abortDue after = 0 ∧
            next.reader.state.aborted = true ∧
            next.reader.state.tally.errors = audit.reader.state.tally.errors)) := by
  cases change with
  | wandered reader before after wanders moved shared state =>
    rw [state]
    refine ⟨rfl, before, after, moved, Or.inl ⟨?_, rfl, rfl⟩⟩
    cases wanders <;> rfl
  | claimed reader stream cursor known left moved shared state =>
    rw [state]
    refine ⟨rfl, _, _, moved, Or.inl ⟨?_, rfl, rfl⟩⟩
    split <;> rfl
  | waited reader before after key source waits linked moved shared state =>
    rw [state]
    refine ⟨rfl, _, _, moved, Or.inl ⟨?_, rfl, rfl⟩⟩
    cases waits <;> rfl
  | countedRow reader stream key verify row moved shared state =>
    rw [state]
    refine ⟨rfl, _, _, moved, Or.inl ⟨?_, rfl, rfl⟩⟩
    exact judge_cases stream key verify row audit.reader.state.bounds
      (motive := fun _ move => atTask abortDue (Pool.positionAfter move) = 0)
      rfl rfl rfl (fun _ => rfl) fun _ => rfl
  | erred reader stream key problems moved shared state =>
    rw [state]
    refine ⟨rfl, _, _, moved, Or.inr (Or.inl ⟨rfl, rfl, rfl, ?_⟩)⟩
    rw [apply_ite Position.working, apply_ite (atTask abortDue)]
    rfl
  | foundAborted reader stream errors aborted moved shared state =>
    rw [state]
    exact ⟨rfl, _, _, moved, Or.inr (Or.inr ⟨rfl, rfl, aborted, rfl⟩)⟩
  | aborted reader stream errors unaborted moved shared state =>
    rw [state]
    exact ⟨rfl, _, _, moved, Or.inr (Or.inr ⟨rfl, rfl, rfl, rfl⟩)⟩
  | _ =>
    rename_i moved shared state
    rw [state]
    exact ⟨rfl, _, _, moved, Or.inl ⟨rfl, rfl, rfl⟩⟩

/-- A key is given up only by a worker that was asked to stop. -/
theorem Change.givenUp (change : Change audit worker next)
    (stopped : ∀ key, (key, Fate.givenUp) ∈ audit.account.fates →
      audit.reader.shared.stopRequested = true)
    (key : Int) (member : (key, Fate.givenUp) ∈ next.account.fates) :
    next.reader.shared.stopRequested = true := by
  refine change.stopRequested ?_
  have closed : ∀ other fate, (key, Fate.givenUp) ∈ (audit.account.close other fate).fates →
      fate ≠ .givenUp → audit.reader.shared.stopRequested = true := by
    intro other fate found different
    rcases List.mem_append.mp found with old | new
    · exact stopped key old
    · cases List.mem_singleton.mp new
      exact absurd rfl different
  cases change with
  | gaveUp reader stream other delay isStopped moved shared state => exact isStopped
  | missed => exact closed _ _ member Fate.noConfusion
  | refused => exact closed _ _ member Fate.noConfusion
  | broke => exact closed _ _ member Fate.noConfusion
  | countedRow reader stream other verify row moved shared state =>
    refine closed _ _ member ?_
    exact judge_cases stream other verify row audit.reader.state.bounds
      (motive := fun fate _ => fate ≠ .givenUp)
      Fate.noConfusion Fate.noConfusion Fate.noConfusion (fun _ => Fate.noConfusion)
      fun _ => Fate.noConfusion
  | _ => exact stopped key member

/-- A step makes no worker leave that may not. -/
theorem Change.dismissed (change : Change audit worker next)
    (dismissed : ∀ worker position, audit.reader.position? worker = some position →
      Dismissed audit.reader.shared position) :
    ∀ worker position, next.reader.position? worker = some position →
      Dismissed next.reader.shared position := by
  have mono := dismissed_mono (fun mayLeave => change.mayLeave mayLeave)
  have others : ∀ other position, audit.reader.position? other = some position →
      Dismissed next.reader.shared position :=
    fun other position found => mono position (dismissed other position found)
  cases change with
  | wandered reader before after wanders moved shared state =>
    refine moved.forall_positions others (mono after ?_)
    have own := dismissed worker before moved.position_eq
    cases wanders with
    | stopSeen stream stopped => exact Or.inl stopped
    | usedUp stream cursor known used => exact Or.inr ⟨cursor, known, used⟩
    | left crash => cases crash <;> exact own
    | _ => trivial
  | countedRow reader stream key verify row moved shared state =>
    refine moved.forall_positions others ?_
    exact judge_cases stream key verify row audit.reader.state.bounds
      (motive := fun _ move => Dismissed reader.shared (Pool.positionAfter move))
      trivial trivial trivial (fun _ => trivial) fun _ => trivial
  | _ =>
    rename_i moved _ _
    exact moved.forall_positions others trivial

/-- Every step of a worker keeps the flags what they should be. -/
theorem Change.flagged {maxErrors : Int} (change : Change audit worker next)
    (flagged : Flagged maxErrors audit) : Flagged maxErrors next := by
  obtain ⟨settings, before, after, moved, effect⟩ := change.errors_cases
  have owed := moved.total_add (atTask abortDue)
  have exceeded := flagged.exceeded_iff
  have limit := flagged.maxErrors_eq
  refine ⟨settings.trans limit, ?_, change.givenUp flagged.givenUp,
    change.dismissed flagged.dismissed⟩
  rcases effect with ⟨same, aborted, errors⟩ | ⟨before, aborted, errors, after⟩ |
      ⟨before, after, aborted, errors⟩
  · have totals : next.reader.total (atTask abortDue) = audit.reader.total (atTask abortDue) := by
      omega
    rw [aborted, errors, totals, exceeded]
  · rw [limit] at after
    rw [aborted]
    split at after
    · have totals : next.reader.total (atTask abortDue) =
          audit.reader.total (atTask abortDue) := by omega
      rw [totals, exceeded]
      omega
    · exact iff_of_true (Or.inr (by omega)) (by omega)
  · have way : 0 < audit.reader.total (atTask abortDue) := by omega
    rw [errors, ← exceeded]
    exact iff_of_true (Or.inl aborted) (Or.inr way)

end Steps

/-! ### What holds after every step -/

/-- A reader that keeps its account in balance. -/
structure Kept (plan : ReadPlan) (audit : ReaderAudit Storage Source) : Prop where
  claimed : Claimed plan.range audit
  balanced : Balanced audit
  flagged : Flagged plan.maxErrors audit
  counted : Pool.Counted audit.reader
  some_worker : 0 < Pool.workerCount audit.reader

/-- What becomes of the store and of the source is no affair of the reader. -/
theorem Kept.outside {plan : ReadPlan} (kept : Kept plan audit)
    (world : ReaderWorld Storage Source) : Kept plan { audit with world } := by
  obtain ⟨claimed, balanced, flagged, counted, some_worker⟩ := kept
  exact ⟨claimed, ⟨balanced.1, balanced.2, balanced.3, balanced.4, balanced.5, balanced.6,
    balanced.7, balanced.8, balanced.9⟩, ⟨flagged.1, flagged.2, flagged.3, flagged.4⟩, counted,
    some_worker⟩

/-- Every event keeps the account in balance. -/
theorem Kept.step [Store Storage] [WatermarkSource Source] {plan : ReadPlan}
    (kept : Kept plan audit) (event : AuditEvent Storage Source)
    (happened : audit.step event = some next) : Kept plan next := by
  cases event with
  | work worker =>
    obtain ⟨claimed, balanced, flagged, counted, some_worker⟩ := kept
    have change := change_of_work audit next worker happened
    obtain ⟨booking, before, after, moved, books, settles⟩ := change.booked
    exact ⟨change.claimed_eq_range claimed, balanced.booked moved books settles,
      change.flagged flagged, counted_of_work happened counted,
      moved.workerCount_eq ▸ some_worker⟩
  | stop =>
    obtain ⟨claimed, balanced, flagged, counted, some_worker⟩ := kept
    cases happened
    refine ⟨claimed, ⟨balanced.1, balanced.2, balanced.3, balanced.4, balanced.5, balanced.6,
      balanced.7, balanced.8, balanced.9⟩, ⟨flagged.1, flagged.2, fun _ _ => rfl, ?_⟩,
      ⟨counted.1, counted.2⟩, some_worker⟩
    exact fun worker position found =>
      dismissed_mono (fun _ => Or.inl rfl) position (flagged.dismissed worker position found)
  | outside store source =>
    cases happened
    exact kept.outside _

/-- A reader that has just started owes nothing and has nothing to account for. -/
theorem kept_of_starts (plan : ReadPlan) (threads : Int) (reader : Reader)
    (starts : plan.Starts threads reader) (world : ReaderWorld Storage Source) :
    Kept plan ⟨reader, world, {}⟩ := by
  obtain ⟨possible, ⟨some_thread, _⟩, now, rfl⟩ := plan.eq_spawn_of_starts threads reader starts
  have nothing : ∀ {Weight : Type} [AddCommMonoid Weight] (weight : Position ReaderTask → Weight),
      weight (.working .seed) = 0 → (plan.idle.spawn .seed threads now).total weight = 0 := by
    intro Weight _ weight zero
    rw [Pool.total_spawn, zero, nsmul_zero]
  refine ⟨⟨.ofRange plan.range, rfl, rfl, ?_⟩, ⟨?_, ?_, rfl, ?_, ?_, rfl, ?_, rfl, Nat.zero_le _⟩,
    ⟨rfl, ?_, fun _ member => absurd member List.not_mem_nil, ?_⟩,
    Pool.counted_spawn _ _ _ _ some_thread, ?_⟩
  · show [] = Int.range plan.range.start plan.range.start
    rw [Int.range, sub_self]
    rfl
  · rw [nothing _ rfl]; rfl
  · rw [nothing _ rfl]; rfl
  · rw [nothing _ rfl]; rfl
  · rw [nothing _ rfl]; rfl
  · intro key
    exact iff_of_false Std.TreeSet.not_mem_emptyc List.not_mem_nil
  · rw [nothing _ rfl]
    refine iff_of_false (by rintro (aborted | some); cases aborted; omega) ?_
    exact not_lt.mpr possible.maxErrors_nonneg
  · intro worker position found
    rw [Pool.eq_of_position?_spawn _ _ _ _ _ _ found]
    trivial
  · rw [Pool.workerCount_spawn]
    omega

/-! ### The end -/

/-- The report of a finished reader says exactly what became of its keys. -/
structure Exact (plan : ReadPlan) (audit : ReaderAudit Storage Source) (result : ReadResult) :
    Prop where
  claims_eq : audit.account.claims.map Prod.snd =
    Int.range plan.range.start (plan.range.start + audit.reader.keysClaimed)
  closed : (audit.account.fates.map Prod.fst).Perm (audit.account.claims.map Prod.snd)
  one_fate : ∀ key ∈ audit.account.claims.map Prod.snd,
    ∃! fate, (key, fate) ∈ audit.account.fates
  no_crash : ∀ entry ∈ audit.account.fates, entry.2 ≠ .broken ∧ entry.2 ≠ .ungenerated
  keysRead_eq : result.keysRead = audit.reader.shared.numKeys
  numKeys_eq : audit.reader.shared.numKeys =
    (audit.account.keysOf .missing).length + (audit.account.keysOf .unchecked).length +
      (audit.account.keysOf .matched).length + (audit.account.keysOf .mismatched).length
  verified_eq : result.verified = (audit.account.keysOf .matched).length
  unreachable_eq : result.unreachable = (audit.account.keysOf .unreachable).length
  errors_eq : result.errors =
    ((audit.account.keysOf .unreadable).length + (audit.account.keysOf .missing).length +
      (audit.account.keysOf .mismatched).length : Nat)
  errors_eq_length : result.errors = result.errorKeys.length
  ascending : result.errorKeys.Pairwise (· < ·)
  mem_errorKeys_iff : ∀ key, key ∈ result.errorKeys ↔
    key ∈ audit.account.keysOf .unreadable ∨ key ∈ audit.account.keysOf .missing ∨
      key ∈ audit.account.keysOf .mismatched
  aborted_iff : result.status = .aborted ↔ plan.maxErrors < result.errors
  givenUp : audit.account.keysOf .givenUp ≠ [] → audit.reader.shared.stopRequested = true
  completed : result.status = .completed →
    audit.account.claims.map Prod.snd = Int.range plan.range.start plan.range.limit ∧
      audit.account.keysOf .givenUp = []

/-- A reader is completed when it was not aborted and nobody asked it to stop. -/
theorem status_eq_completed_iff (reader : Reader) :
    reader.status = .completed ↔
      reader.state.aborted = false ∧ reader.shared.stopRequested = false := by
  unfold Reader.status
  cases reader.state.aborted <;> cases reader.shared.stopRequested <;> simp

section End

variable {plan : ReadPlan} (kept : Kept plan audit)
  (finished : Pool.finished audit.reader = true)
  (sound : ∀ worker crash, audit.reader.position? worker ≠ some (.left (some crash)))

include kept finished

/-- In a finished reader nobody owes anything. -/
theorem Kept.nothing_due {Weight : Type} [AddCommMonoid Weight] (due : ReaderTask → Weight) :
    audit.reader.total (atTask due) = 0 :=
  kept.counted.total_of_finished finished (atTask due) fun _ => rfl

theorem Kept.keys_eq : ((audit.account.claims.map Prod.snd : List Int) : Multiset Int) =
    (audit.account.fates.map Prod.fst : List Int) := by
  rw [kept.balanced.keys, kept.nothing_due finished, add_zero]

include sound in
theorem Kept.no_crash : keysWith Fate.isCrash audit.account.fates = [] := by
  have bounded := kept.balanced.crashes
  rw [Pool.total_eq_zero crashAt audit.reader fun worker position found => by
    obtain ⟨crash, rfl⟩ := kept.counted.left_of_finished finished worker position found
    cases crash with
    | none => rfl
    | some crash => exact absurd found (sound worker crash)] at bounded
  exact List.eq_nil_of_length_eq_zero (Nat.le_zero.mp bounded)

theorem Kept.errors_eq : audit.reader.state.tally.errors =
    (keysWith Fate.isError audit.account.fates).length := by
  have equal := kept.balanced.errors
  rw [kept.nothing_due finished, add_zero] at equal
  rw [kept.balanced.errors_eq, (Multiset.coe_eq_coe.mp equal).length_eq]

theorem Kept.mem_errorKeys_iff (key : Int) :
    key ∈ audit.reader.state.tally.errorKeys.toList ↔
      key ∈ keysWith Fate.isError audit.account.fates := by
  have equal := kept.balanced.errors
  rw [kept.nothing_due finished, add_zero] at equal
  rw [Std.TreeSet.mem_toList, kept.balanced.errorKeys, (Multiset.coe_eq_coe.mp equal).mem_iff]

theorem Kept.nodup_fates : (audit.account.fates.map Prod.fst).Nodup := by
  obtain ⟨cursor, _, _, keys⟩ := kept.claimed
  rw [← (Multiset.coe_eq_coe.mp (kept.keys_eq finished)).nodup_iff, keys]
  exact nodup_range _ _

/-- The keys with errors are reported once each. -/
theorem Kept.length_errorKeys : audit.reader.state.tally.errorKeys.toList.length =
    (keysWith Fate.isError audit.account.fates).length := by
  have distinct : audit.reader.state.tally.errorKeys.toList.Nodup :=
    (Std.TreeSet.ordered_toList.imp fun less => Std.compare_eq_lt.mp less).imp ne_of_lt
  refine List.Perm.length_eq ((List.perm_ext_iff_of_nodup distinct ?_).mpr
    (kept.mem_errorKeys_iff finished))
  exact nodup_keysWith _ _ (kept.nodup_fates finished)

theorem Kept.status_aborted_iff : audit.reader.status = .aborted ↔
    plan.maxErrors < audit.reader.state.tally.errors := by
  rw [← kept.flagged.exceeded_iff, kept.nothing_due finished, Reader.status]
  cases audit.reader.state.aborted with
  | true => simp
  | false => cases audit.reader.shared.stopRequested <;> simp

include sound in
/-- Waiting for a finished reader in which nobody crashed gives its report. -/
theorem Kept.wait_of_sound : audit.reader.wait = some (.ok audit.reader.result) := by
  rw [Reader.wait, kept.counted.join_eq_ok _ finished sound]
  rfl

include sound in
/-- A reader that was not asked to stop has claimed its whole range. -/
theorem Kept.claimed_of_running (running : audit.reader.shared.stopRequested = false) :
    audit.account.claims.map Prod.snd = Int.range plan.range.start plan.range.limit := by
  obtain ⟨position, found⟩ := Pool.exists_position_of_lt audit.reader 0 kept.some_worker
  obtain ⟨crash, rfl⟩ := kept.counted.left_of_finished finished 0 position found
  cases crash with
  | some crash => exact absurd found (sound 0 crash)
  | none =>
    obtain ⟨cursor, known, ranged, keys⟩ := kept.claimed
    rcases kept.flagged.dismissed 0 _ found with stopped | ⟨other, otherKnown, used⟩
    · rw [running] at stopped
      cases stopped
    · cases known.symm.trans otherKnown
      rw [keys, le_antisymm cursor.next_le_limit (not_lt.mp used), ranged]

/-- Every claimed key has one fate, and no other key has any. -/
theorem Kept.one_fate (key : Int) (claimed : key ∈ audit.account.claims.map Prod.snd) :
    ∃! fate, (key, fate) ∈ audit.account.fates := by
  rw [(Multiset.coe_eq_coe.mp (kept.keys_eq finished)).mem_iff] at claimed
  obtain ⟨⟨_, fate⟩, member, rfl⟩ := List.mem_map.mp claimed
  refine ⟨fate, member, fun other otherMember => ?_⟩
  have same := List.inj_on_of_nodup_map (kept.nodup_fates finished) otherMember member rfl
  exact congrArg Prod.snd same

include sound in
/-- The report of a finished reader in which nobody crashed is exact. -/
theorem Kept.exact : Exact plan audit audit.reader.result := by
  have noCrash : ∀ entry ∈ audit.account.fates, entry.2.isCrash = false := by
    intro entry member
    rw [Bool.eq_false_iff]
    intro crashed
    have listed := (mem_keysWith_iff Fate.isCrash audit.account.fates entry.1).mpr
      ⟨entry.2, member, crashed⟩
    rw [kept.no_crash finished sound] at listed
    exact List.not_mem_nil listed
  have rows := audit.account.length_keysWith_eq_sum Fate.isRow
    [.missing, .unchecked, .matched, .mismatched, .ungenerated] fun fate => by cases fate <;> rfl
  have errors := audit.account.length_keysWith_eq_sum Fate.isError
    [.unreadable, .missing, .mismatched] fun fate => by cases fate <;> rfl
  have ungenerated : audit.account.keysOf .ungenerated = [] :=
    List.eq_nil_iff_forall_not_mem.mpr fun key member =>
      Bool.noConfusion (noCrash _ ((audit.account.mem_keysOf_iff _ key).mp member))
  simp only [List.map_cons, List.map_nil, List.sum_cons, List.sum_nil] at rows errors
  refine ⟨?_, ?_, kept.one_fate finished, fun entry member => ?_, ?_, ?_, ?_, ?_, ?_, ?_, ?_,
    fun key => ?_, ?_, fun some => ?_, fun completed => ?_⟩
  · obtain ⟨cursor, known, ranged, keys⟩ := kept.claimed
    rw [keys, Pool.keysClaimed, known, ← ranged]
    exact congrArg _ (add_sub_cancel _ _).symm
  · exact (Multiset.coe_eq_coe.mp (kept.keys_eq finished)).symm
  · have sane := noCrash entry member
    constructor
    all_goals
      intro crashed
      rw [crashed] at sane
      cases sane
  · have read := kept.balanced.rows
    rw [kept.nothing_due finished, add_zero] at read
    exact congrArg _ read
  · rw [kept.balanced.counted, rows, ungenerated, List.length_nil]
    omega
  · have verified := kept.balanced.matched
    rw [kept.nothing_due finished, add_zero] at verified
    exact congrArg _ verified.symm
  · exact congrArg _ kept.balanced.unreachable
  · refine congrArg _ ((kept.errors_eq finished).trans ?_)
    omega
  · exact congrArg _ ((kept.errors_eq finished).trans (kept.length_errorKeys finished).symm)
  · exact Std.TreeSet.ordered_toList.imp fun less => Std.compare_eq_lt.mp less
  · rw [Reader.result, kept.mem_errorKeys_iff finished, mem_keysWith_iff,
      audit.account.mem_keysOf_iff, audit.account.mem_keysOf_iff, audit.account.mem_keysOf_iff]
    constructor
    · rintro ⟨fate, member, wrong⟩
      cases fate with
      | unreadable => exact Or.inl member
      | missing => exact Or.inr (Or.inl member)
      | mismatched => exact Or.inr (Or.inr member)
      | _ => cases wrong
    · rintro (member | member | member)
      · exact ⟨_, member, rfl⟩
      · exact ⟨_, member, rfl⟩
      · exact ⟨_, member, rfl⟩
  · exact kept.status_aborted_iff finished
  · obtain ⟨key, member⟩ := List.exists_mem_of_ne_nil _ some
    exact kept.flagged.givenUp key ((audit.account.mem_keysOf_iff _ key).mp member)
  · have running := ((status_eq_completed_iff audit.reader).mp completed).2
    refine ⟨kept.claimed_of_running finished sound running, ?_⟩
    refine List.eq_nil_iff_forall_not_mem.mpr fun key member => ?_
    have stopped := kept.flagged.givenUp key ((audit.account.mem_keysOf_iff _ key).mp member)
    rw [running] at stopped
    cases stopped

end End

/-- Whatever the store and the source of watermarks answer, and whoever asks it to stop: when all
workers of a reader have left and none has crashed, waiting for it gives its report, and the report
is exact. Every claimed key has come to one of seven ends, the counts and the keys with errors are
those of the ends, the reader is aborted exactly when the errors exceed the limit, keys were given
up only when somebody asked the reader to stop, and a completed reader has claimed its whole range
and given up nothing. -/
theorem account_exact [Store Storage] [WatermarkSource Source] (plan : ReadPlan) (threads : Int)
    (reader : Reader) (starts : plan.Starts threads reader) (world : ReaderWorld Storage Source)
    (schedule : List (AuditEvent Storage Source)) (audit : ReaderAudit Storage Source)
    (ran : replay step ⟨reader, world, {}⟩ schedule = some audit)
    (finished : Pool.finished audit.reader = true)
    (sound : ∀ worker crash, audit.reader.position? worker ≠ some (.left (some crash))) :
    ∃ result, audit.reader.wait = some (.ok result) ∧ Exact plan audit result := by
  have kept : Kept plan audit := replay_invariant _
    (fun _ event _ kept happened => kept.step event happened) _ audit schedule
    (kept_of_starts plan threads reader starts world) ran
  refine ⟨audit.reader.result, ?_, kept.exact finished sound⟩
  rw [Reader.wait, kept.counted.join_eq_ok _ finished sound]
  rfl

/-- Three keys of which every row is compared, with one error allowed and no window. -/
def threeKeys : ReadPlan where
  bounds := .small
  seed := .value 7
  verifyPercent := 100
  maxErrors := 1
  keyWindow := 0
  range := .three

/-- Two workers, a store that holds the first record only, and a source that stands at the second
key. -/
def twoReaders : ReaderAudit FaultyStore ScriptedSource where
  reader := threeKeys.idle.spawn .seed 2 0.0
  world := {
    store := { memory := ((MemoryStore.populate {} .small 0 1).toOption.getD {}) }
    source := some { mark := 1 } }

/-- The first worker compares the first row; the second one finds no second row, and waits for the
third key until the reader is asked to stop. -/
def stoppedWhileWaiting : List (AuditEvent FaultyStore ScriptedSource) :=
  (List.replicate 8 0 ++ List.replicate 12 1).map AuditEvent.work ++ [AuditEvent.stop] ++
    [1, 1, 1, 0, 0].map AuditEvent.work

theorem account_exact_when_stopped_while_waiting :
    ∃ audit result, replay step twoReaders stoppedWhileWaiting = some audit ∧
      audit.account.fates = [(0, .matched), (1, .missing), (2, .givenUp)] ∧
      result = ⟨.stopped, 2, 1, 1, 0, [1]⟩ ∧
      audit.reader.wait = some (.ok result) ∧ Exact threeKeys audit result := by
  have known : (replay step twoReaders stoppedWhileWaiting).map (fun audit =>
      (Pool.finished audit.reader, audit.account.fates, audit.reader.result,
        (List.range (Pool.workerCount audit.reader)).all fun worker =>
          ((audit.reader.position? worker).bind Roster.leftCrash?).isNone)) =
        some (true, [(0, .matched), (1, .missing), (2, .givenUp)],
          ⟨.stopped, 2, 1, 1, 0, [1]⟩, true) := by
    decide +kernel
  obtain ⟨audit, ran, seen⟩ := Option.map_eq_some_iff.mp known
  rw [Prod.mk.injEq, Prod.mk.injEq, Prod.mk.injEq] at seen
  obtain ⟨finished, fates, reported, all⟩ := seen
  obtain ⟨result, waited, exactly⟩ := account_exact threeKeys 2 _
    ⟨threeKeys.ready, 0.0, rfl, rfl⟩ _ stoppedWhileWaiting audit ran finished
    (Pool.not_crashed_of_all audit.reader all)
  refine ⟨audit, result, ran, fates, ?_, waited, exactly⟩
  rw [← reported]
  rw [Reader.wait, Option.map_eq_some_iff] at waited
  obtain ⟨joined, _, equal⟩ := waited
  cases joined with
  | error failure => cases equal
  | ok done => exact (Except.ok.inj equal).symm

end LoadVerifier.ReaderAudit
