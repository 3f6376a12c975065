/-
This file proves that a full read pass finds exactly the bad keys, in every schedule: no corruption
is missed and no clean key is reported.

The reader is not linked to a writer, compares every row, and nobody asks it to stop; the rows do
not change, and every key of the range has a record. Then every worker is on course at every moment:
it waits for nobody, it holds what the snapshot shows, and it never crashes. So each key that is
done with has the fate that the snapshot decides, and the reader is asked to stop only by its own
abort. Which keys are reached before an abort depends on the schedule; whether there is one does
not, because a reader that does not abort goes through the whole range.
-/
import LoadVerifier.Proofs.ReaderProgress
import LoadVerifier.Proofs.ReaderReport
import LoadVerifier.Proofs.SteadyRows
import Mathlib.Data.List.Sort

namespace LoadVerifier

open LoadVerifier.Random

namespace ReaderAudit

open Pool (Moved)

variable {Storage Source : Type} {snapshot : Snapshot} {regular : Storage → Prop}
  {plan : ReadPlan} {audit next : ReaderAudit Storage Source} {worker : Nat}

/-! ### Being on course -/

/-- A worker that compares every row holds what the snapshot shows, and waits for nobody. Only the
worker that aborts the reader asks it to stop. -/
def OnCourse (plan : ReadPlan) (snapshot : Snapshot) (aborted : Bool) :
    Position ReaderTask → Prop
  | .working task =>
    match task with
    | .seed | .checkStop _ | .claim _ | .verified _ _ | .recordError _ _ _ | .abort _ _ => True
    | .stopPool _ _ => aborted = true
    | .read _ key verify => verify = true ∧ plan.range.start ≤ key ∧ key < plan.range.limit
    | .countRead _ key verify row | .countRow _ key verify row =>
      verify = true ∧ (plan.range.start ≤ key ∧ key < plan.range.limit) ∧
        ∃ shown, snapshot key = some shown ∧ row.map ColumnMap.find? = shown.map ColumnMap.find?
    | .look _ _ _ | .askFinished _ _ _ | .lookAgain _ _ | .unreachable _ _ | .pause _ _ _ => False
  | .crashed _ => False
  | .leaving crash | .left crash => crash = none

theorem onCourse_mono {before after : Bool} (grows : before = true → after = true)
    (position : Position ReaderTask) (onCourse : OnCourse plan snapshot before position) :
    OnCourse plan snapshot after position := by
  cases position with
  | working task =>
    cases task with
    | stopPool stream errors => exact grows onCourse
    | _ => exact onCourse
  | _ => exact onCourse

/-- A reader that verifies every row of a snapshot. -/
structure Verifying (regular : Storage → Prop) (plan : ReadPlan) (snapshot : Snapshot)
    (audit : ReaderAudit Storage Source) : Prop where
  kept : Kept plan audit
  regular : regular audit.world.store
  unlinked : audit.world.source = none
  bounds_eq : audit.reader.state.bounds = plan.bounds
  seed_eq : audit.reader.state.seed = plan.seed
  verifyPercent_eq : audit.reader.state.verifyPercent = 100
  fates : ∀ entry ∈ audit.account.fates, entry.2 = plan.fateOf snapshot entry.1
  stopped : audit.reader.shared.stopRequested = true → audit.reader.state.aborted = true
  onCourse : ∀ worker position, audit.reader.position? worker = some position →
    OnCourse plan snapshot audit.reader.state.aborted position

section Steps

variable [Store Storage]

theorem Change.settings (change : Change audit worker next) :
    next.reader.state.bounds = audit.reader.state.bounds ∧
      next.reader.state.seed = audit.reader.state.seed ∧
      next.reader.state.verifyPercent = audit.reader.state.verifyPercent ∧
      (audit.reader.state.aborted = true → next.reader.state.aborted = true) := by
  cases change with
  | aborted reader stream errors unaborted moved shared state =>
    rw [state]
    exact ⟨rfl, rfl, rfl, fun _ => rfl⟩
  | _ =>
    rename_i state
    rw [state]
    exact ⟨rfl, rfl, rfl, id⟩

/-- A worker of a verifying reader stays on course. -/
theorem Change.onCourse (change : Change audit worker next)
    (shows : Shows Storage snapshot regular) (seed : Int) (seeded : plan.seed = .value seed)
    (nonneg : 0 ≤ seed) (generates : plan.Generates)
    (verifying : Verifying regular plan snapshot audit) :
    ∃ before after, Moved audit.reader next.reader worker before after ∧
      OnCourse plan snapshot next.reader.state.aborted after := by
  obtain ⟨kept, isRegular, unlinked, bounds, seedEq, percent, _, _, onCourse⟩ := verifying
  obtain ⟨cursor, known, ranged, _⟩ := kept.claimed
  cases change with
  | wandered reader before after wanders moved shared state =>
    refine ⟨before, after, moved, ?_⟩
    have own := onCourse worker before moved.position_eq
    cases wanders with
    | unseeded crash failed =>
      obtain ⟨stream, drawn⟩ := ReaderLife.streamOf_eq_ok seed worker nonneg
      rw [seedEq, seeded, drawn] at failed
      cases failed
    | baseless stream unknown => exact absurd (known.symm.trans unknown) (Option.some_ne_none _)
    | stopSeen => rfl
    | usedUp => rfl
    | left crash => exact own
    | _ => trivial
  | claimed reader stream claimable found left moved shared state =>
    refine ⟨_, _, moved, ?_⟩
    cases known.symm.trans found
    rw [unlinked, Option.isSome_none, if_neg Bool.false_ne_true, ReaderLife.readTask_eq, percent]
    exact ⟨decision_hundred stream, ranged ▸ cursor.start_le_next, ranged ▸ left⟩
  | read reader stream key verify row answer moved shared state =>
    refine ⟨_, _, moved, ?_⟩
    obtain ⟨compared, inside⟩ := onCourse worker _ moved.position_eq
    have shown := (shows audit.world.store ⟨.reader, worker⟩ key isRegular).2
    rw [answer] at shown
    exact ⟨compared, inside, shown⟩
  | broke reader stream key verify crash answer moved shared state =>
    have shown := (shows audit.world.store ⟨.reader, worker⟩ key isRegular).2
    rw [answer] at shown
    exact absurd shown id
  | countedRead reader stream key verify row moved shared state =>
    exact ⟨_, _, moved, onCourse worker _ moved.position_eq⟩
  | countedRow reader stream key verify row moved shared state =>
    refine ⟨_, _, moved, ?_⟩
    obtain ⟨rfl, ⟨low, high⟩, _⟩ := onCourse worker _ moved.position_eq
    have fate := fateOfRow_cases key row plan.bounds (generates key low high)
    rw [bounds]
    revert fate
    refine judge_cases stream key true row plan.bounds
      (motive := fun fate move => (fate = .missing ∨ fate = .matched ∨ fate = .mismatched) →
        OnCourse plan snapshot reader.state.aborted (Pool.positionAfter move))
      (fun _ => trivial) (fun _ => trivial) (fun _ => trivial) (fun _ _ => trivial)
      fun crash impossible => ?_
    rcases impossible with equal | equal | equal <;> cases equal
  | aborted reader stream errors unaborted moved shared state =>
    exact ⟨_, _, moved, by rw [state]; rfl⟩
  | waited reader before after key source waits linked moved shared state =>
    have own := onCourse worker _ moved.position_eq
    cases waits <;> exact absurd own id
  | gaveUp reader stream key delay stopped moved shared state =>
    exact absurd (onCourse worker _ moved.position_eq) id
  | missed reader stream key moved shared state =>
    exact absurd (onCourse worker _ moved.position_eq) id
  | reported reader crash moved shared state =>
    exact absurd (onCourse worker _ moved.position_eq) id
  | erred reader stream key problems moved shared state =>
    refine ⟨_, _, moved, ?_⟩
    split <;> trivial
  | _ =>
    rename_i moved _ _
    exact ⟨_, _, moved, trivial⟩

/-- A key gets the fate that the snapshot decides. -/
theorem Change.fates (change : Change audit worker next) (shows : Shows Storage snapshot regular)
    (verifying : Verifying regular plan snapshot audit) :
    ∀ entry ∈ next.account.fates, entry.2 = plan.fateOf snapshot entry.1 := by
  obtain ⟨_, isRegular, _, bounds, _, _, fates, _, onCourse⟩ := verifying
  have closed : ∀ key fate, fate = plan.fateOf snapshot key →
      ∀ entry ∈ (audit.account.close key fate).fates, entry.2 = plan.fateOf snapshot entry.1 := by
    intro key fate decided entry member
    rcases List.mem_append.mp member with old | new
    · exact fates entry old
    · cases List.mem_singleton.mp new
      exact decided
  cases change with
  | gaveUp reader stream key delay stopped moved shared state =>
    exact absurd (onCourse worker _ moved.position_eq) id
  | missed reader stream key moved shared state =>
    exact absurd (onCourse worker _ moved.position_eq) id
  | refused reader stream key verify failure answer moved shared state =>
    have shown := (shows audit.world.store ⟨.reader, worker⟩ key isRegular).2
    rw [answer] at shown
    refine closed key _ ?_
    rw [ReadPlan.fateOf, show snapshot key = none from shown]
  | broke reader stream key verify crash answer moved shared state =>
    have shown := (shows audit.world.store ⟨.reader, worker⟩ key isRegular).2
    rw [answer] at shown
    exact absurd shown id
  | countedRow reader stream key verify row moved shared state =>
    obtain ⟨rfl, _, shown, shownEq, same⟩ := onCourse worker _ moved.position_eq
    refine closed key _ ?_
    rw [ReadPlan.fateOf, shownEq, bounds]
    exact fateOfRow_congr key row shown plan.bounds same
  | _ => exact fates

/-- Nothing but the reads of the workers changes the store. -/
theorem Change.world (change : Change audit worker next) (shows : Shows Storage snapshot regular)
    (isRegular : regular audit.world.store) (unlinked : audit.world.source = none) :
    regular next.world.store ∧ next.world.source = none := by
  cases change with
  | waited reader before after key source waits linked moved shared state =>
    rw [unlinked, Option.isSome_none, Option.isSome_eq_false_iff, Option.isNone_iff_eq_none]
      at linked
    exact ⟨isRegular, linked⟩
  | read reader stream key => exact ⟨(shows _ _ key isRegular).1, unlinked⟩
  | refused reader stream key => exact ⟨(shows _ _ key isRegular).1, unlinked⟩
  | broke reader stream key => exact ⟨(shows _ _ key isRegular).1, unlinked⟩
  | _ => exact ⟨isRegular, unlinked⟩

/-- A verifying reader is asked to stop only when it is aborted. -/
theorem Change.stopped (change : Change audit worker next)
    (verifying : Verifying regular plan snapshot audit)
    (stopped : next.reader.shared.stopRequested = true) :
    next.reader.state.aborted = true := by
  refine change.settings.2.2.2 ?_
  rcases change.asked stopped with before | ⟨stream, errors, found⟩ | ⟨crash, found⟩
  · exact verifying.stopped before
  · exact verifying.onCourse worker _ found
  · exact absurd (verifying.onCourse worker _ found) id

/-- Every step of a worker goes on verifying. -/
theorem Verifying.work [WatermarkSource Source] (verifying : Verifying regular plan snapshot audit)
    (shows : Shows Storage snapshot regular) (seed : Int) (seeded : plan.seed = .value seed)
    (nonneg : 0 ≤ seed) (generates : plan.Generates) (worked : audit.work worker = some next) :
    Verifying regular plan snapshot next := by
  have change := change_of_work audit next worker worked
  obtain ⟨bounds, seedEq, percent, abortedMono⟩ := change.settings
  obtain ⟨isRegular, unlinked⟩ := change.world shows verifying.regular verifying.unlinked
  obtain ⟨before, after, moved, own⟩ := change.onCourse shows seed seeded nonneg generates verifying
  exact {
    kept := verifying.kept.step (.work worker) worked
    regular := isRegular
    unlinked := unlinked
    bounds_eq := bounds.trans verifying.bounds_eq
    seed_eq := seedEq.trans verifying.seed_eq
    verifyPercent_eq := percent.trans verifying.verifyPercent_eq
    fates := change.fates shows verifying
    stopped := change.stopped verifying
    onCourse := moved.forall_positions (fun other position found =>
      onCourse_mono abortedMono position (verifying.onCourse other position found)) own }

end Steps

/-- A verifying reader that has just started. -/
theorem verifying_of_starts (percent : plan.verifyPercent = 100) (threads : Int) (reader : Reader)
    (starts : plan.Starts threads reader) (store : Storage) (isRegular : regular store) :
    Verifying regular plan snapshot (⟨reader, ⟨store, none⟩, {}⟩ : ReaderAudit Storage Source) := by
  have kept := kept_of_starts plan threads reader starts
    (⟨store, none⟩ : ReaderWorld Storage Source)
  obtain ⟨_, _, now, rfl⟩ := plan.eq_spawn_of_starts threads reader starts
  refine ⟨kept, isRegular, rfl, rfl, rfl, percent,
    fun entry member => absurd member List.not_mem_nil, fun stopped => absurd stopped
      Bool.false_ne_true, fun worker position found => ?_⟩
  rw [Pool.eq_of_position?_spawn _ _ _ _ _ _ found]
  trivial

/-! ### The end -/

section End

variable (verifying : Verifying regular plan snapshot audit)
  (finished : Pool.finished audit.reader = true)

include verifying

/-- Nobody crashes. -/
theorem Verifying.sound (worker : Nat) (crash : Crash) :
    audit.reader.position? worker ≠ some (.left (some crash)) := by
  intro found
  have none : some crash = none := verifying.onCourse worker _ found
  cases none

/-- A key has a fate if and only if it is claimed, and it is the fate that the snapshot decides. -/
theorem Verifying.mem_fates_iff (finished : Pool.finished audit.reader = true) (key : Int)
    (fate : Fate) :
    (key, fate) ∈ audit.account.fates ↔
      key ∈ audit.account.claims.map Prod.snd ∧ fate = plan.fateOf snapshot key := by
  have keys := Multiset.coe_eq_coe.mp (verifying.kept.keys_eq finished)
  constructor
  · intro member
    exact ⟨keys.mem_iff.mpr (List.mem_map.mpr ⟨_, member, rfl⟩), verifying.fates _ member⟩
  · rintro ⟨claimed, rfl⟩
    obtain ⟨⟨_, other⟩, member, rfl⟩ := List.mem_map.mp (keys.mem_iff.mp claimed)
    rw [← verifying.fates _ member]
    exact member

/-- The keys of one fate are the claimed keys for which the snapshot decides it. -/
theorem Verifying.mem_keysOf_iff (finished : Pool.finished audit.reader = true) (key : Int)
    (fate : Fate) :
    key ∈ audit.account.keysOf fate ↔
      key ∈ audit.account.claims.map Prod.snd ∧ fate = plan.fateOf snapshot key := by
  rw [audit.account.mem_keysOf_iff, verifying.mem_fates_iff finished]

theorem Verifying.range_of_claimed (key : Int) (claimed : key ∈ audit.account.claims.map Prod.snd) :
    key ∈ Int.range plan.range.start plan.range.limit := by
  obtain ⟨cursor, _, ranged, keys⟩ := verifying.kept.claimed
  rw [keys, Int.mem_range_iff] at claimed
  exact Int.mem_range_iff.mpr ⟨claimed.1, claimed.2.trans_le (ranged ▸ cursor.next_le_limit)⟩

/-- A reader that is not aborted is completed. -/
theorem Verifying.running_of_not_aborted (unaborted : audit.reader.result.status ≠ .aborted) :
    audit.reader.shared.stopRequested = false ∧ audit.reader.result.status = .completed := by
  have aborted : audit.reader.state.aborted = false := by
    rw [Bool.eq_false_iff]
    intro isAborted
    exact unaborted (by rw [Reader.result, Reader.status, isAborted]; rfl)
  have running : audit.reader.shared.stopRequested = false := by
    rw [Bool.eq_false_iff]
    intro stopped
    exact Bool.noConfusion (aborted.symm.trans (verifying.stopped stopped))
  exact ⟨running, (status_eq_completed_iff audit.reader).mpr ⟨aborted, running⟩⟩

include finished

/-- Only bad keys are reported. -/
theorem Verifying.bad_of_reported (key : Int) (reported : key ∈ audit.reader.result.errorKeys) :
    key ∈ plan.badKeys snapshot := by
  obtain ⟨fate, member, wrong⟩ := (mem_keysWith_iff _ _ key).mp
    ((verifying.kept.mem_errorKeys_iff finished key).mp reported)
  obtain ⟨claimed, rfl⟩ := (verifying.mem_fates_iff finished key fate).mp member
  refine List.mem_filter.mpr ⟨verifying.range_of_claimed key claimed, ?_⟩
  exact decide_eq_true ((plan.bad_iff snapshot key).mpr wrong)

/-- So there are no more errors than bad keys. -/
theorem Verifying.errors_le : audit.reader.result.errors ≤ (plan.badKeys snapshot).length := by
  have exactly := verifying.kept.exact finished verifying.sound
  rw [exactly.errors_eq_length]
  exact Int.ofNat_le.mpr (List.Subperm.length_le (List.subperm_of_subset
    (exactly.ascending.imp ne_of_lt) (verifying.bad_of_reported finished)))

/-- A reader that is not aborted reports every bad key. -/
theorem Verifying.errorKeys_eq (unaborted : audit.reader.result.status ≠ .aborted) :
    audit.reader.result.errorKeys = plan.badKeys snapshot := by
  have exactly := verifying.kept.exact finished verifying.sound
  have all := verifying.kept.claimed_of_running finished verifying.sound
    (verifying.running_of_not_aborted unaborted).1
  refine exactly.ascending.eq_of_mem_iff ((ascending_range _ _).filter _) fun key => ?_
  refine ⟨verifying.bad_of_reported finished key, fun bad => ?_⟩
  obtain ⟨inside, isBad⟩ := List.mem_filter.mp bad
  refine (verifying.kept.mem_errorKeys_iff finished key).mpr ((mem_keysWith_iff _ _ key).mpr ?_)
  exact ⟨_, (verifying.mem_fates_iff finished key _).mpr ⟨all ▸ inside, rfl⟩,
    (plan.bad_iff snapshot key).mp (of_decide_eq_true isBad)⟩

theorem Verifying.keysOf_eq_nil (fate : Fate)
    (never : ∀ key ∈ Int.range plan.range.start plan.range.limit,
      plan.fateOf snapshot key ≠ fate) : audit.account.keysOf fate = [] := by
  refine List.eq_nil_iff_forall_not_mem.mpr fun key member => ?_
  obtain ⟨claimed, rfl⟩ := (verifying.mem_keysOf_iff finished key fate).mp member
  exact never key (verifying.range_of_claimed key claimed) rfl

/-- A reader that is not aborted finds every refused read. -/
theorem Verifying.length_unreadable (generates : plan.Generates)
    (unaborted : audit.reader.result.status ≠ .aborted) :
    (audit.account.keysOf .unreadable).length = (plan.refusedKeys snapshot).length := by
  have all := verifying.kept.claimed_of_running finished verifying.sound
    (verifying.running_of_not_aborted unaborted).1
  refine List.Perm.length_eq ((List.perm_ext_iff_of_nodup
    (nodup_keysWith _ _ (verifying.kept.nodup_fates finished))
    ((nodup_range _ _).filter _)).mpr fun key => ?_)
  rw [← ReadAccount.keysOf, verifying.mem_keysOf_iff finished, all, List.mem_filter,
    decide_eq_true_eq]
  refine and_congr_right fun inside => ?_
  rcases generates.fateOf_cases snapshot key inside with ⟨refused, fate⟩ | ⟨shown, fate⟩
  · exact iff_of_true fate.symm refused
  · refine iff_of_false (fun equal => ?_) shown
    rw [← equal] at fate
    rcases fate with impossible | impossible | impossible <;> cases impossible

/-- A reader that is not aborted has come to one of four ends with every key of the range. -/
theorem Verifying.length_fates (generates : plan.Generates)
    (unaborted : audit.reader.result.status ≠ .aborted) :
    (audit.account.keysOf .unreadable).length + (audit.account.keysOf .missing).length +
        (audit.account.keysOf .mismatched).length + (audit.account.keysOf .matched).length =
      plan.range.size := by
  have all := verifying.kept.claimed_of_running finished verifying.sound
    (verifying.running_of_not_aborted unaborted).1
  have keys := Multiset.coe_eq_coe.mp (verifying.kept.keys_eq finished)
  have four := audit.account.length_keysWith_eq_sum
    (fun fate => fate.isError || Fate.is .matched fate)
    [.unreadable, .missing, .mismatched, .matched] fun fate => by cases fate <;> rfl
  have every : audit.account.fates.filter
      (fun entry => entry.2.isError || Fate.is .matched entry.2) = audit.account.fates := by
    refine List.filter_eq_self.mpr fun entry member => ?_
    obtain ⟨claimed, fate⟩ := (verifying.mem_fates_iff finished entry.1 entry.2).mp member
    rw [fate]
    rcases generates.fateOf_cases snapshot entry.1
        (verifying.range_of_claimed entry.1 claimed) with
      ⟨_, equal⟩ | ⟨_, equal | equal | equal⟩ <;> rw [equal] <;> rfl
  rw [keysWith, every, ← keys.length_eq, all, length_range] at four
  simp only [List.map_cons, List.map_nil, List.sum_cons, List.sum_nil] at four
  rw [KeyRange.size]
  omega

/-- What a reader reports that is not aborted. -/
theorem Verifying.result_eq (generates : plan.Generates)
    (unaborted : audit.reader.result.status ≠ .aborted) :
    audit.reader.result = {
      status := .completed
      keysRead := plan.range.size - (plan.refusedKeys snapshot).length
      verified := plan.range.size - (plan.badKeys snapshot).length
      errors := (plan.badKeys snapshot).length
      unreachable := 0
      errorKeys := plan.badKeys snapshot } := by
  have exactly := verifying.kept.exact finished verifying.sound
  have status := (verifying.running_of_not_aborted unaborted).2
  have errorKeys := verifying.errorKeys_eq finished unaborted
  have refused := verifying.length_unreadable finished generates unaborted
  have four := verifying.length_fates finished generates unaborted
  have never : ∀ fate, fate = .unchecked ∨ fate = .unreachable →
      audit.account.keysOf fate = [] := by
    intro fate excluded
    refine verifying.keysOf_eq_nil finished fate fun key inside equal => ?_
    rcases generates.fateOf_cases snapshot key inside with ⟨_, other⟩ | ⟨_, other | other | other⟩
    all_goals
      rw [equal] at other
      rcases excluded with rfl | rfl <;> cases other
  have read := exactly.keysRead_eq
  have rows := exactly.numKeys_eq
  have verified := exactly.verified_eq
  have unreachable := exactly.unreachable_eq
  have errors := exactly.errors_eq
  have counted := exactly.errors_eq_length
  rw [never .unchecked (Or.inl rfl), List.length_nil] at rows
  rw [never .unreachable (Or.inr rfl), List.length_nil] at unreachable
  rw [errorKeys] at counted
  generalize audit.reader.result = result at *
  obtain ⟨_, _, _, _, _, _⟩ := result
  simp only [ReadResult.mk.injEq] at *
  refine ⟨status, ?_, ?_, counted, unreachable, errorKeys⟩
  · omega
  · omega

/-- A reader that finds no more bad keys than errors allowed reports them all. -/
theorem Verifying.result_of_tolerated (generates : plan.Generates)
    (tolerated : (plan.badKeys snapshot).length ≤ plan.maxErrors) :
    audit.reader.result = {
      status := .completed
      keysRead := plan.range.size - (plan.refusedKeys snapshot).length
      verified := plan.range.size - (plan.badKeys snapshot).length
      errors := (plan.badKeys snapshot).length
      unreachable := 0
      errorKeys := plan.badKeys snapshot } := by
  refine verifying.result_eq finished generates fun aborted => ?_
  have exceeding := (verifying.kept.exact finished verifying.sound).aborted_iff.mp aborted
  have within := verifying.errors_le finished
  omega

theorem Verifying.wait_eq : audit.reader.wait = some (.ok audit.reader.result) :=
  verifying.kept.wait_of_sound finished verifying.sound

end End

section Runs

variable [Store Storage] [WatermarkSource Source]

/-- A worker on course waits for no writer. -/
theorem not_waitsAt_of_onCourse {aborted : Bool} (position : Position ReaderTask)
    (onCourse : OnCourse plan snapshot aborted position) : ¬WaitsAt position := by
  cases position with
  | working task => cases task <;> first | exact id | exact absurd onCourse id
  | _ => exact id

/-- A verifying reader stays so in every schedule, and no schedule is longer than eight steps for
each key and four for each worker. -/
theorem verifying_of_replay (shows : Shows Storage snapshot regular) (plan : ReadPlan)
    (percent : plan.verifyPercent = 100) (seed : Int) (seeded : plan.seed = .value seed)
    (nonneg : 0 ≤ seed) (generates : plan.Generates) (threads : Int) (reader : Reader)
    (starts : plan.Starts threads reader) (store : Storage) (isRegular : regular store)
    (schedule : List Nat) (audit : ReaderAudit Storage Source)
    (ran : replay work ⟨reader, ⟨store, none⟩, {}⟩ schedule = some audit) :
    Verifying regular plan snapshot audit ∧
      schedule.length ≤ 8 * plan.range.size + 4 * threads.toNat := by
  have start : Verifying regular plan snapshot
      (⟨reader, ⟨store, none⟩, {}⟩ : ReaderAudit Storage Source) :=
    verifying_of_starts percent threads reader starts store isRegular
  have goesOn : ∀ (state : ReaderAudit Storage Source) worker next,
      Verifying regular plan snapshot state → state.work worker = some next →
        Verifying regular plan snapshot next :=
    fun _ _ _ verifying worked => verifying.work shows seed seeded nonneg generates worked
  refine ⟨replay_invariant _ goesOn _ audit schedule start ran, ?_⟩
  have bounded := replay_length_le _ goesOn potential (fun state worker next verifying worked => by
    obtain ⟨cursor, known, _⟩ := verifying.kept.claimed
    exact (change_of_work state next worker worked).potential_lt (by rw [known]; rfl)
      verifying.unlinked fun other position found =>
        not_waitsAt_of_onCourse position (verifying.onCourse other position found))
    _ audit schedule start ran
  rw [potential_of_starts plan threads reader starts] at bounded
  omega

/-- A full read pass over rows that do not change finds exactly the bad keys, in every schedule. It
comes to its end: no schedule is longer than eight steps for each key and four for each worker, and
until the reader is finished some worker has a step. If there are no more bad keys than errors
allowed, the finished reader is completed and reports them all, and has verified all other keys. If
there are more, it is aborted, and reports more errors than allowed, each of them a bad key. -/
theorem full_pass_finds_bad_keys (shows : Shows Storage snapshot regular) (plan : ReadPlan)
    (percent : plan.verifyPercent = 100) (seed : Int) (seeded : plan.seed = .value seed)
    (nonneg : 0 ≤ seed) (generates : plan.Generates) (threads : Int) (reader : Reader)
    (starts : plan.Starts threads reader) (store : Storage) (isRegular : regular store)
    (schedule : List Nat) (audit : ReaderAudit Storage Source)
    (ran : replay work ⟨reader, ⟨store, none⟩, {}⟩ schedule = some audit) :
    schedule.length ≤ 8 * plan.range.size + 4 * threads.toNat ∧
      (Pool.finished audit.reader = false → ∃ worker, (audit.work worker).isSome) ∧
      (Pool.finished audit.reader = true →
        ∃ result, audit.reader.wait = some (.ok result) ∧
          ((plan.badKeys snapshot).length ≤ plan.maxErrors →
            result = {
              status := .completed
              keysRead := plan.range.size - (plan.refusedKeys snapshot).length
              verified := plan.range.size - (plan.badKeys snapshot).length
              errors := (plan.badKeys snapshot).length
              unreachable := 0
              errorKeys := plan.badKeys snapshot }) ∧
          (plan.maxErrors < (plan.badKeys snapshot).length →
            result.status = .aborted ∧ (∀ key ∈ result.errorKeys, key ∈ plan.badKeys snapshot) ∧
              result.errors = result.errorKeys.length ∧ plan.maxErrors < result.errors)) := by
  obtain ⟨verifying, bounded⟩ := verifying_of_replay shows plan percent seed seeded nonneg
    generates threads reader starts store isRegular schedule audit ran
  have kept := verifying.kept
  refine ⟨bounded, fun unfinished => exists_work audit kept.counted kept.some_worker unfinished,
    fun finished => ⟨audit.reader.result, verifying.wait_eq finished,
      verifying.result_of_tolerated finished generates, fun exceeded => ?_⟩⟩
  have exactly := kept.exact finished verifying.sound
  have aborted : audit.reader.result.status = .aborted := by
    by_contra unaborted
    refine unaborted (exactly.aborted_iff.mpr ?_)
    rw [exactly.errors_eq_length, verifying.errorKeys_eq finished unaborted]
    exact exceeded
  exact ⟨aborted, verifying.bad_of_reported finished, exactly.errors_eq_length,
    exactly.aborted_iff.mp aborted⟩

end Runs

/-- Three keys of which every row is compared, with two errors allowed. -/
def fullPass : ReadPlan where
  bounds := .small
  seed := .value 7
  verifyPercent := 100
  maxErrors := 2
  keyWindow := 0
  range := .three

/-- All three records, the second one with a wrong cell. -/
def oneWrongCell : MemoryStore :=
  ((MemoryStore.populate {} .small 0 3).toOption.getD {}).setCell 1 0 []

/-- The third row cannot be read. -/
def oneUnreadable : Faults := { failingReads := [2] }

/-- Two workers take turns until both have left. -/
def turns : List Nat := (List.replicate 10 [0, 1]).flatten ++ [0, 0, 0, 0]

theorem full_pass_finds_wrong_cell_and_refusal :
    ∃ audit : ReaderAudit FaultyStore ScriptedSource,
      replay work ⟨fullPass.idle.spawn .seed 2 0.0,
        ⟨{ memory := oneWrongCell, faults := oneUnreadable }, none⟩, {}⟩ turns = some audit ∧
        audit.reader.wait = some (.ok ⟨.completed, 2, 1, 2, 0, [1, 2]⟩) := by
  have known : (replay work (⟨fullPass.idle.spawn .seed 2 0.0,
      ⟨{ memory := oneWrongCell, faults := oneUnreadable }, none⟩, {}⟩ :
        ReaderAudit FaultyStore ScriptedSource) turns).map
      (fun audit => Pool.finished audit.reader) = some true := by
    decide +kernel
  obtain ⟨audit, ran, finished⟩ := Option.map_eq_some_iff.mp known
  obtain ⟨_, _, ends⟩ := full_pass_finds_bad_keys
    (faultyStore_shows oneWrongCell oneUnreadable rfl) fullPass rfl 7 rfl (by decide)
    (generates_of_isSome fullPass.range fullPass.bounds (by decide +kernel)) 2 _
    ⟨fullPass.ready, 0.0, rfl, rfl⟩ _ ⟨rfl, rfl⟩ turns audit ran
  obtain ⟨result, waited, tolerated, _⟩ := ends finished
  refine ⟨audit, ran, waited.trans (congrArg (fun report => some (Except.ok report)) ?_)⟩
  rw [tolerated (by decide +kernel)]
  decide +kernel

end ReaderAudit

end LoadVerifier
