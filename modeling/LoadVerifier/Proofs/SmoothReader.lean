/-
This file follows a reader to which nothing unexpected happens: every key of its range has a record,
and its store breaks no call. Calls may be refused, in any pattern, the source of watermarks may say
what it likes, and at any moment somebody may ask the reader to stop.

Then only one thing can crash a worker: that the seed of the reader and the number of the worker
give no stream to draw from. The crash comes before the worker claims a key. A reader in which
nobody crashed has a good result exactly when nobody asked it to stop, every key of the range was
read and had a row, and no row that was compared differed.
-/
import LoadVerifier.Proofs.FullVerification
import LoadVerifier.Proofs.SmoothWriter

namespace LoadVerifier

open LoadVerifier.Random

/-- Whether a read gave a row for the key. -/
def Fate.hasRow : Fate → Bool
  | .unchecked | .matched | .mismatched | .ungenerated => true
  | .unreadable | .missing | .unreachable | .givenUp | .broken => false

/-- Every key of the range was read and had a row, and no row that was compared differed from the
record of its key. -/
def ReadAccount.Flawless (account : ReadAccount) (range : KeyRange) : Prop :=
  (∀ key, range.start ≤ key → key < range.limit →
      ∃ fate, (key, fate) ∈ account.fates ∧ fate.hasRow = true) ∧
    ∀ key, (key, Fate.mismatched) ∉ account.fates

namespace ReaderAudit

open Pool (Moved Spoiled)

variable {Storage Source : Type} {regular : Storage → Prop} {plan : ReadPlan}
  {audit next : ReaderAudit Storage Source} {worker : Nat}

/-! ### The only crash -/

/-- The key that a worker is not done with is a key of the range. -/
theorem Kept.range_of_open (kept : Kept plan audit) (task : ReaderTask) (key : Int)
    (found : audit.reader.position? worker = some (.working task)) (isOpen : key ∈ openKey task) :
    plan.range.start ≤ key ∧ key < plan.range.limit := by
  have held : key ∈ audit.reader.total (atTask openKey) :=
    (Pool.mem_total_iff audit.reader key).mpr ⟨worker, _, found, isOpen⟩
  obtain ⟨cursor, _, ranged, keys⟩ := kept.claimed
  have claimed : key ∈ ((audit.account.claims.map Prod.snd : List Int) : Multiset Int) := by
    rw [kept.balanced.keys]
    exact Multiset.mem_add.mpr (Or.inr held)
  rw [keys, Multiset.mem_coe, Int.mem_range_iff] at claimed
  exact ⟨claimed.1, claimed.2.trans_le (ranged ▸ cursor.next_le_limit)⟩

/-- A row can be judged when its key has a record. -/
theorem judge_ne_crash (stream : Stream) (key : Int) (verify : Bool) (row : Option Columns)
    (bounds : Bounds) (generates : ∃ record, generate key bounds = .ok record) (crash : Crash) :
    Pool.crash? (Pool.positionAfter (Reader.judge stream key verify row bounds)) ≠ some crash := by
  obtain ⟨record, generated⟩ := generates
  cases row with
  | none => exact nofun
  | some columns =>
    cases verify with
    | false => exact nofun
    | true =>
      simp only [Reader.judge, generated, if_true]
      cases compareColumns record columns <;> exact nofun

/-- A reader in which nobody has crashed but for want of a stream. -/
structure Smooth (plan : ReadPlan) (audit : ReaderAudit Storage Source) : Prop where
  kept : Kept plan audit
  bounds_eq : audit.reader.state.bounds = plan.bounds
  seed_eq : audit.reader.state.seed = plan.seed
  crash_eq : ∀ worker position crash, audit.reader.position? worker = some position →
    Pool.crash? position = some crash → Reader.streamOf plan.seed worker = .error crash

section Steps

variable [Store Storage]

/-- The steps of the workers keep the store regular. -/
theorem Change.regular_store (change : Change audit worker next)
    (unbreakable : Unbreakable Storage regular) (isRegular : regular audit.world.store) :
    regular next.world.store := by
  cases change with
  | read => exact (unbreakable.read _ _ _ isRegular).1
  | refused => exact (unbreakable.read _ _ _ isRegular).1
  | broke => exact (unbreakable.read _ _ _ isRegular).1
  | _ => exact isRegular

/-- A worker that crashes has no stream to draw from. -/
theorem Change.crash_eq (change : Change audit worker next)
    (unbreakable : Unbreakable Storage regular) (isRegular : regular audit.world.store)
    (generates : plan.Generates) (smooth : Smooth plan audit) :
    ∃ before after, Moved audit.reader next.reader worker before after ∧
      ∀ crash, Pool.crash? after = some crash →
        Reader.streamOf plan.seed worker = .error crash := by
  obtain ⟨cursor, known, _⟩ := smooth.kept.claimed
  cases change with
  | wandered reader before after wanders moved shared state =>
    refine ⟨before, after, moved, ?_⟩
    cases wanders with
    | unseeded crash failed =>
      rintro _ ⟨⟩
      exact smooth.seed_eq ▸ failed
    | baseless stream unknown => exact absurd (known.symm.trans unknown) (Option.some_ne_none _)
    | left crash =>
      exact fun reason => smooth.crash_eq worker (.leaving crash) reason moved.position_eq
    | _ => exact fun _ => nofun
  | claimed reader stream claimable found left moved =>
    refine ⟨_, _, moved, ?_⟩
    split <;> exact fun _ => nofun
  | broke reader stream key verify crash answer =>
    exact absurd answer ((unbreakable.read _ _ _ isRegular).2 crash)
  | countedRow reader stream key verify row moved =>
    obtain ⟨low, high⟩ := smooth.kept.range_of_open _ key moved.position_eq
      (Multiset.mem_singleton_self key)
    refine ⟨_, _, moved, fun crash crashes => ?_⟩
    exact absurd crashes (judge_ne_crash stream key verify row _
      (smooth.bounds_eq ▸ generates key low high) crash)
  | erred reader stream key problems moved =>
    refine ⟨_, _, moved, ?_⟩
    split <;> exact fun _ => nofun
  | reported reader crash moved =>
    exact ⟨_, _, moved, fun reason =>
      smooth.crash_eq worker (.crashed crash) reason moved.position_eq⟩
  | _ =>
    have moved := ‹Moved audit.reader _ worker _ _›
    exact ⟨_, _, moved, fun _ => nofun⟩

/-- In a step of a worker nobody crashes but for want of a stream. -/
theorem Smooth.work [WatermarkSource Source] (smooth : Smooth plan audit)
    (unbreakable : Unbreakable Storage regular) (generates : plan.Generates)
    (isRegular : regular audit.world.store) (worked : audit.work worker = some next) :
    Smooth plan next ∧ regular next.world.store := by
  have change := change_of_work audit next worker worked
  obtain ⟨bounds, seed, _, _⟩ := change.settings
  obtain ⟨before, after, moved, own⟩ := change.crash_eq unbreakable isRegular generates smooth
  refine ⟨⟨smooth.kept.step (.work worker) worked, bounds.trans smooth.bounds_eq,
    seed.trans smooth.seed_eq, fun other position crash found crashed => ?_⟩,
    change.regular_store unbreakable isRegular⟩
  by_cases same : worker = other
  · subst same
    cases moved.arrived.symm.trans found
    exact own crash crashed
  · exact smooth.crash_eq other position crash ((moved.stayed other same).symm.trans found) crashed

end Steps

theorem Smooth.stop [Store Storage] [WatermarkSource Source] (smooth : Smooth plan audit) :
    Smooth plan { audit with reader := audit.reader.stop } :=
  ⟨smooth.kept.step .stop rfl, smooth.bounds_eq, smooth.seed_eq, smooth.crash_eq⟩

/-- What becomes of the store and of the source is no affair of the reader. -/
theorem Smooth.outside (smooth : Smooth plan audit) (world : ReaderWorld Storage Source) :
    Smooth plan { audit with world } :=
  ⟨smooth.kept.outside world, smooth.bounds_eq, smooth.seed_eq, smooth.crash_eq⟩

/-- A reader that was just started. -/
theorem smooth_of_starts (threads : Int) (reader : Reader) (starts : plan.Starts threads reader)
    (world : ReaderWorld Storage Source) : Smooth plan ⟨reader, world, {}⟩ := by
  have kept := kept_of_starts plan threads reader starts world
  obtain ⟨_, _, now, rfl⟩ := plan.eq_spawn_of_starts threads reader starts
  refine ⟨kept, rfl, rfl, fun worker position crash found crashed => ?_⟩
  rw [Pool.eq_of_position?_spawn _ _ _ _ _ _ found] at crashed
  cases crashed

/-- With a seed that is not negative nobody crashes at all. -/
theorem Smooth.unspoiled (smooth : Smooth plan audit) (seed : Int)
    (seeded : plan.seed = .value seed) (nonneg : 0 ≤ seed) : ¬Spoiled audit.reader := by
  rintro ⟨worker, position, found, crashed⟩
  obtain ⟨crash, equal⟩ := Option.isSome_iff_exists.mp crashed
  have failed := smooth.crash_eq worker position crash found equal
  obtain ⟨stream, drawn⟩ := ReaderLife.streamOf_eq_ok seed worker nonneg
  rw [seeded, drawn] at failed
  cases failed

/-! ### Who asks the reader to stop -/

/-- Nobody has asked the reader to stop but its own workers, after an abort or a crash. -/
structure StopsItself (audit : ReaderAudit Storage Source) : Prop where
  stopped : audit.reader.shared.stopRequested = true →
    audit.reader.state.aborted = true ∨ Spoiled audit.reader
  stopping : ∀ worker position, audit.reader.position? worker = some position →
    ∀ stream errors, position = .working (.stopPool stream errors) →
      audit.reader.state.aborted = true

theorem StopsItself.work [Store Storage] [WatermarkSource Source] (itself : StopsItself audit)
    (worked : audit.work worker = some next) : StopsItself next := by
  have change := change_of_work audit next worker worked
  have aborted := change.settings.2.2.2
  have spoiled : Spoiled audit.reader → Spoiled next.reader := (stepped_of_work worked).spoiled
  have others : ∀ other position, audit.reader.position? other = some position →
      ∀ stream errors, position = .working (.stopPool stream errors) →
        next.reader.state.aborted = true := fun other position found stream errors equal =>
    aborted (itself.stopping other position found stream errors equal)
  have before : audit.reader.shared.stopRequested = true →
      next.reader.state.aborted = true ∨ Spoiled next.reader :=
    fun stopped => (itself.stopped stopped).imp aborted spoiled
  cases change with
  | stoppedPool reader stream errors moved shared state =>
    have own := itself.stopping worker _ moved.position_eq stream errors rfl
    exact ⟨fun _ => Or.inl (aborted own),
      moved.forall_positions others fun _ _ => nofun⟩
  | reported reader crash moved shared state =>
    exact ⟨fun _ => Or.inr ⟨worker, _, moved.arrived, rfl⟩,
      moved.forall_positions others fun _ _ => nofun⟩
  | aborted reader stream errors unaborted moved shared state =>
    rw [← shared] at before
    exact ⟨before, moved.forall_positions others fun _ _ _ => by rw [state]⟩
  | wandered reader _ _ wanders moved shared state =>
    rw [← shared] at before
    refine ⟨before, moved.forall_positions others fun _ _ equal => ?_⟩
    subst equal
    cases wanders
  | claimed reader stream cursor known left moved shared state =>
    refine ⟨fun stopped => before (by rw [shared] at stopped; exact stopped),
      moved.forall_positions others fun _ _ equal => ?_⟩
    split at equal <;> cases equal
  | waited reader _ _ key source waits linked moved shared state =>
    rw [← shared] at before
    refine ⟨before, moved.forall_positions others fun _ _ equal => ?_⟩
    cases waits <;> cases equal
  | countedRow reader stream key verify row moved shared state =>
    refine ⟨fun stopped => before (by rw [shared] at stopped; exact stopped),
      moved.forall_positions others ?_⟩
    exact judge_cases stream key verify row audit.reader.state.bounds
      (motive := fun _ move => ∀ stream errors,
        Pool.positionAfter move = .working (.stopPool stream errors) →
          reader.state.aborted = true)
      (fun _ _ => nofun) (fun _ _ => nofun) (fun _ _ => nofun) (fun _ _ _ => nofun)
      fun _ _ _ => nofun
  | erred reader stream key problems moved shared state =>
    rw [← shared] at before
    refine ⟨before, moved.forall_positions others fun _ _ equal => ?_⟩
    split at equal <;> cases equal
  | _ =>
    rename_i moved shared state
    rw [← shared] at before
    exact ⟨before, moved.forall_positions others fun _ _ => nofun⟩

theorem stopsItself_of_starts (threads : Int) (reader : Reader)
    (starts : plan.Starts threads reader) (world : ReaderWorld Storage Source) :
    StopsItself ⟨reader, world, {}⟩ := by
  obtain ⟨_, _, now, rfl⟩ := plan.eq_spawn_of_starts threads reader starts
  refine ⟨fun stopped => Bool.noConfusion stopped,
    fun worker position found stream errors equal => ?_⟩
  rw [Pool.eq_of_position?_spawn _ _ _ _ _ _ found] at equal
  cases equal

/-! ### The end -/

section Finished

variable (kept : Kept plan audit) (finished : Pool.finished audit.reader = true)
  (unspoiled : ¬Spoiled audit.reader)

include kept finished unspoiled

theorem Kept.wait_eq : audit.reader.wait = some (.ok audit.reader.result) :=
  kept.wait_of_sound finished (Pool.not_left_of_unspoiled unspoiled)

/-- When the account is flawless no error was counted and no key was unreachable. -/
theorem Kept.errors_of_flawless (flawless : audit.account.Flawless plan.range) :
    audit.reader.result.errors = 0 ∧ audit.reader.result.unreachable = 0 := by
  have exactly := kept.exact finished (Pool.not_left_of_unspoiled unspoiled)
  obtain ⟨rows, same⟩ := flawless
  have none : ∀ fate, (fate.hasRow = false ∨ fate = .mismatched) →
      (audit.account.keysOf fate).length = 0 := by
    intro fate unwanted
    refine List.length_eq_zero_iff.mpr (List.eq_nil_iff_forall_not_mem.mpr fun key listed => ?_)
    have member := (audit.account.mem_keysOf_iff fate key).mp listed
    have claimed : key ∈ audit.account.claims.map Prod.snd :=
      exactly.closed.mem_iff.mp (List.mem_map.mpr ⟨_, member, rfl⟩)
    have unique := kept.one_fate finished key claimed
    obtain ⟨cursor, _, ranged, keys⟩ := kept.claimed
    rw [keys, Int.mem_range_iff] at claimed
    obtain ⟨other, there, row⟩ := rows key claimed.1
      (claimed.2.trans_le (ranged ▸ cursor.next_le_limit))
    rcases unwanted with rowless | rfl
    · rw [unique.unique member there, row] at rowless
      cases rowless
    · exact same key member
  rw [exactly.errors_eq, exactly.unreachable_eq, none .unreadable (Or.inl rfl),
    none .missing (Or.inl rfl), none .mismatched (Or.inr rfl), none .unreachable (Or.inl rfl)]
  exact ⟨rfl, rfl⟩

/-- Then the limit of errors was not exceeded either. -/
theorem Kept.not_aborted_of_flawless (tolerant : 0 ≤ plan.maxErrors)
    (flawless : audit.account.Flawless plan.range) : ¬audit.reader.state.aborted = true := by
  intro aborted
  have exactly := kept.exact finished (Pool.not_left_of_unspoiled unspoiled)
  have exceeded := exactly.aborted_iff.mp (by rw [Reader.result, Reader.status, aborted]; rfl)
  have noError := (kept.errors_of_flawless finished unspoiled flawless).1
  omega

/-- The result is good exactly when nobody asked the reader to stop and the account is flawless. -/
theorem Kept.result_ok_iff (tolerant : 0 ≤ plan.maxErrors) :
    audit.reader.result.ok = true ↔
      audit.reader.shared.stopRequested = false ∧ audit.account.Flawless plan.range := by
  have exactly := kept.exact finished (Pool.not_left_of_unspoiled unspoiled)
  have ok : audit.reader.result.ok = true ↔ audit.reader.status = .completed ∧
      audit.reader.result.errors = 0 ∧ audit.reader.result.unreachable = 0 := by
    simp only [ReadResult.ok, Bool.and_eq_true, decide_eq_true_eq, and_assoc]
    rfl
  rw [ok]
  constructor
  · rintro ⟨completed, noError, noneMissed⟩
    have errors := exactly.errors_eq
    have unreachable := exactly.unreachable_eq
    rw [noError] at errors
    rw [noneMissed] at unreachable
    have none : ∀ fate, (audit.account.keysOf fate).length = 0 →
        ∀ key, (key, fate) ∉ audit.account.fates := by
      intro fate empty key member
      rw [List.length_eq_zero_iff] at empty
      have listed := (audit.account.mem_keysOf_iff fate key).mpr member
      rw [empty] at listed
      cases listed
    obtain ⟨claims, notGivenUp⟩ := exactly.completed completed
    refine ⟨((status_eq_completed_iff audit.reader).mp completed).2, fun key low high => ?_,
      none .mismatched (by omega)⟩
    obtain ⟨fate, member, _⟩ :=
      exactly.one_fate key (claims ▸ Int.mem_range_iff.mpr ⟨low, high⟩)
    refine ⟨fate, member, ?_⟩
    cases fate with
    | unchecked => rfl
    | matched => rfl
    | mismatched => rfl
    | ungenerated => rfl
    | unreadable => exact absurd member (none _ (by omega) key)
    | missing => exact absurd member (none _ (by omega) key)
    | unreachable => exact absurd member (none _ (by omega) key)
    | givenUp => exact absurd member (none _ (by rw [notGivenUp]; rfl) key)
    | broken => exact absurd rfl (exactly.no_crash _ member).1
  · rintro ⟨running, flawless⟩
    refine ⟨(status_eq_completed_iff audit.reader).mpr ⟨?_, running⟩,
      kept.errors_of_flawless finished unspoiled flawless⟩
    exact Bool.eq_false_iff.mpr
      (kept.not_aborted_of_flawless finished unspoiled tolerant flawless)

/-- When nobody asks the reader to stop but itself, its result is good exactly when the account is
flawless. -/
theorem Kept.result_ok_iff_flawless (tolerant : 0 ≤ plan.maxErrors) (itself : StopsItself audit) :
    audit.reader.result.ok = true ↔ audit.account.Flawless plan.range := by
  refine (kept.result_ok_iff finished unspoiled tolerant).trans
    (and_iff_right_of_imp fun flawless => ?_)
  rw [Bool.eq_false_iff]
  intro stopped
  rcases itself.stopped stopped with aborted | spoiled
  · exact kept.not_aborted_of_flawless finished unspoiled tolerant flawless aborted
  · exact unspoiled spoiled

end Finished

end ReaderAudit

end LoadVerifier
