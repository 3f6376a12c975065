/-
This file follows a writer whatever happens to it: a refused call makes its key fail, and a key is
lost only in a crash.

Most of it is about a writer to which nothing unexpected happens: every key of its range has a
record, and its store breaks no call. Calls may be refused, in any pattern, and at any moment
somebody may ask the writer to stop. Then no worker ever crashes and no key is lost, so waiting for
the finished writer gives its result. A refused call shows among the failed keys as soon as its
worker has noted it. So the result is good exactly when nobody asked the writer to stop, every key
of the range was claimed, and no call was refused.
-/
import LoadVerifier.Proofs.WriterCourse
import LoadVerifier.Proofs.WriterReport

namespace LoadVerifier

/-- A store breaks no call, in the states that count as regular, and stays in one of them. It may
refuse whatever calls it likes. -/
structure Unbreakable (Storage : Type) [Store Storage] (regular : Storage → Prop) : Prop where
  write : ∀ store caller key columns, regular store →
    regular (Store.write store caller key columns).2 ∧
      ∀ crash, (Store.write store caller key columns).1 ≠ .crashed crash
  read : ∀ store caller key, regular store →
    regular (Store.read store caller key).2 ∧
      ∀ crash, (Store.read store caller key).1 ≠ .crashed crash

/-- The store with faults breaks no call when no key is broken. -/
theorem faultyStore_unbreakable :
    Unbreakable FaultyStore fun store => store.faults.broken = [] where
  write store caller key columns unbroken := by
    have written : Store.write store caller key columns =
        if store.faults.broken.contains key then
          (.crashed (FaultyStore.breakage key), store.note ⟨key, some columns.numbers⟩)
        else if FaultyStore.refusesWrite store.faults key columns then
          (.failed ⟨"injected write failure", key⟩, store.note ⟨key, some columns.numbers⟩)
        else (.done (), { store.note ⟨key, some columns.numbers⟩ with
          memory := store.memory.merge key columns }) := rfl
    rw [unbroken, List.contains_nil, if_neg Bool.false_ne_true] at written
    rw [written]
    split <;> exact ⟨unbroken, fun _ => nofun⟩
  read store caller key unbroken := by
    have read : Store.read store caller key =
        if store.faults.broken.contains key then
          (.crashed (FaultyStore.breakage key), store.note ⟨key, none⟩)
        else if store.faults.failingReads.contains key then
          (.failed ⟨"injected read failure", key⟩, store.note ⟨key, none⟩)
        else (.done (store.memory.row? key), store.note ⟨key, none⟩) := rfl
    rw [unbroken, List.contains_nil, if_neg Bool.false_ne_true] at read
    rw [read]
    split <;> exact ⟨unbroken, fun _ => nofun⟩

/-- The store in memory breaks no call. -/
theorem memoryStore_unbreakable : Unbreakable MemoryStore fun _ => True where
  write _ _ _ _ _ := ⟨trivial, fun _ => nofun⟩
  read _ _ _ _ := ⟨trivial, fun _ => nofun⟩

/-- Every key of the range was claimed, and every store call that was made for it returned: none was
refused, and none broke. -/
def WriteLedger.Flawless (ledger : WriteLedger) (range : KeyRange) : Prop :=
  ∀ key, range.start ≤ key → key < range.limit →
    key ∈ ledger.claimed ∧ (∀ columns, (key, columns) ∉ ledger.refused) ∧ key ∉ ledger.lost

namespace WriterLife

open Pool (Moved Spoiled)

variable {Storage : Type} {regular : Storage → Prop} {plan : WritePlan}
  {life next : WriterLife Storage} {worker : Nat}

/-! ### Refused calls -/

/-- Every refused call has made its key fail, or a worker is about to note that. -/
def Noted (life : WriterLife Storage) : Prop :=
  ∀ key columns, (key, columns) ∈ life.ledger.refused →
    key ∈ life.ledger.failed ∨
      ∃ worker reason, life.writer.position? worker = some (.working (.fail key reason))

section Steps

variable [Store Storage]

theorem Change.noted (change : Change life worker next) (noted : life.Noted) : next.Noted := by
  -- A worker that is about to note a failure stays where it is when another one moves.
  have stays : ∀ {writer : Writer} {before after : Position WriterTask},
      Moved life.writer writer worker before after → ∀ key,
      (∀ reason, before ≠ .working (.fail key reason)) →
      (∃ other reason, life.writer.position? other = some (.working (.fail key reason))) →
      ∃ other reason, writer.position? other = some (.working (.fail key reason)) := by
    rintro writer before after moved key different ⟨other, reason, found⟩
    have apart : worker ≠ other := by
      rintro rfl
      exact different reason (Option.some.inj (moved.position_eq.symm.trans found))
    exact ⟨other, reason, (moved.stayed other apart).trans found⟩
  intro key columns refused
  cases change with
  | refused writer record call rest failure moved =>
    rcases List.mem_append.mp refused with old | new
    · exact (noted key columns old).imp_right (stays moved key fun _ => nofun)
    · cases List.mem_singleton.mp new
      exact Or.inr ⟨worker, failure.message, moved.arrived⟩
  | failed writer other reason moved =>
    by_cases same : other = key
    · exact Or.inl (List.mem_append_right _ (List.mem_singleton.mpr same.symm))
    · refine (noted key columns refused).imp (List.mem_append_left _) (stays moved key ?_)
      rintro _ equal
      cases equal
      exact same rfl
  | passed writer before after moved pass =>
    refine (noted key columns refused).imp_right (stays moved key fun reason equal => ?_)
    subst equal
    cases pass
  | _ =>
    have moved := ‹Moved life.writer _ worker _ _›
    exact (noted key columns refused).imp_right (stays moved key fun _ => nofun)

/-! ### Whatever happens -/

omit [Store Storage] in
/-- A writer that keeps its ledger, whatever its store does. -/
structure Kept (plan : WritePlan) (life : WriterLife Storage) : Prop where
  faithful : life.Faithful plan
  unbroken : life.Unbroken
  lost_or_spoiled : life.ledger.lost = [] ∨ Spoiled life.writer
  noted : life.Noted
  counted : Pool.Counted life.writer
  some_worker : 0 < Pool.workerCount life.writer

theorem Kept.work (kept : life.Kept plan) (worked : life.work worker = some next) :
    next.Kept plan := by
  have change := change_of_work life next worker worked
  obtain ⟨cursor, known, _⟩ := kept.faithful.accounted.claimed
  obtain ⟨_, _, moved⟩ := change.moved
  exact {
    faithful := change.faithful kept.faithful
    unbroken := change.unbroken (by rw [known]; rfl) kept.unbroken
    lost_or_spoiled := by
      rcases change.lost_or_crashes with same | spoiled
      · exact kept.lost_or_spoiled.imp same.trans (spoiled_of_work worked)
      · exact Or.inr spoiled
    noted := change.noted kept.noted
    counted := counted_of_work worked kept.counted
    some_worker := moved.workerCount_eq ▸ kept.some_worker }

omit [Store Storage] in
theorem Kept.stop (kept : life.Kept plan) :
    { life with writer := life.writer.stop }.Kept plan := by
  have accounted := kept.faithful.accounted
  exact {
    faithful := ⟨⟨accounted.claimed, accounted.conserved, accounted.mem_failedKeys,
      accounted.tracked⟩, kept.faithful.bounds_eq, kept.faithful.multiPut_eq,
      kept.faithful.fits, kept.faithful.completed, kept.faithful.failed,
      kept.faithful.unclaimed⟩
    unbroken := fun running => Bool.noConfusion running
    lost_or_spoiled := kept.lost_or_spoiled
    noted := kept.noted
    counted := ⟨kept.counted.1, kept.counted.2⟩
    some_worker := kept.some_worker }

omit [Store Storage] in
theorem Kept.outside (kept : life.Kept plan) (store : Storage) : { life with store }.Kept plan :=
  { kept with faithful := kept.faithful.outside store }

omit [Store Storage] in
/-- A writer that was just started. -/
theorem kept_of_starts (threads : Int) (writer : Writer) (starts : plan.Starts threads writer)
    (store : Storage) : (⟨writer, store, {}⟩ : WriterLife Storage).Kept plan := by
  obtain ⟨some_thread, now, rfl⟩ := eq_spawn_of_starts threads writer starts
  have faithful := faithful_of_unused plan.idle store plan.range plan.bounds rfl rfl rfl rfl
    fun _ => Std.TreeSet.not_mem_emptyc
  refine ⟨faithful.spawn rfl threads now, fun _ _ => ⟨rfl, fun worker position found => ?_⟩,
    Or.inl rfl, fun _ _ member => absurd member List.not_mem_nil,
    Pool.counted_spawn _ _ _ _ some_thread, ?_⟩
  · rw [Pool.eq_of_position?_spawn _ _ _ _ worker position found]
    trivial
  · rw [Pool.workerCount_spawn]
    omega

/-! ### Nothing unexpected happens -/

omit [Store Storage] in
/-- A writer to which nothing unexpected has happened. -/
structure Smooth (plan : WritePlan) (life : WriterLife Storage) : Prop where
  faithful : life.Faithful plan
  unbroken : life.Unbroken
  lost_eq : life.ledger.lost = []
  unspoiled : ¬Spoiled life.writer
  noted : life.Noted
  counted : Pool.Counted life.writer
  some_worker : 0 < Pool.workerCount life.writer

omit [Store Storage] in
theorem Smooth.kept (smooth : life.Smooth plan) : life.Kept plan :=
  { smooth with lost_or_spoiled := Or.inl smooth.lost_eq }

omit [Store Storage] in
/-- Nothing unexpected has happened to a writer in which nobody has crashed. -/
theorem Kept.smooth (kept : life.Kept plan) (unspoiled : ¬Spoiled life.writer) :
    life.Smooth plan :=
  { kept with lost_eq := kept.lost_or_spoiled.resolve_right unspoiled, unspoiled }

/-- The steps of the workers keep the store regular. -/
theorem Change.regular_store (change : Change life worker next)
    (unbreakable : Unbreakable Storage regular) (isRegular : regular life.store) :
    regular next.store := by
  cases change with
  | stored => exact (unbreakable.write _ _ _ _ isRegular).1
  | refused => exact (unbreakable.write _ _ _ _ isRegular).1
  | broken => exact (unbreakable.write _ _ _ _ isRegular).1
  | _ => exact isRegular

/-- Nothing unexpected happens in a step of a worker. -/
theorem Smooth.work (smooth : life.Smooth plan) (unbreakable : Unbreakable Storage regular)
    (generates : plan.Generates) (isRegular : regular life.store)
    (worked : life.work worker = some next) : next.Smooth plan ∧ regular next.store := by
  have change := change_of_work life next worker worked
  have unspoiled : ¬Spoiled next.writer :=
    (stepped_of_work worked).unspoiled smooth.unspoiled
      (change.not_crashes_of_unbroken generates smooth.faithful fun key call =>
        (unbreakable.write life.store _ key call isRegular).2)
  exact ⟨(smooth.kept.work worked).smooth unspoiled, change.regular_store unbreakable isRegular⟩

/-- A writer that does not sit on a crash is asked to stop by nobody but the others. -/
theorem Change.stopRequested_cases (change : Change life worker next)
    (stopped : next.writer.shared.stopRequested = true) :
    life.writer.shared.stopRequested = true ∨ Spoiled next.writer := by
  cases change with
  | passed writer before after moved pass state =>
    generalize reached : writer.shared = shared at pass
    cases pass with
    | reported crash => exact Or.inr ⟨worker, _, moved.arrived, rfl⟩
    | _ => exact Or.inl (reached ▸ stopped)
  | _ =>
    rename_i shared state
    rw [shared] at stopped
    exact Or.inl stopped

end Steps

theorem Smooth.stop (smooth : life.Smooth plan) :
    { life with writer := life.writer.stop }.Smooth plan :=
  smooth.kept.stop.smooth smooth.unspoiled

theorem Smooth.outside (smooth : life.Smooth plan) (store : Storage) :
    { life with store }.Smooth plan :=
  (smooth.kept.outside store).smooth smooth.unspoiled

/-- A writer that was just started. -/
theorem smooth_of_starts (threads : Int) (writer : Writer) (starts : plan.Starts threads writer)
    (store : Storage) : (⟨writer, store, {}⟩ : WriterLife Storage).Smooth plan := by
  refine (kept_of_starts threads writer starts store).smooth ?_
  obtain ⟨_, now, rfl⟩ := eq_spawn_of_starts threads writer starts
  rintro ⟨worker, position, found, crashed⟩
  rw [Pool.eq_of_position?_spawn _ _ _ _ worker position found] at crashed
  cases crashed

/-! ### The end -/

theorem Smooth.wait_eq (smooth : life.Smooth plan) (finished : Pool.finished life.writer = true) :
    life.writer.wait = some (.ok life.writer.result) := by
  rw [Writer.wait, smooth.counted.join_eq_ok _ finished
    (Pool.not_left_of_unspoiled smooth.unspoiled)]
  rfl

section Finished

variable (kept : life.Kept plan) (finished : Pool.finished life.writer = true)

include kept finished

/-- A key has failed if and only if a call of it was refused. -/
theorem Kept.mem_failed_iff (key : Int) :
    key ∈ life.ledger.failed ↔ ∃ columns, (key, columns) ∈ life.ledger.refused := by
  constructor
  · intro failed
    obtain ⟨_, columns, _, _, _, refused⟩ := kept.faithful.failed key failed
    exact ⟨columns, refused⟩
  · rintro ⟨columns, refused⟩
    rcases kept.noted key columns refused with failed | ⟨worker, reason, found⟩
    · exact failed
    · obtain ⟨_, gone⟩ := kept.counted.left_of_finished finished worker _ found
      cases gone

/-- The result is good exactly when nobody asked the writer to stop and the ledger is flawless. -/
theorem Kept.result_ok_iff :
    life.writer.result.ok = true ↔
      life.writer.shared.stopRequested = false ∧ life.ledger.Flawless plan.range := by
  have accounted := kept.faithful.accounted
  have listed : ∀ key, key ∈ life.writer.state.failedKeys.toList ↔
      ∃ columns, (key, columns) ∈ life.ledger.refused := fun key => by
    rw [Std.TreeSet.mem_toList, accounted.mem_failedKeys, kept.mem_failed_iff finished]
  have ok : life.writer.result.ok = true ↔
      life.writer.state.failedKeys.toList = [] ∧ life.writer.shared.stopRequested = false := by
    rw [WriteResult.ok, Bool.and_eq_true, Bool.not_eq_true', List.isEmpty_iff]
    rfl
  rw [ok, and_comm]
  refine and_congr_right fun running => ?_
  obtain ⟨lost, inOrder⟩ := kept.unbroken running fun worker crash found => by
    obtain ⟨_, gone⟩ := kept.counted.left_of_finished finished worker _ found
    cases gone
  obtain ⟨claimed, settled⟩ := kept.faithful.accounts_of_finished lost inOrder kept.counted
    kept.some_worker finished
  constructor
  · intro none key low high
    refine ⟨claimed ▸ Int.mem_range_iff.mpr ⟨low, high⟩, fun columns refused => ?_, ?_⟩
    · have failed := (listed key).mpr ⟨columns, refused⟩
      rw [none] at failed
      cases failed
    · rw [lost]
      exact List.not_mem_nil
  · intro flawless
    refine List.eq_nil_iff_forall_not_mem.mpr fun key failed => ?_
    obtain ⟨columns, refused⟩ := (listed key).mp failed
    have noted := (kept.mem_failed_iff finished key).mpr ⟨columns, refused⟩
    have inRange : key ∈ life.ledger.claimed := by
      rw [← Multiset.mem_coe, settled, Multiset.mem_add]
      exact Or.inl noted
    obtain ⟨low, high⟩ := Int.mem_range_iff.mp (claimed ▸ inRange)
    exact (flawless key low high).2.1 columns refused

end Finished

end WriterLife

end LoadVerifier
