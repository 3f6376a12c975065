/-
This file follows the store calls of a key. The calls that returned and the calls that are still to
come are together the calls of the key's record, in order; a key is completed when none is to come,
and it fails at the first call that is refused.

Only the worker that holds a key makes calls for it, so a step of one worker never disturbs what
another one relies on.
-/
import LoadVerifier.Proofs.WriterAccounts

namespace LoadVerifier

/-- What a writer was asked for. -/
structure WritePlan where
  bounds : Bounds
  multiPut : Bool
  range : KeyRange

namespace WriteLedger

theorem storedFor_append (ledger : WriteLedger) (called : Int) (call : Columns) (key : Int) :
    { ledger with stored := ledger.stored ++ [(called, call)] }.storedFor key =
      if called = key then ledger.storedFor key ++ [call] else ledger.storedFor key := by
  rw [storedFor, storedFor, List.filter_append, List.map_append]
  by_cases same : called = key
  · rw [if_pos same, List.filter_cons_of_pos (by simpa using same)]
    rfl
  · rw [if_neg same, List.filter_cons_of_neg (by simpa using same), List.filter_nil,
      List.map_nil, List.append_nil]

theorem mem_storedFor_iff (ledger : WriteLedger) (key : Int) (call : Columns) :
    call ∈ ledger.storedFor key ↔ (key, call) ∈ ledger.stored := by
  rw [storedFor, List.mem_map]
  constructor
  · rintro ⟨⟨other, columns⟩, member, rfl⟩
    obtain ⟨stored, same⟩ := List.mem_filter.mp member
    rw [← of_decide_eq_true same]
    exact stored
  · intro stored
    exact ⟨_, List.mem_filter.mpr ⟨stored, decide_eq_true rfl⟩, rfl⟩

end WriteLedger

/-! ### The calls of a key -/

namespace WritePlan

/-- All calls of a key returned. -/
def Wrote (plan : WritePlan) (ledger : WriteLedger) (key : Int) : Prop :=
  ∃ record, generate key plan.bounds = .ok record ∧
    ledger.storedFor key = Writer.callsFor plan.multiPut record

/-- The calls of a key returned up to one that was refused. -/
def Refused (plan : WritePlan) (ledger : WriteLedger) (key : Int) : Prop :=
  ∃ record call rest, generate key plan.bounds = .ok record ∧
    ledger.storedFor key ++ call :: rest = Writer.callsFor plan.multiPut record ∧
    (key, call) ∈ ledger.refused

/-- A task fits the calls made so far. -/
def Fits (plan : WritePlan) (ledger : WriteLedger) : WriterTask → Prop
  | .checkStop | .claim => True
  | .write record calls =>
    generate record.key plan.bounds = .ok record ∧
      ledger.storedFor record.key ++ calls = Writer.callsFor plan.multiPut record
  | .fail key _ => plan.Refused ledger key
  | .complete record =>
    generate record.key plan.bounds = .ok record ∧
      ledger.storedFor record.key = Writer.callsFor plan.multiPut record
  | .count record =>
    generate record.key plan.bounds = .ok record ∧ record.key ∈ ledger.completed

variable {plan : WritePlan} {ledger later : WriteLedger}

theorem Wrote.of_storedFor_eq {key : Int} (wrote : plan.Wrote ledger key)
    (same : later.storedFor key = ledger.storedFor key) : plan.Wrote later key := by
  obtain ⟨record, generated, stored⟩ := wrote
  exact ⟨record, generated, same.trans stored⟩

theorem Refused.of_storedFor_eq {key : Int} (refused : plan.Refused ledger key)
    (same : later.storedFor key = ledger.storedFor key)
    (subset : ∀ call ∈ ledger.refused, call ∈ later.refused) : plan.Refused later key := by
  obtain ⟨record, call, rest, generated, split, member⟩ := refused
  exact ⟨record, call, rest, generated, same ▸ split, subset _ member⟩

/-- A task goes on fitting while nobody makes calls for its key. -/
theorem Fits.of_storedFor_eq {task : WriterTask} (fits : plan.Fits ledger task)
    (same : ∀ key ∈ task.held, later.storedFor key = ledger.storedFor key)
    (completed : ∀ key ∈ ledger.completed, key ∈ later.completed)
    (refused : ∀ call ∈ ledger.refused, call ∈ later.refused) : plan.Fits later task := by
  cases task with
  | checkStop => trivial
  | claim => trivial
  | write record calls =>
    exact ⟨fits.1, (same record.key (List.mem_singleton_self _)).symm ▸ fits.2⟩
  | fail key reason =>
    exact Refused.of_storedFor_eq fits (same key (List.mem_singleton_self _)) refused
  | complete record => exact ⟨fits.1, (same record.key (List.mem_singleton_self _)).trans fits.2⟩
  | count record => exact ⟨fits.1, completed _ fits.2⟩

end WritePlan

/-! ### Keeping to the plan -/

namespace WriterLife

open Pool (Moved)

variable {Storage : Type}

/-- A writer keeps to its plan: its accounts are balanced, every task fits the calls made so far,
all calls of a completed key returned, a failed key was refused, and no calls were made for a key
that was not claimed. -/
structure Faithful (plan : WritePlan) (life : WriterLife Storage) : Prop where
  accounted : life.Accounted plan.range
  bounds_eq : life.writer.state.bounds = some plan.bounds
  multiPut_eq : life.writer.state.multiPut = plan.multiPut
  fits : ∀ worker task, life.writer.position? worker = some (.working task) →
    plan.Fits life.ledger task
  completed : ∀ key ∈ life.ledger.completed, plan.Wrote life.ledger key
  failed : ∀ key ∈ life.ledger.failed, plan.Refused life.ledger key
  unclaimed : ∀ key, key ∉ life.ledger.claimed → life.ledger.storedFor key = []

variable {plan : WritePlan} {life next : WriterLife Storage} {worker : Nat}

theorem total_of_roster_eq_none (weight : Position WriterTask → Multiset Int) (writer : Writer)
    (unstarted : writer.roster = none) : writer.total weight = 0 := by
  refine Pool.total_eq_zero weight writer fun worker position found => ?_
  rw [Pool.position?, unstarted] at found
  cases found

/-- A writer keeps to its plan when it gets its workers. -/
theorem Faithful.spawn (faithful : life.Faithful plan) (unstarted : life.writer.roster = none)
    (threads : Int) (now : Float) :
    { life with writer := life.writer.spawn .checkStop threads now }.Faithful plan := by
  have accounted := faithful.accounted
  have conserved := accounted.conserved
  rw [total_of_roster_eq_none heldAt life.writer unstarted,
    ← nsmul_zero threads.toNat] at conserved
  refine ⟨⟨accounted.claimed, conserved.trans ?_, accounted.mem_failedKeys, accounted.tracked⟩,
    faithful.bounds_eq, faithful.multiPut_eq, fun worker task found => ?_, faithful.completed,
    faithful.failed, faithful.unclaimed⟩
  · exact congrArg (_ + ·) (Pool.total_spawn heldAt life.writer .checkStop threads now).symm
  · cases Pool.eq_of_position?_spawn _ _ _ _ _ _ found
    trivial

/-- A writer keeps to its plan whatever becomes of the store. -/
theorem Faithful.outside (faithful : life.Faithful plan) (store : Storage) :
    { life with store }.Faithful plan := by
  have accounted := faithful.accounted
  exact ⟨⟨accounted.claimed, accounted.conserved, accounted.mem_failedKeys, accounted.tracked⟩,
    faithful.bounds_eq, faithful.multiPut_eq, faithful.fits, faithful.completed, faithful.failed,
    faithful.unclaimed⟩

/-- A writer that has all it needs but workers keeps to its plan. -/
theorem faithful_of_unused (writer : Writer) (store : Storage) (range : KeyRange) (bounds : Bounds)
    (unstarted : writer.roster = none) (known : writer.shared.cursor = some (.ofRange range))
    (bounded : writer.state.bounds = some bounds)
    (tracked : writer.state.written = some (.ofStart range.start))
    (empty : ∀ key, key ∉ writer.state.failedKeys) :
    (⟨writer, store, {}⟩ : WriterLife Storage).Faithful
      ⟨bounds, writer.state.multiPut, range⟩ := by
  refine ⟨⟨⟨_, known, rfl, ?_⟩, ?_, ?_, _, tracked, WrittenPrefix.tracks_ofStart range.start⟩,
    bounded, rfl, fun worker task found => ?_, ?_, ?_, fun _ _ => rfl⟩
  · show [] = Int.range range.start range.start
    rw [Int.range, Int.sub_self]
    rfl
  · rw [total_of_roster_eq_none heldAt writer unstarted]
    rfl
  · exact fun key => iff_of_false (empty key) List.not_mem_nil
  · rw [Pool.position?, unstarted] at found
    cases found
  · exact fun key member => absurd member List.not_mem_nil
  · exact fun key member => absurd member List.not_mem_nil

variable [Store Storage]

/-- A ledger only grows. -/
theorem Change.grows (change : Change life worker next) :
    (∀ key ∈ life.ledger.claimed, key ∈ next.ledger.claimed) ∧
      (∀ key ∈ life.ledger.completed, key ∈ next.ledger.completed) ∧
      ∀ call ∈ life.ledger.refused, call ∈ next.ledger.refused := by
  cases change <;>
    exact ⟨fun _ => by simp +contextual [WriteLedger.noteClaim],
      fun _ => by simp +contextual [WriteLedger.noteClaim],
      fun _ => by simp +contextual [WriteLedger.noteClaim]⟩

/-- A step makes no calls for keys that the worker does not hold. -/
theorem Change.storedFor_eq (change : Change life worker next) (key : Int)
    (foreign : ∀ task, life.writer.position? worker = some (.working task) → key ∉ task.held) :
    next.ledger.storedFor key = life.ledger.storedFor key := by
  cases change with
  | stored writer record call rest moved done shared state =>
    rw [WriteLedger.storedFor_append, if_neg]
    intro same
    exact foreign _ moved.position_eq (same ▸ List.mem_singleton_self _)
  | _ => rfl

theorem Change.settings_eq (change : Change life worker next) :
    next.writer.state.bounds = life.writer.state.bounds ∧
      next.writer.state.multiPut = life.writer.state.multiPut := by
  cases change <;> rename_i state <;> rw [state] <;> exact ⟨rfl, rfl⟩

theorem Change.moved (change : Change life worker next) :
    ∃ before after, Moved life.writer next.writer worker before after := by
  obtain ⟨before, after, _, _, moved, _⟩ := change.balance
  exact ⟨before, after, moved⟩

omit [Store Storage] in
theorem fits_of_pass {shared after : Shared} {before : Position WriterTask} {task : WriterTask}
    {ledger : WriteLedger} (pass : Pass shared before (.working task) after)
    (fits : ∀ former, before = .working former → plan.Fits ledger former) :
    plan.Fits ledger task := by
  cases pass with
  | goOn running => trivial
  | allStored record =>
    have former := fits _ rfl
    exact ⟨former.1, (List.append_nil _).symm.trans former.2⟩

omit [Store Storage] in
theorem fits_afterCall {ledger : WriteLedger} {record : Record} {rest : List Columns}
    {task : WriterTask} (equal : Position.working (afterCall record rest) = .working task)
    (fits : plan.Fits ledger (.write record rest)) : plan.Fits ledger task := by
  cases equal
  rw [afterCall]
  split
  · rename_i last
    rw [List.isEmpty_iff] at last
    exact ⟨fits.1, (List.append_nil _).symm.trans (last ▸ fits.2)⟩
  · exact fits

/-- The task of the worker that moved fits. -/
theorem Change.fits (change : Change life worker next) (faithful : life.Faithful plan)
    (task : WriterTask) (found : next.writer.position? worker = some (.working task)) :
    plan.Fits next.ledger task := by
  cases change with
  | passed writer before after moved pass state =>
    rw [Option.some.inj (moved.arrived.symm.trans found)] at pass
    exact fits_of_pass pass fun former same =>
      faithful.fits worker former (same ▸ moved.position_eq)
  | claimed writer cursor bounds record moved known left bounded generated shared state =>
    cases moved.arrived.symm.trans found
    cases faithful.bounds_eq.symm.trans bounded
    have keyEq := generate_key _ _ _ generated
    have unclaimed : record.key ∉ life.ledger.claimed := by
      obtain ⟨current, currentKnown, _, claimed⟩ := faithful.accounted.claimed
      cases known.symm.trans currentKnown
      rw [claimed, Int.mem_range_iff, keyEq]
      omega
    refine ⟨keyEq.symm ▸ generated, ?_⟩
    show life.ledger.storedFor record.key ++ _ = _
    rw [faithful.unclaimed record.key unclaimed, faithful.multiPut_eq, List.nil_append]
  | barren writer cursor crash moved known left _ shared state =>
    cases moved.arrived.symm.trans found
  | stored writer record call rest moved done shared state =>
    have fits := faithful.fits worker _ moved.position_eq
    refine fits_afterCall (Option.some.inj (moved.arrived.symm.trans found)) ⟨fits.1, ?_⟩
    rw [WriteLedger.storedFor_append, if_pos rfl, List.append_assoc]
    exact fits.2
  | refused writer record call rest failure moved failed shared state =>
    cases moved.arrived.symm.trans found
    have fits := faithful.fits worker _ moved.position_eq
    exact ⟨record, call, rest, fits.1, fits.2, List.mem_append_right _ (List.mem_singleton_self _)⟩
  | broken writer record call rest crash moved crashed shared state =>
    cases moved.arrived.symm.trans found
  | failed writer key reason moved shared state =>
    cases moved.arrived.symm.trans found
    trivial
  | completed writer record written after mark moved known accepted shared state =>
    cases moved.arrived.symm.trans found
    have fits := faithful.fits worker _ moved.position_eq
    exact ⟨fits.1, List.mem_append_right _ (List.mem_singleton_self _)⟩
  | rejected writer record crash moved _ shared state =>
    cases moved.arrived.symm.trans found
  | counted writer record moved shared state =>
    cases moved.arrived.symm.trans found
    trivial

/-- A key that is completed now was completed before, or its worker just completed it. -/
theorem Change.completed_cases (change : Change life worker next) (key : Int)
    (completed : key ∈ next.ledger.completed) :
    key ∈ life.ledger.completed ∨ ∃ record, record.key = key ∧
      life.writer.position? worker = some (.working (.complete record)) ∧
      next.ledger.stored = life.ledger.stored := by
  cases change with
  | completed writer record written after mark moved known accepted shared state =>
    rcases List.mem_append.mp completed with old | new
    · exact Or.inl old
    · exact Or.inr ⟨record, (List.mem_singleton.mp new).symm, moved.position_eq, rfl⟩
  | _ => exact Or.inl completed

/-- A key that has failed now had failed before, or its worker just noted it. -/
theorem Change.failed_cases (change : Change life worker next) (key : Int)
    (failed : key ∈ next.ledger.failed) :
    key ∈ life.ledger.failed ∨ ∃ reason,
      life.writer.position? worker = some (.working (.fail key reason)) ∧
      next.ledger.stored = life.ledger.stored := by
  cases change with
  | failed writer other reason moved shared state =>
    rcases List.mem_append.mp failed with old | new
    · exact Or.inl old
    · rw [List.mem_singleton.mp new]
      exact Or.inr ⟨reason, moved.position_eq, rfl⟩
  | _ => exact Or.inl failed

/-- Every step of a worker keeps to the plan. -/
theorem Change.faithful (change : Change life worker next) (faithful : life.Faithful plan) :
    next.Faithful plan := by
  obtain ⟨before, after, moved⟩ := change.moved
  obtain ⟨claimedGrows, completedGrows, refusedGrows⟩ := change.grows
  have accounted := faithful.accounted
  have closedKept : ∀ key ∈ life.ledger.closed,
      next.ledger.storedFor key = life.ledger.storedFor key := fun key closed =>
    change.storedFor_eq key fun task found held =>
      accounted.not_mem_closed worker task key found held closed
  refine ⟨change.accounted accounted, change.settings_eq.1.trans faithful.bounds_eq,
    change.settings_eq.2.trans faithful.multiPut_eq, ?_, ?_, ?_, ?_⟩
  · intro other task found
    by_cases same : worker = other
    · subst same
      exact change.fits faithful task found
    · rw [moved.stayed other same] at found
      refine (faithful.fits other task found).of_storedFor_eq (fun key held => ?_) completedGrows
        refusedGrows
      refine change.storedFor_eq key fun mine mineFound mineHeld => same ?_
      exact accounted.eq_of_held worker other mine task key mineFound found mineHeld held
  · intro key completed
    rcases change.completed_cases key completed with old | ⟨record, rfl, found, same⟩
    · have closed := (mem_closed_iff life.ledger key).mpr (Or.inr (Or.inl old))
      exact (faithful.completed key old).of_storedFor_eq (closedKept key closed)
    · have fits := faithful.fits worker _ found
      refine WritePlan.Wrote.of_storedFor_eq ⟨record, fits.1, fits.2⟩ ?_
      rw [WriteLedger.storedFor, same, WriteLedger.storedFor]
  · intro key failed
    rcases change.failed_cases key failed with old | ⟨reason, found, same⟩
    · have closed := (mem_closed_iff life.ledger key).mpr (Or.inl old)
      exact (faithful.failed key old).of_storedFor_eq (closedKept key closed) refusedGrows
    · refine WritePlan.Refused.of_storedFor_eq (faithful.fits worker _ found) ?_ refusedGrows
      rw [WriteLedger.storedFor, same, WriteLedger.storedFor]
  · intro key unclaimed
    have before : key ∉ life.ledger.claimed := fun claimed => unclaimed (claimedGrows key claimed)
    rw [← faithful.unclaimed key before]
    refine change.storedFor_eq key fun task found held => before ?_
    exact (accounted.mem_claimed_iff key).mpr
      (Or.inr (mem_total_heldAt worker task key found held))

end WriterLife

end LoadVerifier
