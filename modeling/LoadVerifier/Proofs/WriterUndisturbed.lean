/-
This file follows a writer that nobody disturbs: its store merges writes and breaks no call, every
key of its range has a record, and nobody asks it to stop. Calls may be refused, any of them.

Then no worker ever crashes, a completion is never rejected, and a worker leaves only when the range
is used up. The content of the store is at every moment what the calls that returned make of the
content at the start, key by key, in whatever order the keys took their turns.
-/
import LoadVerifier.Proofs.WriterRows

namespace LoadVerifier

/-- A writer that has its settings. -/
def WritePlan.ready (plan : WritePlan) : Writer where
  state := {
    bounds := some plan.bounds
    multiPut := plan.multiPut }

/-- A writer as planned that has all it needs but workers. -/
def WritePlan.idle (plan : WritePlan) : Writer where
  shared := { cursor := some (.ofRange plan.range) }
  state := {
    bounds := some plan.bounds
    multiPut := plan.multiPut
    written := some (.ofStart plan.range.start) }

/-- A writer was configured and started as planned, with a number of workers. -/
def WritePlan.Starts (plan : WritePlan) (threads : Int) (writer : Writer) : Prop :=
  ∃ minColumns maxColumns minSize maxSize ready now,
    Bounds.make minColumns maxColumns minSize maxSize = .ok plan.bounds ∧
      Writer.new.configure plan.multiPut minColumns maxColumns minSize maxSize = .ok ready ∧
      ready.start plan.range threads now = .ok writer

namespace WritePlan

/-- A writer takes the settings of any plan. -/
theorem configure_new (plan : WritePlan) :
    Writer.new.configure plan.multiPut plan.bounds.minColumns plan.bounds.maxColumns
      plan.bounds.minSize plan.bounds.maxSize = .ok plan.ready := by
  rw [Writer.configure, plan.bounds.make_self]
  rfl

/-- A writer that has its settings starts with any possible number of workers. -/
theorem start_ready (plan : WritePlan) (threads : Int) (now : Float)
    (possible : 1 ≤ threads ∧ threads ≤ maxThreads) :
    plan.ready.start plan.range threads now = .ok (plan.idle.spawn .checkStop threads now) := by
  have bounded : ¬plan.ready.state.bounds.isNone = true := Bool.false_ne_true
  have unstarted : ¬Pool.started plan.ready = true := Bool.false_ne_true
  rw [Writer.start, Pool.begin, if_neg bounded, if_neg unstarted, if_neg (by omega)]
  rfl

/-- It refuses any other number. -/
theorem start_ready_eq_error (plan : WritePlan) (threads : Int) (now : Float)
    (impossible : ¬(1 ≤ threads ∧ threads ≤ maxThreads)) :
    plan.ready.start plan.range threads now =
      .error (.threadsOutOfRange Writer.poolName threads) := by
  have bounded : ¬plan.ready.state.bounds.isNone = true := Bool.false_ne_true
  have unstarted : ¬Pool.started plan.ready = true := Bool.false_ne_true
  rw [Writer.start, Pool.begin, if_neg bounded, if_neg unstarted, if_pos (by omega)]
  rfl

theorem starts_idle (plan : WritePlan) (threads : Int) (now : Float)
    (possible : 1 ≤ threads ∧ threads ≤ maxThreads) :
    plan.Starts threads (plan.idle.spawn .checkStop threads now) :=
  ⟨_, _, _, _, _, now, plan.bounds.make_self, plan.configure_new,
    plan.start_ready threads now possible⟩

end WritePlan

/-- Every key of the range has a record. -/
def WritePlan.Generates (plan : WritePlan) : Prop :=
  ∀ key, plan.range.start ≤ key → key < plan.range.limit →
    ∃ record, generate key plan.bounds = .ok record

/-- The record of a key; without columns when there is none. -/
def WritePlan.recordOf (plan : WritePlan) (key : Int) : Record :=
  match generate key plan.bounds with
  | .ok record => record
  | .error _ => ⟨key, .empty⟩

theorem WritePlan.Generates.recordOf {plan : WritePlan} (generates : plan.Generates) (key : Int)
    (low : plan.range.start ≤ key) (high : key < plan.range.limit) :
    generate key plan.bounds = .ok (plan.recordOf key) := by
  obtain ⟨record, generated⟩ := generates key low high
  rw [WritePlan.recordOf, generated]

namespace WriterLife

open Pool (InOrder Moved inOrder_of_cursor_eq inOrder_of_left)

variable {Storage : Type}

/-- A writer that keeps to its plan without being disturbed, on a store that had the given contents
at the start. -/
structure Undisturbed (contents : Storage → Contents) (regular : Storage → Prop)
    (plan : WritePlan) (initial : Contents) (life : WriterLife Storage) : Prop where
  faithful : life.Faithful plan
  regular : regular life.store
  contents_eq : ∀ key,
    contents life.store key = afterCalls (initial key) (life.ledger.storedFor key)
  lost_eq : life.ledger.lost = []
  running : life.writer.shared.stopRequested = false
  inOrder : ∀ worker position, life.writer.position? worker = some position →
    InOrder life.writer.shared position

variable {contents : Storage → Contents} {regular : Storage → Prop} {plan : WritePlan}
  {initial : Contents} {life next : WriterLife Storage} {worker : Nat}

/-! ### What cannot happen -/

/-- A completion is never rejected. -/
theorem Faithful.accepts (faithful : life.Faithful plan) (worker : Nat) (record : Record)
    (found : life.writer.position? worker = some (.working (.complete record))) :
    ∃ written mark after, life.writer.state.written = some written ∧
      written.complete record.key = (.ok mark, after) := by
  have accounted := faithful.accounted
  have held : record.key ∈ (WriterTask.complete record).held := List.mem_singleton_self _
  obtain ⟨written, tracked, tracks⟩ := accounted.tracked
  have fresh : record.key ∉ life.ledger.completed := fun completed =>
    accounted.not_mem_closed worker _ record.key found held
      ((mem_closed_iff life.ledger record.key).mpr (Or.inr (Or.inl completed)))
  have claimed := (accounted.mem_claimed_iff record.key).mpr
    (Or.inr (mem_total_heldAt worker _ record.key found held))
  obtain ⟨after, accepted, _⟩ :=
    tracks.complete_eq_ok record.key fresh (accounted.range_of_claimed record.key claimed).1
  exact ⟨written, _, after, tracked, accepted⟩

/-- The next key of a cursor that is not used up is a key of the range. -/
theorem Accounted.range_of_left {range : KeyRange} (accounted : life.Accounted range)
    (cursor : Cursor) (known : life.writer.shared.cursor = some cursor)
    (left : cursor.next < cursor.range.limit) :
    range.start ≤ cursor.next ∧ cursor.next < range.limit := by
  obtain ⟨current, currentKnown, ranged, _⟩ := accounted.claimed
  cases known.symm.trans currentKnown
  exact ⟨ranged ▸ cursor.start_le_next, ranged ▸ left⟩

/-! ### Keeping in order -/

theorem inOrder_of_pass {shared after : Shared} {before position : Position WriterTask}
    (pass : Pass shared before position after) (running : shared.stopRequested = false)
    (known : shared.cursor.isSome) (inOrder : InOrder shared before) :
    InOrder after position ∧ after.stopRequested = false := by
  cases pass with
  | goOn _ => exact ⟨trivial, running⟩
  | stopSeen stopped =>
    rw [running] at stopped
    cases stopped
  | usedUp cursor found used => exact ⟨⟨rfl, cursor, found, used⟩, running⟩
  | baseless unknown =>
    rw [unknown] at known
    cases known
  | allStored record => exact ⟨trivial, running⟩
  | reported crash => exact absurd inOrder id
  | left crash => exact ⟨inOrder, running⟩

theorem cursor_eq_none_of_crash {shared after : Shared} {before : Position WriterTask}
    {crash : Crash} (pass : Pass shared before (.crashed crash) after) : shared.cursor = none := by
  cases pass
  assumption

variable [Store Storage]

/-- While nobody was asked to stop and everybody is in order, a step asks nobody to stop, loses no
key, and leaves every worker in order, unless the worker crashes. -/
theorem Change.inOrder_or_crashes (change : Change life worker next)
    (known : life.writer.shared.cursor.isSome)
    (running : life.writer.shared.stopRequested = false) (lost : life.ledger.lost = [])
    (inOrder : ∀ other position, life.writer.position? other = some position →
      InOrder life.writer.shared position) :
    (next.writer.shared.stopRequested = false ∧ next.ledger.lost = [] ∧
        ∀ other position, next.writer.position? other = some position →
          InOrder next.writer.shared position) ∨
      ∃ crash, next.writer.position? worker = some (.crashed crash) := by
  -- A step that leaves the cursor alone disturbs no other worker.
  have others : ∀ writer : Writer, writer.shared.cursor = life.writer.shared.cursor →
      ∀ other position, life.writer.position? other = some position →
        InOrder writer.shared position := fun writer same other position found =>
    inOrder_of_cursor_eq (inOrder other position found) same
  cases change with
  | passed writer before after moved pass state =>
    have own := inOrder_of_pass pass running known (inOrder _ _ moved.position_eq)
    exact Or.inl ⟨own.2, lost,
      moved.forall_positions (others writer (cursor_eq_of_pass pass)) own.1⟩
  | claimed writer claimable bounds record moved found left bounded generated shared state =>
    refine Or.inl ⟨by rw [shared]; exact running, lost, moved.forall_positions ?_ trivial⟩
    exact fun other position there => inOrder_of_left (inOrder other position there) found left
  | barren writer claimable crash moved => exact Or.inr ⟨crash, moved.arrived⟩
  | broken writer record call rest crash moved => exact Or.inr ⟨crash, moved.arrived⟩
  | rejected writer record crash moved => exact Or.inr ⟨crash, moved.arrived⟩
  | stored writer record call rest moved done shared state =>
    exact Or.inl ⟨by rw [shared]; exact running, lost,
      moved.forall_positions (others writer (by rw [shared])) trivial⟩
  | refused writer record call rest failure moved failed shared state =>
    exact Or.inl ⟨by rw [shared]; exact running, lost,
      moved.forall_positions (others writer (by rw [shared])) trivial⟩
  | failed writer key reason moved shared state =>
    exact Or.inl ⟨by rw [shared]; exact running, lost,
      moved.forall_positions (others writer (by rw [shared])) trivial⟩
  | completed writer record written after mark moved tracked accepted shared state =>
    exact Or.inl ⟨by rw [shared]; exact running, lost,
      moved.forall_positions (others writer (by rw [shared])) trivial⟩
  | counted writer record moved shared state =>
    exact Or.inl ⟨by rw [shared]; exact running, lost,
      moved.forall_positions (others writer (by rw [shared])) trivial⟩

/-- A worker that crashes loses a key: the key has no record, or its store call broke, or its
completion was rejected. -/
theorem Change.crash_cases (change : Change life worker next)
    (known : life.writer.shared.cursor.isSome) (crash : Crash)
    (crashes : next.writer.position? worker = some (.crashed crash)) :
    ∃ key, next.ledger.lost = life.ledger.lost ++ [key] ∧
      ((∃ cursor, life.writer.shared.cursor = some cursor ∧ cursor.next < cursor.range.limit ∧
          ∀ bounds record, life.writer.state.bounds = some bounds →
            generate cursor.next bounds ≠ .ok record) ∨
        (∃ call broken, (Store.write life.store ⟨.writer, worker⟩ key call).1 = .crashed broken) ∨
        ∃ record, life.writer.position? worker = some (.working (.complete record)) ∧
          ∀ written mark after, life.writer.state.written = some written →
            written.complete record.key ≠ (.ok mark, after)) := by
  cases change with
  | passed writer before after moved pass state =>
    cases moved.arrived.symm.trans crashes
    rw [cursor_eq_none_of_crash pass] at known
    cases known
  | barren writer cursor other moved found left ungenerated shared state =>
    exact ⟨cursor.next, rfl, Or.inl ⟨cursor, found, left, ungenerated⟩⟩
  | broken writer record call rest other moved crashed shared state =>
    exact ⟨record.key, rfl, Or.inr (Or.inl ⟨call, other, crashed⟩)⟩
  | rejected writer record other moved unaccepted shared state =>
    exact ⟨record.key, rfl, Or.inr (Or.inr ⟨record, moved.position_eq, unaccepted⟩)⟩
  | claimed writer cursor bounds record moved => cases moved.arrived.symm.trans crashes
  | stored writer record call rest moved => cases moved.arrived.symm.trans crashes
  | refused writer record call rest failure moved => cases moved.arrived.symm.trans crashes
  | failed writer key reason moved => cases moved.arrived.symm.trans crashes
  | completed writer record written after mark moved => cases moved.arrived.symm.trans crashes
  | counted writer record moved => cases moved.arrived.symm.trans crashes

/-- A worker does not crash when every key has a record and no store call breaks. -/
theorem Change.not_crashes_of_unbroken (change : Change life worker next)
    (generates : plan.Generates) (faithful : life.Faithful plan)
    (unbroken : ∀ key call broken,
      (Store.write life.store ⟨.writer, worker⟩ key call).1 ≠ .crashed broken) (crash : Crash) :
    next.writer.position? worker ≠ some (.crashed crash) := by
  intro crashes
  obtain ⟨cursor, known, _⟩ := faithful.accounted.claimed
  obtain ⟨key, _, ⟨claimable, found, left, ungenerated⟩ | ⟨call, broken, crashed⟩ |
    ⟨record, found, unaccepted⟩⟩ := change.crash_cases (by rw [known]; rfl) crash crashes
  · obtain ⟨low, high⟩ := faithful.accounted.range_of_left claimable found left
    obtain ⟨record, generated⟩ := generates _ low high
    exact ungenerated plan.bounds record faithful.bounds_eq generated
  · exact unbroken key call broken crashed
  · obtain ⟨written, mark, after, tracked, accepted⟩ := faithful.accepts worker record found
    exact unaccepted written mark after tracked accepted

/-- A worker of an undisturbed writer does not crash. -/
theorem Change.not_crashes (change : Change life worker next)
    (merges : MergesWrites Storage contents regular) (generates : plan.Generates)
    (undisturbed : life.Undisturbed contents regular plan initial) (crash : Crash) :
    next.writer.position? worker ≠ some (.crashed crash) := by
  refine change.not_crashes_of_unbroken generates undisturbed.faithful ?_ crash
  intro key call broken crashed
  rcases (merges.write life.store _ key call undisturbed.regular).2 with
    ⟨done, _⟩ | ⟨⟨_, failed⟩, _⟩
  · cases done.symm.trans crashed
  · cases failed.symm.trans crashed

/-- The content of the store is what the calls that returned make of the content at the start. -/
theorem Change.contents_eq (change : Change life worker next)
    (atomic : AtomicWrites Storage contents regular) (isRegular : regular life.store)
    (same : ∀ key, contents life.store key = afterCalls (initial key) (life.ledger.storedFor key)) :
    regular next.store ∧
      ∀ key, contents next.store key = afterCalls (initial key) (next.ledger.storedFor key) := by
  cases change with
  | stored writer record call rest moved done shared state =>
    obtain ⟨stillRegular, ⟨_, merged⟩ | ⟨undone, _⟩⟩ :=
      atomic.write life.store ⟨.writer, worker⟩ record.key call isRegular
    · refine ⟨stillRegular, fun key => ?_⟩
      rw [merged, Contents.merge, WriteLedger.storedFor_append]
      by_cases own : record.key = key
      · rw [if_pos own, ← own, Function.update_self, same, afterCalls_append]
        rfl
      · rw [if_neg own, Function.update_of_ne (Ne.symm own)]
        exact same key
    · exact absurd done undone
  | refused writer record call rest failure moved failed shared state =>
    obtain ⟨stillRegular, ⟨done, _⟩ | ⟨_, unchanged⟩⟩ :=
      atomic.write life.store ⟨.writer, worker⟩ record.key call isRegular
    · cases done.symm.trans failed
    · exact ⟨stillRegular, fun key => unchanged ▸ same key⟩
  | broken writer record call rest crash moved crashed shared state =>
    obtain ⟨stillRegular, ⟨done, _⟩ | ⟨_, unchanged⟩⟩ :=
      atomic.write life.store ⟨.writer, worker⟩ record.key call isRegular
    · cases done.symm.trans crashed
    · exact ⟨stillRegular, fun key => unchanged ▸ same key⟩
  | _ => exact ⟨isRegular, same⟩

/-- Every step of a worker leaves a writer undisturbed. -/
theorem Change.undisturbed (change : Change life worker next)
    (merges : MergesWrites Storage contents regular) (generates : plan.Generates)
    (undisturbed : life.Undisturbed contents regular plan initial) :
    next.Undisturbed contents regular plan initial := by
  obtain ⟨cursor, known, _⟩ := undisturbed.faithful.accounted.claimed
  obtain ⟨running, lost, inOrder⟩ :=
    (change.inOrder_or_crashes (by rw [known]; rfl) undisturbed.running undisturbed.lost_eq
      undisturbed.inOrder).resolve_right fun ⟨crash, crashes⟩ =>
        change.not_crashes merges generates undisturbed crash crashes
  obtain ⟨isRegular, contentsEq⟩ :=
    change.contents_eq merges.atomic undisturbed.regular undisturbed.contents_eq
  exact ⟨change.faithful undisturbed.faithful, isRegular, contentsEq, lost, running, inOrder⟩

/-! ### The end -/

theorem counted_of_work (worked : life.work worker = some next)
    (counted : Pool.Counted life.writer) : Pool.Counted next.writer :=
  (stepped_of_work worked).counted counted

/-- A writer of which a worker takes a step is not finished. -/
theorem unfinished_of_work (counted : Pool.Counted life.writer)
    (worked : life.work worker = some next) : Pool.finished life.writer = false := by
  rw [Bool.eq_false_iff]
  exact fun finished => counted.not_stepped_of_finished finished (stepped_of_work worked)

omit [Store Storage] in
/-- When the workers have left and no key was lost, every claimed key has failed or was
completed. -/
theorem Accounted.settled_of_finished {range : KeyRange} (accounted : life.Accounted range)
    (lost : life.ledger.lost = []) (counted : Pool.Counted life.writer)
    (finished : Pool.finished life.writer = true) :
    (life.ledger.claimed : Multiset Int) = life.ledger.failed + life.ledger.completed := by
  have conserved := accounted.conserved
  rw [counted.total_of_finished finished heldAt fun _ => rfl, WriteLedger.closed, lost, add_zero,
    Multiset.coe_nil, add_zero] at conserved
  exact conserved

omit [Store Storage] in
/-- When workers in order have left and no key was lost, every key of the range was claimed, and
every key either failed or was completed. -/
theorem Faithful.accounts_of_finished (faithful : life.Faithful plan)
    (lost : life.ledger.lost = [])
    (inOrder : ∀ worker position, life.writer.position? worker = some position →
      InOrder life.writer.shared position)
    (counted : Pool.Counted life.writer) (some_worker : 0 < Pool.workerCount life.writer)
    (finished : Pool.finished life.writer = true) :
    life.ledger.claimed = Int.range plan.range.start plan.range.limit ∧
      (life.ledger.claimed : Multiset Int) = life.ledger.failed + life.ledger.completed := by
  obtain ⟨cursor, known, ranged, claimed⟩ := faithful.accounted.claimed
  refine ⟨?_, faithful.accounted.settled_of_finished lost counted finished⟩
  obtain ⟨other, otherKnown, used⟩ :=
    Pool.used_of_finished life.writer counted some_worker finished inOrder
  cases known.symm.trans otherKnown
  rw [claimed, used, ranged]

omit [Store Storage] in
theorem Undisturbed.accounts_of_finished
    (undisturbed : life.Undisturbed contents regular plan initial)
    (counted : Pool.Counted life.writer) (some_worker : 0 < Pool.workerCount life.writer)
    (finished : Pool.finished life.writer = true) :
    life.ledger.claimed = Int.range plan.range.start plan.range.limit ∧
      (life.ledger.claimed : Multiset Int) = life.ledger.failed + life.ledger.completed :=
  undisturbed.faithful.accounts_of_finished undisturbed.lost_eq undisturbed.inOrder counted
    some_worker finished

omit [Store Storage] in
/-- Waiting for a writer that is finished in order gives its result. -/
theorem wait_eq_of_inOrder (counted : Pool.Counted life.writer)
    (finished : Pool.finished life.writer = true)
    (inOrder : ∀ worker position, life.writer.position? worker = some position →
      InOrder life.writer.shared position) :
    life.writer.wait = some (.ok life.writer.result) := by
  rw [Writer.wait, counted.join_eq_ok _ finished]
  · rfl
  · intro worker crash found
    exact absurd (inOrder worker _ found).1 (Option.some_ne_none crash)

omit [Store Storage] in
theorem Undisturbed.wait_eq (undisturbed : life.Undisturbed contents regular plan initial)
    (counted : Pool.Counted life.writer) (finished : Pool.finished life.writer = true) :
    life.writer.wait = some (.ok life.writer.result) :=
  wait_eq_of_inOrder counted finished undisturbed.inOrder

/-! ### The start -/

omit [Store Storage] in
theorem eq_spawn_of_starts (threads : Int) (writer : Writer)
    (starts : plan.Starts threads writer) :
    1 ≤ threads ∧ ∃ now, writer = plan.idle.spawn .checkStop threads now := by
  obtain ⟨minColumns, maxColumns, minSize, maxSize, ready, now, made, configured, started⟩ := starts
  obtain ⟨bounds, sameMade, rfl⟩ := Writer.configure_eq_ok _ _ _ _ _ _ _ configured
  cases made.symm.trans sameMade
  obtain ⟨⟨some_thread, _⟩, equal⟩ := Writer.start_eq_ok _ _ _ _ _ started
  exact ⟨some_thread, now, equal⟩

omit [Store Storage] in
/-- A writer that was just started is undisturbed. -/
theorem undisturbed_of_starts (threads : Int) (writer : Writer) (store : Storage)
    (starts : plan.Starts threads writer) (isRegular : regular store) :
    (⟨writer, store, {}⟩ : WriterLife Storage).Undisturbed contents regular plan
        (contents store) ∧
      Pool.Counted writer ∧ 0 < Pool.workerCount writer := by
  obtain ⟨some_thread, now, rfl⟩ := eq_spawn_of_starts threads writer starts
  have faithful := faithful_of_unused plan.idle store plan.range plan.bounds rfl rfl rfl rfl
    fun _ => Std.TreeSet.not_mem_emptyc
  refine ⟨⟨faithful.spawn rfl threads now, isRegular, fun _ => rfl, rfl, rfl, ?_⟩,
    Pool.counted_spawn _ _ _ _ some_thread, ?_⟩
  · intro worker position found
    rw [Pool.eq_of_position?_spawn _ _ _ _ _ _ found]
    trivial
  · rw [Pool.workerCount_spawn]
    omega

end WriterLife

end LoadVerifier
