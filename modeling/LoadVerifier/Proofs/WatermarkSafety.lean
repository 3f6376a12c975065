/-
This file proves what the watermark of a writer promises, at every moment of the writer's life and
under every schedule: it never goes back, every key up to it is stored in full, no failed key is at
or below it, and it stays behind the cursor.

A writer passes through three stages. Before it has a range the watermark is -1; between the range
and the progress it is the key before the range; from then on it is the watermark of the progress.
Workers may crash or die at any step, store calls may be refused or break, and somebody may ask the
writer to stop at any moment: none of this is excluded anywhere below.
-/
import LoadVerifier.Proofs.Schedule
import LoadVerifier.Proofs.WriterRows

namespace LoadVerifier.WriterLife

open Pool (Moved)

variable {Storage : Type} {plan : WritePlan} {life : WriterLife Storage}

/-! ### Events that are no step of a worker -/

/-- A worker died at its task. The key that it worked on is lost, and nothing else has changed. -/
structure Died (life : WriterLife Storage) (worker : Nat) (crash : Crash) (task : WriterTask)
    (next : WriterLife Storage) : Prop where
  moved : Moved life.writer next.writer worker (.working task) (.crashed crash)
  shared_eq : next.writer.shared = life.writer.shared
  state_eq : next.writer.state = life.writer.state
  active_eq : Pool.active next.writer = Pool.active life.writer
  finished_eq : Pool.finished next.writer = Pool.finished life.writer
  store_eq : next.store = life.store
  ledger_eq : next.ledger = { life.ledger with lost := life.ledger.lost ++ task.held }

theorem died_of_die (worker : Nat) (crash : Crash) (next : WriterLife Storage)
    (died : life.die worker crash = some next) : ∃ task, Died life worker crash task next := by
  rw [die] at died
  split at died
  · rename_i roster task known found
    cases died
    have inRoster : roster.position? worker = some (.working task) := by
      rw [Pool.position?, known] at found
      exact found
    have moved := Pool.moved_place life.writer roster (roster.place worker (.crashed crash)) worker
      _ (.crashed crash) known inRoster life.writer.shared life.writer.state rfl rfl rfl
    refine ⟨task, moved, rfl, rfl, ?_, ?_, rfl, rfl⟩
    · rw [Pool.active, Pool.active, known]
      rfl
    · rw [Pool.finished, Pool.finished, known]
      rfl
  · cases died

/-- A writer keeps to its plan when one of its workers dies. -/
theorem Faithful.die (faithful : life.Faithful plan) (worker : Nat) (crash : Crash)
    (next : WriterLife Storage) (died : life.die worker crash = some next) :
    next.Faithful plan ∧ next.ledger.completed = life.ledger.completed := by
  obtain ⟨task, moved, shared, state, _, _, _, ledger⟩ := died_of_die worker crash next died
  obtain ⟨⟨nextShared, nextState, roster⟩, store, nextLedger⟩ := next
  dsimp only at shared state ledger
  subst shared state ledger
  have accounted := faithful.accounted
  have conserved := moved.conserved _ _ 0 task.held accounted.conserved (add_comm _ _)
  rw [add_zero, ← WriteLedger.closed_lost] at conserved
  refine ⟨⟨⟨accounted.claimed, conserved, accounted.mem_failedKeys, accounted.tracked⟩,
    faithful.bounds_eq, faithful.multiPut_eq, fun other former there => ?_, faithful.completed,
    faithful.failed, faithful.unclaimed⟩, rfl⟩
  have fits : plan.Fits life.ledger former := by
    by_cases same : worker = other
    · subst same
      cases moved.arrived.symm.trans there
    · exact faithful.fits other former ((moved.stayed other same).symm.trans there)
  exact fits.of_storedFor_eq (fun _ _ => rfl) (fun _ member => member) fun _ member => member

theorem Faithful.stop (faithful : life.Faithful plan) :
    { life with writer := life.writer.stop }.Faithful plan := by
  have accounted := faithful.accounted
  exact ⟨⟨accounted.claimed, accounted.conserved, accounted.mem_failedKeys, accounted.tracked⟩,
    faithful.bounds_eq, faithful.multiPut_eq, faithful.fits, faithful.completed, faithful.failed,
    faithful.unclaimed⟩

/-! ### The stages of a life -/

/-- Nothing has happened yet but the configuration. -/
structure Unused (life : WriterLife Storage) : Prop where
  roster_eq : life.writer.roster = none
  written_eq : life.writer.state.written = none
  not_mem_failedKeys : ∀ key, key ∉ life.writer.state.failedKeys
  ledger_eq : life.ledger = {}

/-- The stage of a writer: it has no range, or a range but no progress, or all it needs. -/
inductive Stage (life : WriterLife Storage) : Prop
  | fresh (unused : Unused life) (unknown : life.writer.shared.cursor = none)
  | begun (unused : Unused life) (range : KeyRange) (bounds : Bounds)
      (known : life.writer.shared.cursor = some (.ofRange range))
      (bounded : life.writer.state.bounds = some bounds)
  | going (plan : WritePlan) (faithful : life.Faithful plan)

theorem watermark_of_unused (unused : Unused life) :
    life.writer.watermark = (life.writer.range?.map fun range => range.start - 1).getD (-1) := by
  rw [Writer.watermark, unused.written_eq]
  cases life.writer.range? <;> rfl

theorem Unused.not_die (unused : Unused life) (worker : Nat) (crash : Crash) :
    life.die worker crash = none := by
  rw [die, unused.roster_eq]

theorem settle_configure_of_started (started : life.writer.started = true) (multiPut : Bool)
    (minColumns maxColumns minSize maxSize : Int) :
    life.settle (life.writer.configure multiPut minColumns maxColumns minSize maxSize) = life := by
  rw [Writer.configure, if_pos started]
  rfl

theorem settle_begin_of_started (started : life.writer.started = true) (range : KeyRange)
    (threads : Int) : life.settle (life.writer.begin? range threads) = life := by
  rw [Writer.begin?, Pool.begin, if_pos started]
  split <;> rfl

variable [Store Storage]

theorem Unused.not_work (unused : Unused life) (worker : Nat) : life.work worker = none := by
  rw [work, Writer.step, Pool.step, unused.roster_eq]
  rfl

/-- What can happen before a writer has its range. -/
theorem Unused.step_fresh (unused : Unused life) (unknown : life.writer.shared.cursor = none)
    (event : WriterEvent Storage) (next : WriterLife Storage)
    (happened : life.step event = some next) :
    Stage next ∧ life.writer.watermark ≤ next.writer.watermark := by
  have unstarted : life.writer.started = false := by rw [Pool.started, unknown]; rfl
  have mark : life.writer.watermark = -1 := by
    rw [watermark_of_unused unused, Pool.range?, unknown]
    rfl
  cases event with
  | configure multiPut minColumns maxColumns minSize maxSize =>
    cases happened
    cases configured : life.writer.configure multiPut minColumns maxColumns minSize maxSize with
    | error error => exact ⟨.fresh unused unknown, le_refl _⟩
    | ok writer =>
      obtain ⟨bounds, _, rfl⟩ := Writer.configure_eq_ok _ _ _ _ _ _ _ configured
      exact ⟨.fresh ⟨unused.1, unused.2, unused.3, unused.4⟩ unknown, le_refl _⟩
  | begin range threads =>
    cases happened
    cases begun : life.writer.begin? range threads with
    | error error => exact ⟨.fresh unused unknown, le_refl _⟩
    | ok writer =>
      obtain ⟨⟨bounds, bounded⟩, _, rfl⟩ := Writer.begin?_eq_ok _ _ _ _ begun
      have begunUnused : Unused { life with
          writer := { life.writer with
            shared := { life.writer.shared with cursor := some (.ofRange range) } } } :=
        ⟨unused.1, unused.2, unused.3, unused.4⟩
      refine ⟨.begun begunUnused range bounds rfl bounded, ?_⟩
      have start_nonneg := range.start_nonneg
      rw [mark]
      refine le_of_le_of_eq ?_ (watermark_of_unused begunUnused).symm
      show -1 ≤ range.start - 1
      omega
  | track =>
    rw [step, unstarted, if_neg (fun both => Bool.noConfusion both.1)] at happened
    cases happened
  | spawn threads now =>
    rw [step, unused.written_eq] at happened
    cases happened
  | stop =>
    cases happened
    exact ⟨.fresh ⟨unused.1, unused.2, unused.3, unused.4⟩ unknown, le_refl _⟩
  | work worker =>
    rw [step, unused.not_work] at happened
    cases happened
  | die worker crash =>
    rw [step, unused.not_die] at happened
    cases happened
  | outside store =>
    cases happened
    exact ⟨.fresh ⟨unused.1, unused.2, unused.3, unused.4⟩ unknown, le_refl _⟩

/-- What can happen between the range and the progress. -/
theorem Unused.step_begun (unused : Unused life) (range : KeyRange) (bounds : Bounds)
    (known : life.writer.shared.cursor = some (.ofRange range))
    (bounded : life.writer.state.bounds = some bounds) (event : WriterEvent Storage)
    (next : WriterLife Storage) (happened : life.step event = some next) :
    Stage next ∧ life.writer.watermark ≤ next.writer.watermark := by
  have started : life.writer.started = true := by rw [Pool.started, known]; rfl
  cases event with
  | configure multiPut minColumns maxColumns minSize maxSize =>
    cases happened
    rw [settle_configure_of_started started]
    exact ⟨.begun unused range bounds known bounded, le_refl _⟩
  | begin other threads =>
    cases happened
    rw [settle_begin_of_started started]
    exact ⟨.begun unused range bounds known bounded, le_refl _⟩
  | track =>
    rw [step] at happened
    split at happened
    · cases happened
      rw [watermark_of_unused unused, Pool.range?, known, Writer.track, Pool.range?, known,
        unused.ledger_eq]
      exact ⟨.going _ (faithful_of_unused _ life.store range bounds unused.roster_eq known bounded
        rfl unused.not_mem_failedKeys), le_refl _⟩
    · cases happened
  | spawn threads now =>
    rw [step, unused.written_eq] at happened
    cases happened
  | stop =>
    cases happened
    exact ⟨.begun ⟨unused.1, unused.2, unused.3, unused.4⟩ range bounds known bounded, le_refl _⟩
  | work worker =>
    rw [step, unused.not_work] at happened
    cases happened
  | die worker crash =>
    rw [step, unused.not_die] at happened
    cases happened
  | outside store =>
    cases happened
    exact ⟨.begun ⟨unused.1, unused.2, unused.3, unused.4⟩ range bounds known bounded, le_refl _⟩

/-- What can happen from the progress on. -/
theorem Faithful.step (faithful : life.Faithful plan) (event : WriterEvent Storage)
    (next : WriterLife Storage) (happened : life.step event = some next) :
    next.Faithful plan ∧ life.writer.watermark ≤ next.writer.watermark := by
  have accounted := faithful.accounted
  obtain ⟨cursor, known, _⟩ := accounted.claimed
  have started : life.writer.started = true := by rw [Pool.started, known]; rfl
  cases event with
  | configure multiPut minColumns maxColumns minSize maxSize =>
    cases happened
    rw [settle_configure_of_started started]
    exact ⟨faithful, le_refl _⟩
  | begin other threads =>
    cases happened
    rw [settle_begin_of_started started]
    exact ⟨faithful, le_refl _⟩
  | track =>
    obtain ⟨written, tracked, _⟩ := accounted.tracked
    rw [WriterLife.step, tracked, if_neg (fun both => nomatch both.2)] at happened
    cases happened
  | spawn threads now =>
    rw [WriterLife.step] at happened
    split at happened
    · rename_i both
      cases happened
      exact ⟨faithful.spawn (Option.isNone_iff_eq_none.mp both.2) threads now, le_refl _⟩
    · cases happened
  | stop =>
    cases happened
    exact ⟨faithful.stop, le_refl _⟩
  | work worker =>
    have change := change_of_work life next worker happened
    have nextFaithful := change.faithful faithful
    exact ⟨nextFaithful, accounted.watermark_mono nextFaithful.accounted change.grows.2.1⟩
  | die worker crash =>
    obtain ⟨nextFaithful, same⟩ := faithful.die worker crash next happened
    refine ⟨nextFaithful, accounted.watermark_mono nextFaithful.accounted fun key member => ?_⟩
    exact same.symm ▸ member
  | outside store =>
    cases happened
    exact ⟨faithful.outside store, le_refl _⟩

/-- Every event leads from a stage to a stage, and the watermark never goes back. -/
theorem Stage.step (stage : Stage life) (event : WriterEvent Storage) (next : WriterLife Storage)
    (happened : life.step event = some next) :
    Stage next ∧ life.writer.watermark ≤ next.writer.watermark := by
  cases stage with
  | fresh unused unknown => exact unused.step_fresh unknown event next happened
  | begun unused range bounds known bounded =>
    exact unused.step_begun range bounds known bounded event next happened
  | going plan faithful =>
    obtain ⟨nextFaithful, forward⟩ := faithful.step event next happened
    exact ⟨.going plan nextFaithful, forward⟩

/-! ### The watermark along a life -/

omit [Store Storage] in
theorem stage_new (store : Storage) : Stage (new store) :=
  .fresh ⟨rfl, rfl, fun _ member => Std.TreeSet.not_mem_emptyc member, rfl⟩ rfl

/-- Every schedule leads from a stage to a stage, and the watermark never goes back. -/
theorem Stage.replay (stage : Stage life) (schedule : List (WriterEvent Storage))
    (later : WriterLife Storage) (ran : replay WriterLife.step life schedule = some later) :
    Stage later ∧ life.writer.watermark ≤ later.writer.watermark := by
  refine replay_invariant
    (fun state => Stage state ∧ life.writer.watermark ≤ state.writer.watermark)
    ?_ life later schedule ⟨stage, le_refl _⟩ ran
  rintro state event next ⟨holds, forward⟩ happened
  obtain ⟨nextStage, further⟩ := holds.step event next happened
  exact ⟨nextStage, le_trans forward further⟩

omit [Store Storage] in
/-- Every cell of a record is in one of its calls, whatever the write mode. -/
theorem mem_callsFor_of_mem (multiPut : Bool) (record : Record) (cell : Int × Bytes)
    (member : cell ∈ record.columns.cells) :
    ∃ call ∈ Writer.callsFor multiPut record, cell ∈ call.cells := by
  rw [Writer.callsFor]
  split
  · exact ⟨record.columns, List.mem_singleton_self _, member⟩
  · exact ⟨.single cell.1 cell.2, List.mem_map_of_mem member, List.mem_singleton_self _⟩

/-- The watermark of a writer never overstates and never goes back, whatever happens. Take any two
moments of a life. The watermark at the later one is not lower. At the first one the watermark is
-1 as long as there is no range, it is below every failed key, and it is behind the cursor; and of
every key of the range up to it, each cell of its record was stored by a call that returned. -/
theorem watermark_never_overstates (store : Storage) (past future : List (WriterEvent Storage))
    (life later : WriterLife Storage) (ran : LoadVerifier.replay step (new store) past = some life)
    (continued : LoadVerifier.replay step life future = some later) :
    life.writer.watermark ≤ later.writer.watermark ∧
      (life.writer.range? = none → life.writer.watermark = -1) ∧
      (∀ key ∈ life.writer.state.failedKeys, life.writer.watermark < key) ∧
      ∀ range, life.writer.range? = some range →
        life.writer.watermark ≤ range.start + life.writer.keysClaimed - 1 ∧
          ∀ key, range.start ≤ key → key ≤ life.writer.watermark →
            ∃ bounds record, life.writer.state.bounds = some bounds ∧
              generate key bounds = .ok record ∧
              ∀ cell ∈ record.columns.cells,
                ∃ call, (key, call) ∈ life.ledger.stored ∧ cell ∈ call.cells := by
  have stage := ((stage_new store).replay past life ran).1
  refine ⟨(stage.replay future later continued).2, ?_⟩
  cases stage with
  | fresh unused unknown =>
    have unranged : life.writer.range? = none := by rw [Pool.range?, unknown]; rfl
    refine ⟨fun _ => ?_, fun key member => absurd member (unused.not_mem_failedKeys key), ?_⟩
    · rw [watermark_of_unused unused, unranged]
      rfl
    · intro range ranged
      cases unranged.symm.trans ranged
  | begun unused range bounds known bounded =>
    have ranged : life.writer.range? = some range := by rw [Pool.range?, known]; rfl
    have mark : life.writer.watermark = range.start - 1 := by
      rw [watermark_of_unused unused, ranged]
      rfl
    refine ⟨fun unranged => ?_, fun key member => absurd member (unused.not_mem_failedKeys key),
      fun other otherRanged => ?_⟩
    · cases unranged.symm.trans ranged
    · cases ranged.symm.trans otherRanged
      refine ⟨?_, fun key low high => ?_⟩
      · rw [mark, Pool.keysClaimed, known]
        show range.start - 1 ≤ range.start + (range.start - range.start) - 1
        omega
      · omega
  | going plan faithful =>
    have accounted := faithful.accounted
    obtain ⟨cursor, known, ranged, _⟩ := accounted.claimed
    have rangeEq : life.writer.range? = some plan.range := by
      rw [Pool.range?, known, ← ranged]
      rfl
    refine ⟨fun unranged => ?_, accounted.watermark_lt_of_failed, fun range otherRanged => ?_⟩
    · cases unranged.symm.trans rangeEq
    · cases rangeEq.symm.trans otherRanged
      have behind := accounted.watermark_lt_claimed
      refine ⟨by omega, fun key low high => ?_⟩
      have completed := accounted.completed_of_le_watermark key low high
      obtain ⟨record, generated, stored⟩ := faithful.completed key completed
      refine ⟨plan.bounds, record, faithful.bounds_eq, generated, fun cell member => ?_⟩
      obtain ⟨call, among, holds⟩ := mem_callsFor_of_mem plan.multiPut record cell member
      exact ⟨call, (life.ledger.mem_storedFor_iff key call).mp (stored ▸ among), holds⟩

/-- A store that fails to write one key. -/
def oneFailing : FaultyStore := { faults := { failingWrites := [1] } }

/-- Two workers write three keys, and one of them fails. -/
def twoWriters : List (WriterEvent FaultyStore) :=
  [.configure true 1 2 1 4, .begin .three 2, .track, .spawn 2 0.0,
    .work 0, .work 0, .work 0, .work 1, .work 1, .work 0, .work 1, .work 0, .work 1, .work 0,
    .work 0]

/-- The watermark stays below the failed key when the writer is asked to stop and a worker dies
while it holds another key. -/
theorem watermark_never_overstates_after_failure :
    ∃ life later : WriterLife FaultyStore,
      LoadVerifier.replay step (new oneFailing) twoWriters = some life ∧
        LoadVerifier.replay step life [.stop, .die 0 .notImplemented] = some later ∧
        (life.writer.watermark = 0 ∧ life.writer.state.failedKeys.toList = [1] ∧
          later.ledger.lost = [2]) ∧
        life.writer.watermark ≤ later.writer.watermark ∧
        ∀ key ∈ life.writer.state.failedKeys, life.writer.watermark < key := by
  have known : ((LoadVerifier.replay step (new oneFailing) twoWriters).bind fun life =>
      (LoadVerifier.replay step life [.stop, .die 0 .notImplemented]).map fun later =>
        (life.writer.watermark, life.writer.state.failedKeys.toList, later.ledger.lost)) =
          some (0, [1], [2]) := by
    decide +kernel
  obtain ⟨life, ran, rest⟩ := Option.bind_eq_some_iff.mp known
  obtain ⟨later, continued, seen⟩ := Option.map_eq_some_iff.mp rest
  rw [Prod.mk.injEq, Prod.mk.injEq] at seen
  obtain ⟨forward, _, above, _⟩ := watermark_never_overstates _ _ _ life later ran continued
  exact ⟨life, later, ran, continued, seen, forward, above⟩

end LoadVerifier.WriterLife
