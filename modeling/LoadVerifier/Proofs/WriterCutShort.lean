/-
This file proves what a writer leaves behind when it is cut short, at whatever moment and in
whatever way: its store calls may be refused or break, its workers may die, and somebody may ask it
to stop. The store is its own and makes writes atomic.

Then the content of the store is always what the calls that returned make of the content at the
start, and each of these calls belongs to the record of its key. So the row of a key up to the
watermark is that of its record. The row of any other key may be half written, but the record
covers it: the same record written once more leaves nothing else.
-/
import LoadVerifier.Proofs.WatermarkSafety
import LoadVerifier.Proofs.WriterUndisturbed

namespace LoadVerifier

/-- Whether an event is the writer's own affair, and not a change of its store by others. -/
def WriterEvent.own {Storage : Type} : WriterEvent Storage → Bool
  | .configure .. | .begin .. | .track | .spawn .. | .stop | .work _ | .die .. => true
  | .outside _ => false

/-- Every call that returned belongs to the record of its key. -/
def WritePlan.Admits (plan : WritePlan) (ledger : WriteLedger) : Prop :=
  ∀ key, ∀ call ∈ ledger.storedFor key, ∃ record,
    generate key plan.bounds = .ok record ∧ call ∈ Writer.callsFor plan.multiPut record

namespace WriterLife

variable {Storage : Type} {contents : Storage → Contents} {regular : Storage → Prop}
  {plan : WritePlan} {initial : Contents} {life next : WriterLife Storage} {worker : Nat}

/-- A writer keeps to one plan only. -/
theorem Faithful.plan_eq (faithful : life.Faithful plan) (other : WritePlan)
    (otherFaithful : life.Faithful other) : plan = other := by
  obtain ⟨cursor, known, ranged, _⟩ := faithful.accounted.claimed
  obtain ⟨_, otherKnown, otherRanged, _⟩ := otherFaithful.accounted.claimed
  cases known.symm.trans otherKnown
  obtain ⟨bounds, multiPut, range⟩ := plan
  obtain ⟨otherBounds, otherMultiPut, otherRange⟩ := other
  cases faithful.bounds_eq.symm.trans otherFaithful.bounds_eq
  cases faithful.multiPut_eq.symm.trans otherFaithful.multiPut_eq
  cases ranged.symm.trans otherRanged
  rfl

variable [Store Storage]

/-! ### Steps of a life -/

/-- A worker calls the store for the record that it holds. -/
theorem Change.admits (change : Change life worker next) (faithful : life.Faithful plan)
    (admits : plan.Admits life.ledger) : plan.Admits next.ledger := by
  cases change with
  | stored writer record call rest moved done shared state =>
    obtain ⟨generated, calls⟩ := faithful.fits worker _ moved.position_eq
    intro key other member
    rw [WriteLedger.storedFor_append] at member
    split at member
    · rename_i same
      subst same
      rcases List.mem_append.mp member with former | latest
      · exact admits record.key other former
      · rw [List.mem_singleton.mp latest]
        exact ⟨record, generated, calls ▸ List.mem_append_right _ List.mem_cons_self⟩
    · exact admits key other member
  | _ => exact admits

/-- Only a step of a worker calls the store. -/
theorem work_or_quiet (event : WriterEvent Storage) (own : event.own = true)
    (happened : life.step event = some next) :
    (∃ worker, life.work worker = some next) ∨
      next.store = life.store ∧ next.ledger.stored = life.ledger.stored := by
  have settled : ∀ outcome, (life.settle outcome).store = life.store ∧
      (life.settle outcome).ledger.stored = life.ledger.stored := by
    intro outcome
    cases outcome <;> exact ⟨rfl, rfl⟩
  cases event with
  | configure multiPut minColumns maxColumns minSize maxSize =>
    cases happened
    exact Or.inr (settled _)
  | begin range threads =>
    cases happened
    exact Or.inr (settled _)
  | track =>
    rw [step] at happened
    split at happened
    · cases happened
      exact Or.inr ⟨rfl, rfl⟩
    · cases happened
  | spawn threads now =>
    rw [step] at happened
    split at happened
    · cases happened
      exact Or.inr ⟨rfl, rfl⟩
    · cases happened
  | stop =>
    cases happened
    exact Or.inr ⟨rfl, rfl⟩
  | work worker => exact Or.inl ⟨worker, happened⟩
  | die worker crash =>
    obtain ⟨task, died⟩ := died_of_die worker crash next happened
    exact Or.inr ⟨died.store_eq, by rw [died.ledger_eq]⟩
  | outside store => cases own

/-! ### What the store holds -/

/-- A writer whose store had the given contents at the start and was changed by nobody else. -/
structure Traced (contents : Storage → Contents) (regular : Storage → Prop) (initial : Contents)
    (life : WriterLife Storage) : Prop where
  stage : Stage life
  regular : regular life.store
  contents_eq : ∀ key,
    contents life.store key = afterCalls (initial key) (life.ledger.storedFor key)
  admits : ∀ plan, life.Faithful plan → plan.Admits life.ledger

omit [Store Storage] in
theorem traced_new (store : Storage) (isRegular : regular store) :
    (new store).Traced contents regular (contents store) :=
  ⟨stage_new store, isRegular, fun _ => rfl, fun _ _ _ _ member => nomatch member⟩

/-- A writer goes on being traced whatever happens to it. -/
theorem Traced.step (traced : life.Traced contents regular initial)
    (atomic : AtomicWrites Storage contents regular) (event : WriterEvent Storage)
    (own : event.own = true) (happened : life.step event = some next) :
    next.Traced contents regular initial := by
  have stage := (traced.stage.step event next happened).1
  rcases work_or_quiet event own happened with ⟨worker, worked⟩ | ⟨store, stored⟩
  · have change := change_of_work life next worker worked
    obtain ⟨isRegular, same⟩ := change.contents_eq atomic traced.regular traced.contents_eq
    refine ⟨stage, isRegular, same, fun plan faithful => ?_⟩
    cases traced.stage with
    | fresh unused => rw [unused.not_work] at worked; cases worked
    | begun unused => rw [unused.not_work] at worked; cases worked
    | going former wasFaithful =>
      cases (change.faithful wasFaithful).plan_eq plan faithful
      exact change.admits wasFaithful (traced.admits _ wasFaithful)
  · have same : next.ledger.storedFor = life.ledger.storedFor := by
      funext key
      rw [WriteLedger.storedFor, stored, WriteLedger.storedFor]
    refine ⟨stage, store ▸ traced.regular, fun key => ?_, fun plan faithful key call member => ?_⟩
    · rw [store, same]
      exact traced.contents_eq key
    · rw [same] at member
      cases traced.stage with
      | fresh unused => rw [unused.ledger_eq] at member; cases member
      | begun unused => rw [unused.ledger_eq] at member; cases member
      | going former wasFaithful =>
        cases (wasFaithful.step event next happened).1.plan_eq plan faithful
        exact traced.admits _ wasFaithful key call member

/-- So it is traced after every schedule. -/
theorem Traced.replay (traced : life.Traced contents regular initial)
    (atomic : AtomicWrites Storage contents regular) (schedule : List (WriterEvent Storage))
    (own : ∀ event ∈ schedule, event.own = true) (later : WriterLife Storage)
    (ran : LoadVerifier.replay WriterLife.step life schedule = some later) :
    later.Traced contents regular initial :=
  replay_invariant_of_allowed (fun event => event.own = true) _
    (fun _ event _ own traced happened => traced.step atomic event own happened) life later
    schedule own traced ran

/-! ### What the watermark says about the rows -/

omit [Store Storage]

/-- The range above the watermark is a range. -/
theorem Stage.exists_rest (stage : Stage life) (range : KeyRange)
    (ranged : life.writer.range? = some range) :
    ∃ rest, KeyRange.make (life.writer.watermark + 1) range.limit = .ok rest ∧
      rest.start = life.writer.watermark + 1 ∧ rest.limit = range.limit ∧
      range.start ≤ rest.start := by
  have between : range.start ≤ life.writer.watermark + 1 ∧
      life.writer.watermark + 1 ≤ range.limit := by
    cases stage with
    | fresh unused unknown =>
      rw [Pool.range?, unknown] at ranged
      cases ranged
    | begun unused other bounds known bounded =>
      have mark : life.writer.watermark = range.start - 1 := by
        rw [watermark_of_unused unused, ranged]
        rfl
      have forward := range.start_le_limit
      omega
    | going plan faithful =>
      have accounted := faithful.accounted
      obtain ⟨cursor, known, rangeEq, _⟩ := accounted.claimed
      rw [Pool.range?, known, Option.map_some, rangeEq] at ranged
      cases ranged
      exact ⟨accounted.start_le_watermark_add_one, accounted.watermark_lt_limit⟩
  have nonneg := range.start_nonneg
  have most := range.limit_le_maxKey
  refine ⟨⟨life.writer.watermark + 1, range.limit, by omega, between.2, most⟩, ?_, rfl, rfl,
    between.1⟩
  rw [KeyRange.make, dif_neg (by omega), dif_neg (by omega), dif_neg (by omega)]

/-- A key up to the watermark has the row of its record, if it had no row at the start. -/
theorem Traced.row_of_le_watermark (traced : life.Traced contents regular initial)
    (range : KeyRange) (ranged : life.writer.range? = some range) (bounds : Bounds)
    (bounded : life.writer.state.bounds = some bounds) (key : Int) (low : range.start ≤ key)
    (high : key ≤ life.writer.watermark) (rowless : initial key = none) (record : Record)
    (generated : generate key bounds = .ok record) :
    contents life.store key = some record.columns.find? := by
  cases traced.stage with
  | fresh unused unknown =>
    rw [Pool.range?, unknown] at ranged
    cases ranged
  | begun unused other _ known _ =>
    rw [watermark_of_unused unused, ranged] at high
    exact absurd high (by show ¬key ≤ range.start - 1; omega)
  | going plan faithful =>
    obtain ⟨cursor, known, rangeEq, _⟩ := faithful.accounted.claimed
    rw [Pool.range?, known, Option.map_some, rangeEq] at ranged
    cases ranged
    obtain ⟨other, otherGenerated, stored⟩ :=
      faithful.completed key (faithful.accounted.completed_of_le_watermark key low high)
    cases faithful.bounds_eq.symm.trans bounded
    cases generated.symm.trans otherGenerated
    rw [traced.contents_eq, stored, rowless, afterCalls_callsFor _ _ _
      (generate_cells_ne_nil key plan.bounds record generated), overlay_none]

/-- The record of a key covers its row, if it had no row at the start. -/
theorem Traced.covers (traced : life.Traced contents regular initial) (bounds : Bounds)
    (bounded : life.writer.state.bounds = some bounds) (key : Int) (rowless : initial key = none)
    (record : Record) (generated : generate key bounds = .ok record) :
    Covers record.columns (contents life.store key) := by
  rw [traced.contents_eq, rowless]
  refine (covers_none record.columns).after _ fun call member => ?_
  cases traced.stage with
  | fresh unused => rw [unused.ledger_eq] at member; cases member
  | begun unused => rw [unused.ledger_eq] at member; cases member
  | going plan faithful =>
    cases faithful.bounds_eq.symm.trans bounded
    obtain ⟨other, otherGenerated, among⟩ := traced.admits plan faithful key call member
    cases generated.symm.trans otherGenerated
    exact numbers_of_mem_callsFor plan.multiPut record call among

end WriterLife

end LoadVerifier
