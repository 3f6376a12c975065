/-
This file proves that a reader that is linked to a finished writer comes to its end, as one without
a link does. A worker that waits for the writer finds out after a few steps that there is nothing to
wait for any more, so every step of a worker lowers a potential.
-/
import LoadVerifier.LoadTest.Run
import LoadVerifier.Proofs.ReaderProgress

namespace LoadVerifier

open LoadVerifier.Random

/-- Looking at a source does not change it. -/
class SteadySource (Source : Type) [WatermarkSource Source] : Prop where
  mark_snd : ∀ source : Source, (WatermarkSource.mark source).2 = source
  finished_snd : ∀ source : Source, (WatermarkSource.finished source).2 = source

instance : SteadySource Writer := ⟨fun _ => rfl, fun _ => rfl⟩

namespace ReaderAudit

open Pool (Moved)

variable {Storage Source : Type} [Store Storage] [WatermarkSource Source] [SteadySource Source]
  {audit next : ReaderAudit Storage Source} {worker : Nat}

/-! ### The source -/

/-- A worker leaves the source as it is. -/
theorem advance_source (number : Int) (task : ReaderTask) (shared : Shared) (state : ReaderState)
    (world : ReaderWorld Storage Source) :
    (Reader.advance number task shared state world).world.source = world.source := by
  obtain ⟨store, source⟩ := world
  cases task with
  | seed => simp only [Reader.advance]; split <;> rfl
  | checkStop stream => simp only [Reader.advance]; split <;> rfl
  | claim stream =>
    simp only [Reader.advance, Reader.claimStep]
    split
    · rfl
    · split
      · rfl
      · split <;> rfl
  | look stream key delay =>
    cases source with
    | none => rfl
    | some source =>
      simp only [Reader.advance, Reader.lookStep, SteadySource.mark_snd]
      split <;> rfl
  | askFinished stream key delay =>
    cases source with
    | none => rfl
    | some source =>
      simp only [Reader.advance, Reader.askFinishedStep, SteadySource.finished_snd]
      split <;> rfl
  | lookAgain stream key =>
    cases source with
    | none => rfl
    | some source =>
      simp only [Reader.advance, Reader.lookAgainStep, SteadySource.mark_snd]
      split <;> rfl
  | pause stream key delay => simp only [Reader.advance]; split <;> rfl
  | read stream key verify =>
    simp only [Reader.advance, Reader.readStep]
    split <;> rfl
  | abort stream errors => simp only [Reader.advance]; split <;> rfl
  | _ => rfl

theorem source_of_work (worked : audit.work worker = some next) :
    next.world.source = audit.world.source := by
  have stepped := stepped_of_work worked
  generalize next.world = world at stepped
  cases stepped with
  | work task _ moved => exact advance_source _ _ _ _ _
  | report crash _ moved => rfl
  | leave crash _ moved => rfl

omit [SteadySource Source]

/-! ### The potential -/

/-- The steps that are left at most when there is no unfinished writer to wait for: eleven for each
key that is not claimed yet, and those of the workers. -/
def linkedPotential (audit : ReaderAudit Storage Source) : Nat :=
  11 * unclaimed audit.reader.shared + audit.reader.total stepsLeft

omit [Store Storage] in
/-- There is no writer to wait for, or it is finished. -/
def Settled (world : ReaderWorld Storage Source) : Prop :=
  ∀ source, world.source = some source → (WatermarkSource.finished source).1 = true

theorem stepsLeft_judge (stream : Stream) (key : Int) (verify : Bool) (row : Option Columns)
    (bounds : Bounds) :
    stepsLeft (Pool.positionAfter (Reader.judge stream key verify row bounds)) < 7 :=
  judge_cases stream key verify row bounds
    (motive := fun _ move => stepsLeft (Pool.positionAfter move) < 7)
    (by simp [stepsLeft, Pool.positionAfter]) (by simp [stepsLeft, Pool.positionAfter])
    (by simp [stepsLeft, Pool.positionAfter]) (fun _ => by simp [stepsLeft, Pool.positionAfter])
    fun _ => by simp [stepsLeft, Pool.positionAfter]

/-- A turn takes the worker nearer to its end. -/
def Lowers (shared : Shared) (task : ReaderTask)
    (turn : Turn ReaderState ReaderTask (ReaderWorld Storage Source)) : Prop :=
  11 * unclaimed turn.shared + stepsLeft (Pool.positionAfter turn.move) <
    11 * unclaimed shared + stepsLeft (.working task)

omit [Store Storage] [WatermarkSource Source]

theorem lowers_of_lt (shared : Shared) (task : ReaderTask)
    (turn : Turn ReaderState ReaderTask (ReaderWorld Storage Source))
    (cursor : turn.shared.cursor = shared.cursor)
    (fewer : stepsLeft (Pool.positionAfter turn.move) < stepsLeft (.working task)) :
    Lowers shared task turn := by
  have same : unclaimed turn.shared = unclaimed shared := by rw [unclaimed, unclaimed, cursor]
  rw [Lowers, same]
  exact Nat.add_lt_add_left fewer _

/-- A claim leaves a key less, and more steps than it takes to be done with the key. -/
theorem lowers_claimStep (stream : Stream) (shared : Shared) (state : ReaderState)
    (world : ReaderWorld Storage Source) (known : shared.cursor.isSome) :
    Lowers shared (.claim stream) (Reader.claimStep stream shared state world) := by
  obtain ⟨cursor, isCursor⟩ := Option.isSome_iff_exists.mp known
  simp only [Reader.claimStep, isCursor]
  by_cases left : cursor.next < cursor.range.limit
  · have fewer := unclaimed_of_claim shared { shared with cursor := some cursor.claim.2 } cursor
      isCursor left rfl
    rw [cursor.claim_eq_of_lt left]
    dsimp only
    split
    · show 11 * unclaimed { shared with cursor := some cursor.claim.2 } + 12 < 11 * _ + 2
      omega
    · show 11 * unclaimed { shared with cursor := some cursor.claim.2 } + 9 < 11 * _ + 2
      omega
  · rw [cursor.claim_of_not_lt left]
    exact lowers_of_lt _ _ _ rfl (Nat.le_of_ble_eq_true rfl)

variable [Store Storage] [WatermarkSource Source]

/-- Every turn of a worker that has no writer to wait for takes it nearer to its end. -/
theorem lowers_advance (number : Int) (task : ReaderTask) (shared : Shared) (state : ReaderState)
    (world : ReaderWorld Storage Source) (known : shared.cursor.isSome) (settled : Settled world) :
    Lowers shared task (Reader.advance number task shared state world) := by
  obtain ⟨store, source⟩ := world
  cases task with
  | claim stream => exact lowers_claimStep stream shared state _ known
  | countRow stream key verify row =>
    exact lowers_of_lt _ _ _ rfl (stepsLeft_judge stream key verify row state.bounds)
  | look stream key delay =>
    cases source with
    | none => exact lowers_of_lt _ _ _ rfl (Nat.le_of_ble_eq_true rfl)
    | some source =>
      simp only [Reader.advance, Reader.lookStep]
      split <;> exact lowers_of_lt _ _ _ rfl (Nat.le_of_ble_eq_true rfl)
  | askFinished stream key delay =>
    cases source with
    | none => exact lowers_of_lt _ _ _ rfl (Nat.le_of_ble_eq_true rfl)
    | some source =>
      simp only [Reader.advance, Reader.askFinishedStep, settled source rfl, if_true]
      exact lowers_of_lt _ _ _ rfl (Nat.le_of_ble_eq_true rfl)
  | lookAgain stream key =>
    cases source with
    | none => exact lowers_of_lt _ _ _ rfl (Nat.le_of_ble_eq_true rfl)
    | some source =>
      simp only [Reader.advance, Reader.lookAgainStep]
      split <;> exact lowers_of_lt _ _ _ rfl (Nat.le_of_ble_eq_true rfl)
  | read stream key verify =>
    simp only [Reader.advance, Reader.readStep]
    split <;> exact lowers_of_lt _ _ _ rfl (Nat.le_of_ble_eq_true rfl)
  | recordError stream key problems =>
    simp only [Reader.advance, Reader.recordErrorStep]
    split <;> exact lowers_of_lt _ _ _ rfl (Nat.le_of_ble_eq_true rfl)
  | seed | checkStop | pause | abort =>
    simp only [Reader.advance]
    split <;> exact lowers_of_lt _ _ _ rfl (Nat.le_of_ble_eq_true rfl)
  | countRead | unreachable | verified | stopPool =>
    exact lowers_of_lt _ _ _ rfl (Nat.le_of_ble_eq_true rfl)

theorem linkedPotential_lt_of_work (worked : audit.work worker = some next)
    (known : audit.reader.shared.cursor.isSome) (settled : Settled audit.world) :
    next.linkedPotential < audit.linkedPotential := by
  have lowers : ∀ before after, Moved audit.reader next.reader worker before after →
      11 * unclaimed next.reader.shared + stepsLeft after <
        11 * unclaimed audit.reader.shared + stepsLeft before →
      next.linkedPotential < audit.linkedPotential := by
    intro before after moved less
    have owed := moved.total_add stepsLeft
    rw [linkedPotential, linkedPotential]
    omega
  have stepped := stepped_of_work worked
  generalize next.world = world at stepped
  cases stepped with
  | work task _ moved shared =>
    refine lowers _ _ moved ?_
    rw [shared]
    exact lowers_advance worker task _ _ _ known settled
  | report crash _ moved shared =>
    refine lowers _ _ moved ?_
    rw [shared]
    exact Nat.add_lt_add_left (by decide : 1 < 2) _
  | leave crash _ moved shared =>
    refine lowers _ _ moved ?_
    rw [shared]
    exact Nat.add_lt_add_left (by decide : 0 < 1) _

end ReaderAudit

end LoadVerifier
