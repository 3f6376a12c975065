/-
This file proves that a reader that is not linked to a writer comes to its end, in every schedule:
each step of a worker lowers a potential, so there are only so many steps, and as long as the reader
is not finished some worker has one.
-/
import LoadVerifier.Proofs.ReaderAudit

namespace LoadVerifier.ReaderAudit

open LoadVerifier.Random
open Pool (Moved)

variable {Storage Source : Type} {audit next : ReaderAudit Storage Source} {worker : Nat}

/-- A worker waits for a writer. -/
def WaitsAt : Position ReaderTask → Prop
  | .working (.look _ _ _) | .working (.askFinished _ _ _) | .working (.lookAgain _ _)
  | .working (.unreachable _ _) | .working (.pause _ _ _) => True
  | _ => False

/-- The steps that a worker takes at most until it has left, unless it claims a key or waits for a
writer that is not finished. -/
def stepsLeft : Position ReaderTask → Nat
  | .working task =>
    match task with
    | .claim _ => 2
    | .checkStop _ => 3
    | .seed | .unreachable _ _ | .verified _ _ | .stopPool _ _ => 4
    | .abort _ _ => 5
    | .recordError _ _ _ => 6
    | .countRow _ _ _ _ => 7
    | .countRead _ _ _ _ => 8
    | .read _ _ _ => 9
    | .lookAgain _ _ => 10
    | .askFinished _ _ _ => 11
    | .look _ _ _ => 12
    | .pause _ _ _ => 13
  | .crashed _ => 2
  | .leaving _ => 1
  | .left _ => 0

/-- The number of keys that are not claimed yet. -/
def unclaimed (shared : Shared) : Nat :=
  (shared.cursor.map fun cursor => (cursor.range.limit - cursor.next).toNat).getD 0

/-- A key that was claimed is not unclaimed any more. -/
theorem unclaimed_of_claim (shared after : Shared) (cursor : Cursor)
    (known : shared.cursor = some cursor) (left : cursor.next < cursor.range.limit)
    (advanced : after.cursor = some cursor.claim.2) : unclaimed after + 1 = unclaimed shared := by
  have next := (cursor.claim_of_lt left).2
  simp only [unclaimed, known, advanced, Option.map_some, Option.getD_some, cursor.claim_range,
    next]
  omega

/-- The steps that are left at most: eight for each key that is not claimed yet, and those of the
workers. -/
def potential (audit : ReaderAudit Storage Source) : Nat :=
  8 * unclaimed audit.reader.shared + audit.reader.total stepsLeft

theorem potential_lt_of_moved {before after : Position ReaderTask}
    (moved : Moved audit.reader next.reader worker before after)
    (less : 8 * unclaimed next.reader.shared + stepsLeft after <
      8 * unclaimed audit.reader.shared + stepsLeft before) :
    next.potential < audit.potential := by
  have owed := moved.total_add stepsLeft
  rw [potential, potential]
  omega

/-- A reader that has just started has a bounded number of steps before it. -/
theorem potential_of_starts (plan : ReadPlan) (threads : Int) (reader : Reader)
    (starts : plan.Starts threads reader) (world : ReaderWorld Storage Source) :
    potential ⟨reader, world, {}⟩ = 8 * plan.range.size + 4 * threads.toNat := by
  obtain ⟨_, _, now, rfl⟩ := plan.eq_spawn_of_starts threads reader starts
  rw [potential, Pool.total_spawn, Nat.mul_comm 4]
  rfl

/-- Every step of a worker that waits for no writer lowers the potential. -/
theorem Change.potential_lt [Store Storage] (change : Change audit worker next)
    (known : audit.reader.shared.cursor.isSome) (unlinked : audit.world.source = none)
    (unwaiting : ∀ worker position, audit.reader.position? worker = some position →
      ¬WaitsAt position) : next.potential < audit.potential := by
  cases change with
  | wandered reader before after wanders moved shared state =>
    refine potential_lt_of_moved moved ?_
    rw [shared]
    refine Nat.add_lt_add_left ?_ _
    cases wanders with
    | baseless stream unknown =>
      rw [unknown] at known
      cases known
    | _ => simp [stepsLeft]
  | claimed reader stream cursor found left moved shared state =>
    refine potential_lt_of_moved moved ?_
    rw [unlinked, ← unclaimed_of_claim _ reader.shared cursor found left (by rw [shared])]
    show 8 * unclaimed reader.shared + 9 < 8 * _ + 2
    omega
  | waited reader before after key source waits linked moved shared state =>
    have own := unwaiting worker _ moved.position_eq
    cases waits <;> exact absurd trivial own
  | gaveUp reader stream key delay stopped moved shared state =>
    exact absurd trivial (unwaiting worker _ moved.position_eq)
  | missed reader stream key moved shared state =>
    exact absurd trivial (unwaiting worker _ moved.position_eq)
  | countedRow reader stream key verify row moved shared state =>
    refine potential_lt_of_moved moved ?_
    rw [shared]
    refine Nat.add_lt_add_left ?_ _
    exact judge_cases stream key verify row audit.reader.state.bounds
      (motive := fun _ move => stepsLeft (Pool.positionAfter move) < 7)
      (by simp [stepsLeft, Pool.positionAfter]) (by simp [stepsLeft, Pool.positionAfter])
      (by simp [stepsLeft, Pool.positionAfter])
      (fun _ => by simp [stepsLeft, Pool.positionAfter])
      fun _ => by simp [stepsLeft, Pool.positionAfter]
  | erred reader stream key problems moved shared state =>
    refine potential_lt_of_moved moved ?_
    rw [shared]
    refine Nat.add_lt_add_left ?_ _
    split <;> simp [stepsLeft]
  | _ =>
    rename_i moved shared state
    refine potential_lt_of_moved moved ?_
    rw [shared]
    exact Nat.add_lt_add_left (by simp [stepsLeft]) _

/-- As long as a reader is not finished, some worker has a step. -/
theorem exists_work [Store Storage] [WatermarkSource Source] (audit : ReaderAudit Storage Source)
    (counted : Pool.Counted audit.reader) (some_worker : 0 < Pool.workerCount audit.reader)
    (unfinished : Pool.finished audit.reader = false) :
    ∃ worker, (audit.work worker).isSome := by
  obtain ⟨worker, stepped⟩ := counted.exists_step some_worker unfinished Reader.poolName
    (Reader.advance : Advance ReaderState ReaderTask (ReaderWorld Storage Source)) audit.world
  exact ⟨worker, by rw [work, Option.isSome_map]; exact stepped⟩

end LoadVerifier.ReaderAudit
