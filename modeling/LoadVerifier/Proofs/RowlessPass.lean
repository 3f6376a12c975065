/-
This file follows a reader over a store that holds no rows. Whatever share of the keys it is to
verify, however many errors it tolerates, and whether somebody stops it or not, no key that it is
done with had a row. So its account has a flaw as soon as there is a key to read.
-/
import LoadVerifier.Proofs.SmoothReader

namespace LoadVerifier.ReaderAudit

variable {Storage Source : Type} {audit next : ReaderAudit Storage Source} {worker : Nat}

/-- A worker has no row in its hands. -/
def HoldsNoRow : Position ReaderTask → Prop
  | .working (.countRead _ _ _ row) | .working (.countRow _ _ _ row) => row = none
  | .working _ | .crashed _ | .leaving _ | .left _ => True

/-- No key that the reader is done with had a row, and no worker has one in its hands. -/
structure Rowless (audit : ReaderAudit Storage Source) : Prop where
  fates : ∀ entry ∈ audit.account.fates, entry.2.hasRow = false
  empty : ∀ worker position, audit.reader.position? worker = some position → HoldsNoRow position

theorem fates_close (account : ReadAccount) (key : Int) (fate : Fate)
    (former : ∀ entry ∈ account.fates, entry.2.hasRow = false) (rowless : fate.hasRow = false) :
    ∀ entry ∈ (account.close key fate).fates, entry.2.hasRow = false := by
  intro entry member
  rcases List.mem_append.mp member with old | new
  · exact former entry old
  · cases List.mem_singleton.mp new
    exact rowless

theorem holdsNoRow_of_wanders {shared : Shared} {state : ReaderState}
    {before after : Position ReaderTask} (wanders : Wanders shared state worker before after) :
    HoldsNoRow after := by
  cases wanders <;> trivial

theorem holdsNoRow_of_waits {state : ReaderState} {key : Int} {before after : ReaderTask}
    (waits : Waits state key before after) : HoldsNoRow (.working after) := by
  cases waits <;> trivial

theorem holdsNoRow_judge (stream : Random.Stream) (key : Int) (verify : Bool)
    (row : Option Columns) (bounds : Bounds) :
    HoldsNoRow (Pool.positionAfter (Reader.judge stream key verify row bounds)) :=
  judge_cases stream key verify row bounds
    (motive := fun _ move => HoldsNoRow (Pool.positionAfter move)) trivial trivial trivial
    (fun _ => trivial) fun _ => trivial

/-- A step of a worker finds no row, as long as the reads give none. -/
theorem Rowless.work [Store Storage] [WatermarkSource Source] (rowless : Rowless audit)
    (none : ∀ caller key row, (Store.read audit.world.store caller key).1 = .done row →
      row = none) (worked : audit.work worker = some next) : Rowless next := by
  obtain ⟨fates, empty⟩ := rowless
  cases change_of_work audit next worker worked with
  | wandered reader before after wanders moved =>
    exact ⟨fates, moved.forall_positions empty (holdsNoRow_of_wanders wanders)⟩
  | claimed reader stream cursor known left moved =>
    refine ⟨fates, moved.forall_positions empty ?_⟩
    split <;> trivial
  | waited reader before after key source waits linked moved =>
    exact ⟨fates, moved.forall_positions empty (holdsNoRow_of_waits waits)⟩
  | gaveUp reader stream key delay stopped moved =>
    exact ⟨fates_close _ key _ fates rfl, moved.forall_positions empty trivial⟩
  | missed reader stream key moved =>
    exact ⟨fates_close _ key _ fates rfl, moved.forall_positions empty trivial⟩
  | read reader stream key verify row answer moved =>
    exact ⟨fates, moved.forall_positions empty (none _ key row answer)⟩
  | refused reader stream key verify failure answer moved =>
    exact ⟨fates_close _ key _ fates rfl, moved.forall_positions empty trivial⟩
  | broke reader stream key verify crash answer moved =>
    exact ⟨fates_close _ key _ fates rfl, moved.forall_positions empty trivial⟩
  | countedRead reader stream key verify row moved =>
    have noRow : row = .none := empty worker _ moved.position_eq
    exact ⟨fates, moved.forall_positions empty noRow⟩
  | countedRow reader stream key verify row moved =>
    have noRow : row = .none := empty worker _ moved.position_eq
    subst noRow
    exact ⟨fates_close _ key _ fates rfl,
      moved.forall_positions empty (holdsNoRow_judge stream key verify _ _)⟩
  | erred reader stream key problems moved =>
    refine ⟨fates, moved.forall_positions empty ?_⟩
    split <;> trivial
  | _ =>
    rename_i moved _ _
    exact ⟨fates, moved.forall_positions empty trivial⟩

theorem rowless_of_starts {plan : ReadPlan} (threads : Int) (reader : Reader)
    (starts : plan.Starts threads reader) (world : ReaderWorld Storage Source) :
    Rowless ⟨reader, world, {}⟩ := by
  obtain ⟨_, _, now, rfl⟩ := plan.eq_spawn_of_starts threads reader starts
  refine ⟨fun entry member => absurd member List.not_mem_nil, fun worker position found => ?_⟩
  rw [Pool.eq_of_position?_spawn _ _ _ _ _ _ found]
  trivial

/-- A reader that has found no row has no flawless account of a range with a key in it. -/
theorem Rowless.not_flawless (rowless : Rowless audit) (range : KeyRange)
    (some_key : range.start < range.limit) : ¬audit.account.Flawless range := by
  rintro ⟨rows, _⟩
  obtain ⟨fate, member, row⟩ := rows range.start (Int.le_refl _) some_key
  exact Bool.noConfusion (row.symm.trans (rowless.fates _ member))

end LoadVerifier.ReaderAudit
