/-
This file proves that a writer comes to its end, in every schedule and whatever its store answers:
each step of a worker lowers a potential. A key that is claimed adds the store calls of its record,
and a record has no more columns than the bounds allow.
-/
import LoadVerifier.Proofs.ReaderProgress
import LoadVerifier.Proofs.RecordShape
import LoadVerifier.Proofs.Schedule
import LoadVerifier.Proofs.WriterUndisturbed

namespace LoadVerifier

/-- It takes no more calls to write a record than the bounds allow it columns, in either write
mode. -/
theorem length_callsFor_le (multiPut : Bool) (key : Int) (bounds : Bounds) (record : Record)
    (generated : generate key bounds = .ok record) :
    (Writer.callsFor multiPut record).length ≤ bounds.maxColumns := by
  rw [Writer.callsFor]
  split
  · exact bounds.one_le_minColumns.trans bounds.minColumns_le
  · rw [List.length_map]
    exact (numColumns_bounds key bounds record generated).2

namespace WriterLife

open Pool (Moved)
open ReaderAudit (unclaimed unclaimed_of_claim)

variable {Storage : Type} {plan : WritePlan} {life next : WriterLife Storage} {worker : Nat}

/-- The steps that a worker takes at most until it has left, unless it claims a key. -/
def stepsLeft : Position WriterTask → Nat
  | .working task =>
    match task with
    | .claim => 2
    | .checkStop => 3
    | .fail _ _ | .count _ => 4
    | .complete _ => 5
    | .write _ calls => calls.length + 6
  | .crashed _ => 2
  | .leaving _ => 1
  | .left _ => 0

/-- The steps that are left at most: those for each key that is not claimed yet, and those of the
workers. -/
def potential (plan : WritePlan) (life : WriterLife Storage) : Nat :=
  (plan.bounds.maxColumns + 5) * unclaimed life.writer.shared + life.writer.total stepsLeft

theorem potential_lt_of_moved {before after : Position WriterTask}
    (moved : Moved life.writer next.writer worker before after)
    (less : (plan.bounds.maxColumns + 5) * unclaimed next.writer.shared + stepsLeft after <
      (plan.bounds.maxColumns + 5) * unclaimed life.writer.shared + stepsLeft before) :
    next.potential plan < life.potential plan := by
  have owed := moved.total_add stepsLeft
  rw [potential, potential]
  omega

theorem stepsLeft_afterCall (record : Record) (rest : List Columns) :
    stepsLeft (.working (afterCall record rest)) ≤ rest.length + 6 := by
  rw [afterCall]
  split <;> simp [stepsLeft]

theorem stepsLeft_of_pass {shared after : Shared} {before position : Position WriterTask}
    (pass : Pass shared before position after) (known : shared.cursor.isSome) :
    stepsLeft position < stepsLeft before := by
  cases pass with
  | baseless unknown =>
    rw [unknown] at known
    cases known
  | _ => simp [stepsLeft]

/-- Every step of a worker lowers the potential. -/
theorem Change.potential_lt [Store Storage] (change : Change life worker next)
    (faithful : life.Faithful plan) : next.potential plan < life.potential plan := by
  obtain ⟨cursor, known, _⟩ := faithful.accounted.claimed
  cases change with
  | passed writer before after moved pass state =>
    refine potential_lt_of_moved moved ?_
    have same : unclaimed writer.shared = unclaimed life.writer.shared := by
      rw [unclaimed, unclaimed, cursor_eq_of_pass pass]
    rw [same]
    exact Nat.add_lt_add_left (stepsLeft_of_pass pass (by rw [known]; rfl)) _
  | claimed writer claimable bounds record moved found left bounded generated shared state =>
    refine potential_lt_of_moved moved ?_
    cases faithful.bounds_eq.symm.trans bounded
    have calls := length_callsFor_le life.writer.state.multiPut _ _ _ generated
    rw [← unclaimed_of_claim _ writer.shared claimable found left (by rw [shared]), Nat.mul_add]
    show _ * unclaimed writer.shared +
      ((Writer.callsFor life.writer.state.multiPut record).length + 6) < _ + 2
    omega
  | barren writer claimable crash moved found left ungenerated shared state =>
    refine potential_lt_of_moved moved ?_
    rw [← unclaimed_of_claim _ writer.shared claimable found left (by rw [shared]), Nat.mul_add]
    show _ * unclaimed writer.shared + 2 < _ + 2
    omega
  | stored writer record call rest moved done shared state =>
    refine potential_lt_of_moved moved ?_
    rw [shared]
    exact Nat.add_lt_add_left (Nat.lt_succ_of_le (stepsLeft_afterCall record rest)) _
  | _ =>
    rename_i shared _
    have moved := ‹Moved life.writer _ worker _ _›
    refine potential_lt_of_moved moved ?_
    rw [shared]
    exact Nat.add_lt_add_left (by simp [stepsLeft]) _

/-- As long as a writer is not finished, some worker has a step. -/
theorem exists_work [Store Storage] (life : WriterLife Storage)
    (counted : Pool.Counted life.writer) (some_worker : 0 < Pool.workerCount life.writer)
    (unfinished : Pool.finished life.writer = false) :
    ∃ worker, (life.work worker).isSome := by
  obtain ⟨worker, stepped⟩ := counted.exists_step some_worker unfinished Writer.poolName
    (Writer.advance : Advance WriterState WriterTask Storage) life.store
  exact ⟨worker, by rw [work, Option.isSome_map]; exact stepped⟩

/-- A writer that has just started has a bounded number of steps before it. -/
theorem potential_of_starts (threads : Int) (writer : Writer) (starts : plan.Starts threads writer)
    (store : Storage) : (⟨writer, store, {}⟩ : WriterLife Storage).potential plan =
      (plan.bounds.maxColumns + 5) * plan.range.size + 3 * threads.toNat := by
  obtain ⟨_, now, rfl⟩ := eq_spawn_of_starts threads writer starts
  rw [potential, Pool.total_spawn, Nat.mul_comm 3]
  rfl

/-- No schedule is longer than the steps for each key and three for each worker. -/
theorem length_schedule_le [Store Storage] (threads : Int) (writer : Writer)
    (starts : plan.Starts threads writer) (store : Storage) (schedule : List Nat)
    (ran : replay work ⟨writer, store, {}⟩ schedule = some life) :
    schedule.length ≤ (plan.bounds.maxColumns + 5) * plan.range.size + 3 * threads.toNat := by
  have start : (⟨writer, store, {}⟩ : WriterLife Storage).Faithful plan := by
    obtain ⟨_, now, rfl⟩ := eq_spawn_of_starts threads writer starts
    exact (faithful_of_unused plan.idle store plan.range plan.bounds rfl rfl rfl rfl
      fun _ => Std.TreeSet.not_mem_emptyc).spawn rfl threads now
  have bounded := replay_length_le (fun state => state.Faithful plan)
    (fun state worker next faithful worked =>
      (change_of_work state next worker worked).faithful faithful)
    (potential plan) (fun state worker next faithful worked =>
      (change_of_work state next worker worked).potential_lt faithful) _ life schedule start ran
  rw [potential_of_starts threads writer starts store] at bounded
  omega

end WriterLife

end LoadVerifier
