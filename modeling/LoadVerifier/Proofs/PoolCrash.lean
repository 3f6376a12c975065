/-
This file follows crashes through a pool. A worker that has crashed shows it for ever: it sits on
its crash, it is leaving with it, or it has left with it. So a pool in which somebody has crashed
stays spoiled.

Waiting for a pool tells of its crashes. As long as a worker has not left, the wait goes on. When
all of them have left it ends with the crash of the first worker that has one, where the first is
the one with the lowest number and not the one that crashed before the others.
-/
import LoadVerifier.Proofs.PoolStep

namespace LoadVerifier.Pool

variable {State Task World : Type} {pool next : Pool State Task} {world after : World}
  {worker : Nat} {advance : Advance State Task World}

/-! ### Crashes that stay visible -/

/-- The crash that a worker sits on, is leaving with, or has left with. -/
def crash? : Position Task → Option Crash
  | .working _ => none
  | .crashed crash => some crash
  | .leaving crash | .left crash => crash

/-- Some worker of the pool has crashed. -/
def Spoiled (pool : Pool State Task) : Prop :=
  ∃ worker position, pool.position? worker = some position ∧ (crash? position).isSome

theorem Moved.spoiled {before after : Position Task} (moved : Moved pool next worker before after)
    (kept : (crash? before).isSome → (crash? after).isSome) (spoiled : Spoiled pool) :
    Spoiled next := by
  obtain ⟨other, position, found, crashed⟩ := spoiled
  by_cases same : worker = other
  · subst same
    cases moved.position_eq.symm.trans found
    exact ⟨worker, after, moved.arrived, kept crashed⟩
  · exact ⟨other, position, (moved.stayed other same).trans found, crashed⟩

/-- A crash never goes unnoticed later. -/
theorem Stepped.spoiled (stepped : Stepped advance pool world worker next after)
    (spoiled : Spoiled pool) : Spoiled next := by
  cases stepped with
  | work task _ moved => exact moved.spoiled (fun crashed => nomatch crashed) spoiled
  | report crash _ moved => exact moved.spoiled id spoiled
  | leave crash _ moved => exact moved.spoiled id spoiled

/-- In a finished pool that is spoiled some worker has left with a crash. -/
theorem Spoiled.exists_left (spoiled : Spoiled pool) (counted : Counted pool)
    (finished : pool.finished = true) :
    ∃ worker crash, pool.position? worker = some (.left (some crash)) := by
  obtain ⟨worker, position, found, crashed⟩ := spoiled
  obtain ⟨crash, rfl⟩ := counted.left_of_finished finished worker position found
  obtain ⟨reason, rfl⟩ := Option.isSome_iff_exists.mp crashed
  exact ⟨worker, reason, found⟩

/-- In a pool without workers nobody has crashed. -/
theorem not_spoiled_of_unstaffed (unstaffed : pool.roster = none) : ¬Spoiled pool := by
  rintro ⟨worker, position, found, _⟩
  rw [position?, unstaffed] at found
  cases found

theorem crashed_of_isSome (move : Move Task) (crashed : (crash? (positionAfter move)).isSome) :
    ∃ crash, positionAfter move = .crashed crash := by
  cases move <;> first | exact ⟨_, rfl⟩ | cases crashed

/-- A pool stays unspoiled when the worker that took a step does not sit on a crash. -/
theorem Stepped.unspoiled (stepped : Stepped advance pool world worker next after)
    (unspoiled : ¬Spoiled pool)
    (uncrashed : ∀ crash, next.position? worker ≠ some (.crashed crash)) : ¬Spoiled next := by
  have others : ∀ other position, pool.position? other = some position →
      ¬(crash? position).isSome := fun other position found crashed =>
    unspoiled ⟨other, position, found, crashed⟩
  rintro ⟨other, position, found, crashed⟩
  refine absurd crashed ?_
  cases stepped with
  | work task _ moved =>
    refine moved.forall_positions others ?_
      other position found
    intro own
    obtain ⟨crash, equal⟩ := crashed_of_isSome _ own
    exact uncrashed crash (equal ▸ moved.arrived)
  | report crash _ moved => exact absurd rfl (others worker _ moved.position_eq)
  | leave crash _ moved =>
    exact moved.forall_positions others
      (others worker (.leaving crash) moved.position_eq) other position found

/-- In an unspoiled pool nobody has left with a crash. -/
theorem not_left_of_unspoiled (unspoiled : ¬Spoiled pool) (worker : Nat) (crash : Crash) :
    pool.position? worker ≠ some (.left (some crash)) :=
  fun found => unspoiled ⟨worker, _, found, rfl⟩

/-! ### Waiting for a pool with crashes -/

theorem left_of_leftCrash? (crash : Crash)
    (left : (pool.position? worker).bind Roster.leftCrash? = some crash) :
    pool.position? worker = some (.left (some crash)) := by
  obtain ⟨position, found, gone⟩ := Option.bind_eq_some_iff.mp left
  rw [found]
  cases position with
  | left reason =>
    cases gone
    rfl
  | working task => cases gone
  | crashed reason => cases gone
  | leaving reason => cases gone

/-- A wait for a pool that has workers fails only when one of them has crashed. -/
theorem spoiled_of_join (name : String) (staffed : 0 < pool.workerCount) (failure : Failure)
    (failed : join name pool = some (.error failure)) : Spoiled pool := by
  unfold join at failed
  cases known : pool.roster with
  | none =>
    rw [workerCount, known] at staffed
    exact absurd staffed (Nat.lt_irrefl 0)
  | some roster =>
    rw [known] at failed
    dsimp only at failed
    split at failed
    · split at failed
      · rename_i crash first
        obtain ⟨worker, _, left⟩ := List.exists_of_findSome?_eq_some first
        have found : pool.position? worker = some (.left (some crash)) :=
          left_of_leftCrash? crash (by rw [position?, known]; exact left)
        exact ⟨worker, _, found, rfl⟩
      · cases failed
    · cases failed

/-- The worker has left with a crash, and those with lower numbers have left without one. -/
def FirstCrash (pool : Pool State Task) (worker : Nat) (crash : Crash) : Prop :=
  pool.position? worker = some (.left (some crash)) ∧
    ∀ other < worker, pool.position? other = some (.left none)

/-- No worker with a lower number has left with a crash. -/
theorem FirstCrash.le {crash reason : Crash} (first : FirstCrash pool worker crash) (other : Nat)
    (left : pool.position? other = some (.left (some reason))) : worker ≤ other := by
  by_contra lower
  cases (first.2 other (not_le.mp lower)).symm.trans left

/-- In a finished pool that is spoiled some worker is the first that has left with a crash. -/
theorem Spoiled.exists_first (spoiled : Spoiled pool) (counted : Counted pool)
    (finished : pool.finished = true) : ∃ worker crash, FirstCrash pool worker crash := by
  classical
  have crashes := spoiled.exists_left counted finished
  obtain ⟨crash, left⟩ := Nat.find_spec crashes
  refine ⟨Nat.find crashes, crash, left, fun other lower => ?_⟩
  have inside := lt_workerCount_of_position pool _ _ left
  obtain ⟨position, found⟩ := exists_position_of_lt pool other (lower.trans inside)
  obtain ⟨reason, rfl⟩ := counted.left_of_finished finished other position found
  cases reason with
  | none => exact found
  | some other => exact absurd ⟨other, found⟩ (Nat.find_min crashes lower)

/-- A pool that has workers is finished exactly when all of them have left. -/
theorem Counted.finished_iff_left (counted : Counted pool) (some_worker : 0 < pool.workerCount) :
    pool.finished = true ↔
      ∀ worker < pool.workerCount, ∃ crash, pool.position? worker = some (.left crash) := by
  constructor
  · intro finished worker inside
    obtain ⟨position, found⟩ := exists_position_of_lt pool worker inside
    obtain ⟨crash, rfl⟩ := counted.left_of_finished finished worker position found
    exact ⟨crash, found⟩
  · intro left
    refine counted.finished_of_gone some_worker fun worker inside position found => ?_
    obtain ⟨crash, gone⟩ := left worker inside
    cases found.symm.trans gone
    rfl

/-- The wait for a pool that is not finished goes on. -/
theorem Counted.join_eq_none (name : String) (counted : Counted pool)
    (some_worker : 0 < pool.workerCount) (unfinished : pool.finished = false) :
    join name pool = none := by
  cases joined : join name pool with
  | none => rfl
  | some outcome =>
    have finished := counted.finished_of_join name some_worker outcome joined
    exact Bool.noConfusion (unfinished.symm.trans finished)

/-- The wait for a finished pool ends with its first crash. -/
theorem Counted.join_eq_error (name : String) (counted : Counted pool)
    (finished : pool.finished = true) (crash : Crash) (first : FirstCrash pool worker crash) :
    join name pool = some (.error (.crash crash)) := by
  obtain ⟨left, others⟩ := first
  obtain ⟨roster, known⟩ := Option.isSome_iff_exists.mp (counted.finished_iff.mp finished).1
  have position : ∀ worker, pool.position? worker = roster.position? worker := by
    intro worker
    rw [position?, known, Option.bind_some]
  have inside : worker < roster.count := by
    have known := congrArg (fun roster => (roster.map (·.count)).getD 0) known
    exact (lt_workerCount_of_position pool worker _ left).trans_eq known
  obtain ⟨rest, split⟩ := Nat.exists_eq_add_of_lt inside
  -- The search goes through the workers by number: it finds nothing below this one.
  have firstCrash : roster.firstCrash? = some crash := by
    have lower : ((List.range worker).findSome? fun worker =>
        (roster.position? worker).bind Roster.leftCrash?) = none := by
      refine List.findSome?_eq_none_iff.mpr fun other member => ?_
      rw [← position, others other (List.mem_range.mp member)]
      rfl
    rw [Roster.firstCrash?, split, Nat.add_assoc, List.range_add, List.findSome?_append, lower,
      Option.none_or, List.range_succ_eq_map, List.map_cons, List.findSome?_cons, Nat.add_zero,
      ← position, left]
    rfl
  rw [join, known]
  simp only [counted.allLeft finished roster known, firstCrash, if_true]

/-- In a pool that was waited for without a failure nobody has crashed. -/
theorem Counted.unspoiled_of_join (name : String) (counted : Counted pool)
    (finished : pool.finished = true) (joined : join name pool = some (.ok ())) :
    ¬Spoiled pool := by
  intro spoiled
  obtain ⟨worker, crash, first⟩ := spoiled.exists_first counted finished
  cases joined.symm.trans (counted.join_eq_error name finished crash first)

/-- The pool is finished, and a wait for it fails with its first crash. -/
def FailsWith (pool : Pool State Task) (failure : Failure) : Prop :=
  pool.finished = true ∧ ∃ worker crash, FirstCrash pool worker crash ∧ failure = .crash crash

theorem FailsWith.spoiled {failure : Failure} (fails : FailsWith pool failure) : Spoiled pool := by
  obtain ⟨_, worker, crash, first, _⟩ := fails
  exact ⟨worker, _, first.1, rfl⟩

/-- A wait for a pool that has workers fails only in this way. -/
theorem Counted.failsWith_of_join (name : String) (counted : Counted pool)
    (some_worker : 0 < pool.workerCount) (failure : Failure)
    (failed : join name pool = some (.error failure)) : FailsWith pool failure := by
  have finished := counted.finished_of_join name some_worker _ failed
  obtain ⟨worker, crash, first⟩ :=
    (spoiled_of_join name some_worker failure failed).exists_first counted finished
  refine ⟨finished, worker, crash, first, ?_⟩
  have told := counted.join_eq_error name finished crash first
  exact Except.error.inj (Option.some.inj (failed.symm.trans told))

end LoadVerifier.Pool
