/-
This file says once what a step of a worker does to its pool, whatever the task is: one worker
moves from one position to another, all others stay where they are, and what is shared changes as
the turn of the task says.

From that follow the two facts that all counting rests on. A total over the positions of the
workers changes by the difference between the two positions of the one that moved. And the number
of workers that have not left is counted exactly, so a pool is finished if and only if all of them
have left.
-/
import LoadVerifier.Pool.Basic
import Mathlib.Algebra.Order.BigOperators.Group.Finset

namespace LoadVerifier.Pool

variable {State Task World : Type}

/-- The number of workers of a pool. -/
def workerCount (pool : Pool State Task) : Nat := (pool.roster.map (·.count)).getD 0

/-- One worker moves between two positions, and nobody else moves. -/
structure Moved (pool next : Pool State Task) (worker : Nat) (before after : Position Task) :
    Prop where
  position_eq : pool.position? worker = some before
  positions : ∀ other,
    next.position? other = if worker = other then some after else pool.position? other
  workerCount_eq : next.workerCount = pool.workerCount

theorem Moved.arrived {pool next : Pool State Task} {worker : Nat} {before after : Position Task}
    (moved : Moved pool next worker before after) : next.position? worker = some after := by
  rw [moved.positions, if_pos rfl]

theorem Moved.stayed {pool next : Pool State Task} {worker : Nat} {before after : Position Task}
    (moved : Moved pool next worker before after) (other : Nat) (different : worker ≠ other) :
    next.position? other = pool.position? other := by
  rw [moved.positions, if_neg different]

theorem moved_place (pool : Pool State Task) (roster placed : Roster Task) (worker : Nat)
    (before after : Position Task) (known : pool.roster = some roster)
    (found : roster.position? worker = some before) (shared : Shared) (state : State)
    (sameMoved : placed.moved = (roster.place worker after).moved)
    (sameCount : placed.count = roster.count) (sameTask : placed.task = roster.task) :
    Moved pool ⟨shared, state, some placed⟩ worker before after where
  position_eq := by rw [position?, known]; exact found
  positions other := by
    have placedPosition : placed.position? other = (roster.place worker after).position? other := by
      rw [Roster.position?, Roster.position?, sameMoved, sameCount, sameTask]
      rfl
    have inside : worker < roster.count := by
      by_contra outside
      rw [Roster.position?, if_neg outside] at found
      cases found
    show placed.position? other = _
    rw [placedPosition, Roster.position?_place, position?, known, Option.bind_some]
    by_cases same : worker = other
    · rw [if_pos ⟨same, same ▸ inside⟩, if_pos same]
    · rw [if_neg (fun both => same both.1), if_neg same]
  workerCount_eq := by rw [workerCount, workerCount, known]; exact sameCount

/-! ### What a step does -/

/-- The three things a step of a worker can be: a turn of its task, the report of its crash, or
its leaving. -/
inductive Stepped (advance : Advance State Task World) (pool : Pool State Task) (world : World)
    (worker : Nat) : Pool State Task → World → Prop
  | work (task : Task) (next : Pool State Task)
      (moved : Moved pool next worker (.working task)
        (positionAfter (advance worker task pool.shared pool.state world).move))
      (shared : next.shared = (advance worker task pool.shared pool.state world).shared)
      (state : next.state = (advance worker task pool.shared pool.state world).state)
      (active : next.active = pool.active) (finished : next.finished = pool.finished) :
      Stepped advance pool world worker next
        (advance worker task pool.shared pool.state world).world
  | report (crash : Crash) (next : Pool State Task)
      (moved : Moved pool next worker (.crashed crash) (.leaving (some crash)))
      (shared : next.shared = { pool.shared with stopRequested := true })
      (state : next.state = pool.state)
      (active : next.active = pool.active) (finished : next.finished = pool.finished) :
      Stepped advance pool world worker next world
  | leave (crash : Option Crash) (next : Pool State Task)
      (moved : Moved pool next worker (.leaving crash) (.left crash))
      (shared : next.shared = pool.shared) (state : next.state = pool.state)
      (active : next.active = pool.active - 1)
      (finished : next.finished = (pool.finished || pool.active - 1 == 0)) :
      Stepped advance pool world worker next world

theorem stepped_of_step (name : String) (advance : Advance State Task World)
    (pool next : Pool State Task) (world after : World) (worker : Nat) (notices : List Notice)
    (stepped : step name advance pool world worker = some (next, after, notices)) :
    Stepped advance pool world worker next after := by
  rw [step] at stepped
  cases known : pool.roster with
  | none => rw [known] at stepped; cases stepped
  | some roster =>
    have active : pool.active = roster.active := by rw [Pool.active, known]; rfl
    have finished : pool.finished = roster.finished := by rw [Pool.finished, known]; rfl
    rw [known] at stepped
    simp only at stepped
    cases found : roster.position? worker with
    | none => rw [found] at stepped; cases stepped
    | some position =>
      rw [found] at stepped
      cases position with
      | working task =>
        cases stepped
        exact .work task _ (moved_place pool roster _ worker _ _ known found _ _ rfl rfl rfl)
          rfl rfl active.symm finished.symm
      | crashed crash =>
        cases stepped
        exact .report crash _ (moved_place pool roster _ worker _ _ known found _ _ rfl rfl rfl)
          rfl rfl active.symm finished.symm
      | leaving crash =>
        cases stepped
        refine .leave crash _ (moved_place pool roster _ worker _ _ known found _ _ rfl rfl rfl)
          rfl rfl ?_ ?_
        · rw [active]; rfl
        · rw [active, finished]; rfl
      | left crash => cases stepped

/-- A worker of a pool is at a task. -/
def At (pool : Pool State Task) (worker : Nat) (task : Task) : Prop :=
  pool.position? worker = some (.working task)

/-- The turn of a worker at a task was taken: where the worker went, and what was left behind. -/
structure Taken (turn : Turn State Task World) (worker : Nat) (next : Pool State Task)
    (after : World) : Prop where
  arrived : next.position? worker = some (positionAfter turn.move)
  shared : next.shared = turn.shared
  state : next.state = turn.state
  world : after = turn.world

theorem Taken.move_eq {turn : Turn State Task World} {worker : Nat} {next : Pool State Task}
    {after : World} (taken : Taken turn worker next after) {task : Task}
    (there : next.At worker task) : turn.move = .to task := by
  have arrived := Option.some.inj (taken.arrived.symm.trans there)
  cases moves : turn.move <;> rw [moves] at arrived <;> cases arrived
  rfl

/-- A step of a worker at a task is the turn of that task. -/
theorem Stepped.taken {advance : Advance State Task World} {pool next : Pool State Task}
    {world after : World} {worker : Nat} (stepped : Stepped advance pool world worker next after)
    {task : Task} (here : pool.At worker task) :
    Taken (advance worker task pool.shared pool.state world) worker next after := by
  cases stepped with
  | work other _ moved shared state =>
    cases moved.position_eq.symm.trans here
    exact ⟨moved.arrived, shared, state, rfl⟩
  | report crash _ moved =>
    cases moved.position_eq.symm.trans here
  | leave crash _ moved =>
    cases moved.position_eq.symm.trans here

section Total

variable {Weight : Type} [AddCommMonoid Weight]

/-- The weight of one worker by its position; nothing when there is no such worker. -/
def weightOf (weight : Position Task → Weight) (pool : Pool State Task) (worker : Nat) : Weight :=
  ((pool.position? worker).map weight).getD 0

/-- The weights of all workers together. -/
def total (weight : Position Task → Weight) (pool : Pool State Task) : Weight :=
  ∑ worker ∈ Finset.range pool.workerCount, weightOf weight pool worker

theorem weightOf_of_position (weight : Position Task → Weight) (pool : Pool State Task)
    (worker : Nat) (position : Position Task) (found : pool.position? worker = some position) :
    weightOf weight pool worker = weight position := by
  rw [weightOf, found]
  rfl

theorem lt_workerCount_of_position (pool : Pool State Task) (worker : Nat)
    (position : Position Task) (found : pool.position? worker = some position) :
    worker < pool.workerCount := by
  rw [position?] at found
  obtain ⟨roster, known, inRoster⟩ := Option.bind_eq_some_iff.mp found
  rw [workerCount, known]
  by_contra outside
  rw [Roster.position?, if_neg (by simpa using outside)] at inRoster
  cases inRoster

theorem exists_position_of_lt (pool : Pool State Task) (worker : Nat)
    (inside : worker < pool.workerCount) : ∃ position, pool.position? worker = some position := by
  rw [workerCount] at inside
  cases known : pool.roster with
  | none => rw [known] at inside; exact absurd inside (Nat.not_lt_zero worker)
  | some roster =>
    rw [known] at inside
    exact ⟨_, by rw [position?, known, Option.bind_some, Roster.position?]; exact if_pos inside⟩

/-- A total without the weight of one worker. -/
theorem weight_add_others (weight : Position Task → Weight) (pool : Pool State Task)
    (worker : Nat) (position : Position Task) (found : pool.position? worker = some position) :
    weight position +
        ∑ other ∈ (Finset.range pool.workerCount).erase worker, weightOf weight pool other =
      pool.total weight := by
  have member : worker ∈ Finset.range pool.workerCount :=
    Finset.mem_range.mpr (lt_workerCount_of_position pool worker position found)
  rw [total, ← Finset.add_sum_erase _ _ member, weightOf_of_position weight pool worker _ found]

/-- When one worker moves, the total changes by the difference between its two weights. -/
theorem Moved.total_add {pool next : Pool State Task} {worker : Nat}
    {before after : Position Task} (moved : Moved pool next worker before after)
    (weight : Position Task → Weight) :
    next.total weight + weight before = pool.total weight + weight after := by
  have arrived := moved.arrived
  have others :
      ∑ other ∈ (Finset.range next.workerCount).erase worker, weightOf weight next other =
        ∑ other ∈ (Finset.range pool.workerCount).erase worker, weightOf weight pool other := by
    rw [moved.workerCount_eq]
    refine Finset.sum_congr rfl fun other member => ?_
    rw [weightOf, weightOf, moved.stayed other (Finset.ne_of_mem_erase member).symm]
  rw [← weight_add_others weight next worker after arrived,
    ← weight_add_others weight pool worker before moved.position_eq, others, add_right_comm,
    add_comm (weight after), add_right_comm]

/-- A total of nothing but zeros is zero. -/
theorem total_eq_zero (weight : Position Task → Weight) (pool : Pool State Task)
    (zero : ∀ worker position, pool.position? worker = some position → weight position = 0) :
    pool.total weight = 0 := by
  refine Finset.sum_eq_zero fun worker _ => ?_
  rw [weightOf]
  cases found : pool.position? worker with
  | none => rfl
  | some position => exact zero worker position found

/-- A total of smaller weights is smaller. -/
theorem total_mono (lighter heavier : Position Task → Nat)
    (each : ∀ position, lighter position ≤ heavier position) (pool : Pool State Task) :
    pool.total lighter ≤ pool.total heavier := by
  refine Finset.sum_le_sum fun worker _ => ?_
  rw [weightOf, weightOf]
  cases pool.position? worker with
  | none => exact Nat.le_refl _
  | some position => exact each position

/-- When nobody weighs more than one, the total is at most the number of workers. -/
theorem total_le_workerCount (weight : Position Task → Nat)
    (each : ∀ position, weight position ≤ 1) (pool : Pool State Task) :
    pool.total weight ≤ pool.workerCount := by
  have counted := Finset.sum_le_card_nsmul (Finset.range pool.workerCount)
    (weightOf weight pool) 1 fun worker _ => by
      rw [weightOf]
      cases pool.position? worker with
      | none => exact Nat.zero_le 1
      | some position => exact each position
  refine counted.trans_eq ?_
  simp

end Total

section Held

variable {Item : Type} {held : Position Task → Multiset Item}

/-- What was opened is either closed or held by some worker. This stays so when the worker that
moves holds afterwards what it held before and what was opened meanwhile, but for what was
closed. -/
theorem Moved.conserved {pool next : Pool State Task} {worker : Nat}
    {before after : Position Task} (moved : Moved pool next worker before after)
    (opened closed new shut : Multiset Item) (conserved : opened = closed + pool.total held)
    (balance : held before + new = held after + shut) :
    opened + new = closed + shut + next.total held := by
  refine add_right_cancel (b := held before) ?_
  calc opened + new + held before
      = closed + (pool.total held + (held before + new)) := by
        rw [conserved]
        ac_rfl
    _ = closed + (pool.total held + held after + shut) := by rw [balance, add_assoc]
    _ = closed + (next.total held + held before + shut) := by rw [moved.total_add held]
    _ = closed + shut + next.total held + held before := by ac_rfl

/-- Something is in a total if and only if some worker holds it. -/
theorem mem_total_iff (pool : Pool State Task) (item : Item) :
    item ∈ pool.total held ↔
      ∃ worker position, pool.position? worker = some position ∧ item ∈ held position := by
  rw [total, Multiset.mem_sum]
  constructor
  · rintro ⟨worker, _, member⟩
    rw [weightOf] at member
    cases found : pool.position? worker with
    | none => rw [found] at member; exact absurd member (Multiset.notMem_zero item)
    | some position => rw [found] at member; exact ⟨worker, position, found, member⟩
  · rintro ⟨worker, position, found, member⟩
    have inside := lt_workerCount_of_position pool worker position found
    refine ⟨worker, Finset.mem_range.mpr inside, ?_⟩
    rw [weightOf_of_position held pool worker position found]
    exact member

/-- What is held once is held by one worker. -/
theorem eq_of_mem_held (held : Position Task → Multiset Item) (pool : Pool State Task)
    (nodup : (pool.total held).Nodup)
    (first second : Nat) (firstPosition secondPosition : Position Task) (item : Item)
    (firstFound : pool.position? first = some firstPosition)
    (secondFound : pool.position? second = some secondPosition)
    (firstHolds : item ∈ held firstPosition) (secondHolds : item ∈ held secondPosition) :
    first = second := by
  by_contra different
  rw [← weight_add_others held pool first firstPosition firstFound, Multiset.nodup_add] at nodup
  refine Multiset.disjoint_left.mp nodup.2.2 firstHolds ?_
  rw [Multiset.mem_sum]
  refine ⟨second, Finset.mem_erase.mpr ⟨Ne.symm different, Finset.mem_range.mpr ?_⟩, ?_⟩
  · exact lt_workerCount_of_position pool second secondPosition secondFound
  · rw [weightOf_of_position held pool second secondPosition secondFound]
    exact secondHolds

end Held

/-! ### Workers that have left -/

/-- One for a worker that has not left. -/
def stillIn (position : Position Task) : Nat := if Roster.hasLeft position then 0 else 1

/-- The workers that have not left are counted exactly, and a pool is finished when it has workers
and all of them have left. -/
structure Counted (pool : Pool State Task) : Prop where
  active_eq : pool.active = pool.total stillIn
  finished_iff : pool.finished = true ↔ pool.roster.isSome ∧ pool.active = 0

theorem stillIn_positionAfter (move : Move Task) : stillIn (positionAfter move) = 1 := by
  cases move <;> rfl

theorem isSome_roster_of_position (pool : Pool State Task) (worker : Nat)
    (position : Position Task) (found : pool.position? worker = some position) :
    pool.roster.isSome := by
  rw [position?] at found
  obtain ⟨roster, known, _⟩ := Option.bind_eq_some_iff.mp found
  rw [known]
  rfl

/-- A pool that has a worker has workers. -/
theorem isSome_roster_of_some_worker {pool : Pool State Task}
    (some_worker : 0 < pool.workerCount) : pool.roster.isSome := by
  obtain ⟨position, found⟩ := exists_position_of_lt pool 0 some_worker
  exact isSome_roster_of_position pool 0 position found

theorem Moved.isSome_roster {pool next : Pool State Task} {worker : Nat}
    {before after : Position Task} (moved : Moved pool next worker before after) :
    pool.roster.isSome ∧ next.roster.isSome := by
  refine ⟨isSome_roster_of_position pool worker before moved.position_eq, ?_⟩
  exact isSome_roster_of_position next worker after moved.arrived

/-- Only a pool that has workers takes steps. -/
theorem Stepped.isSome_roster {advance : Advance State Task World} {pool next : Pool State Task}
    {world after : World} {worker : Nat} (stepped : Stepped advance pool world worker next after) :
    pool.roster.isSome := by
  cases stepped with
  | work task _ moved => exact moved.isSome_roster.1
  | report crash _ moved => exact moved.isSome_roster.1
  | leave crash _ moved => exact moved.isSome_roster.1

/-- A worker that moves without leaving keeps the count. -/
theorem Counted.of_moved {pool next : Pool State Task} {worker : Nat}
    {before after : Position Task} (counted : Counted pool)
    (moved : Moved pool next worker before after) (same : stillIn before = stillIn after)
    (active : next.active = pool.active) (finished : next.finished = pool.finished) :
    Counted next := by
  have total := moved.total_add stillIn
  rw [same] at total
  have totals : next.total stillIn = pool.total stillIn := Nat.add_right_cancel total
  obtain ⟨started, stillStarted⟩ := moved.isSome_roster
  exact ⟨by rw [active, totals, counted.active_eq],
    by rw [finished, active, counted.finished_iff, started, stillStarted]⟩

/-- Every step keeps the count of the workers that have not left. -/
theorem Stepped.counted {advance : Advance State Task World} {pool next : Pool State Task}
    {world after : World} {worker : Nat} (stepped : Stepped advance pool world worker next after)
    (counted : Counted pool) : Counted next := by
  cases stepped with
  | work task _ moved _ _ active finished =>
    exact counted.of_moved moved (stillIn_positionAfter _).symm active finished
  | report crash _ moved _ _ active finished => exact counted.of_moved moved rfl active finished
  | leave crash _ moved _ _ active finished =>
    have total : next.total stillIn + 1 = pool.total stillIn := moved.total_add stillIn
    have activeEq := counted.active_eq
    obtain ⟨started, stillStarted⟩ := moved.isSome_roster
    have unfinished : pool.finished = false := by
      rw [Bool.eq_false_iff]
      intro ended
      have none := (counted.finished_iff.mp ended).2
      omega
    refine ⟨by rw [active]; omega, ?_⟩
    rw [finished, unfinished, active, Bool.false_or, beq_iff_eq]
    exact ⟨fun zero => ⟨stillStarted, zero⟩, fun both => both.2⟩

/-- In a finished pool every worker has left. -/
theorem Counted.left_of_finished {pool : Pool State Task} (counted : Counted pool)
    (finished : pool.finished = true) (worker : Nat) (position : Position Task)
    (found : pool.position? worker = some position) : ∃ crash, position = .left crash := by
  have zero : pool.total stillIn = 0 := by
    rw [← counted.active_eq]
    exact (counted.finished_iff.mp finished).2
  have weight := weight_add_others stillIn pool worker position found
  rw [zero] at weight
  have gone : stillIn position = 0 := by omega
  cases position with
  | left crash => exact ⟨crash, rfl⟩
  | working task => exact absurd gone Nat.one_ne_zero
  | crashed crash => exact absurd gone Nat.one_ne_zero
  | leaving crash => exact absurd gone Nat.one_ne_zero

/-- When every worker that left weighs nothing, a finished pool weighs nothing. -/
theorem Counted.total_of_finished {Weight : Type} [AddCommMonoid Weight] {pool : Pool State Task}
    (counted : Counted pool) (finished : pool.finished = true)
    (weight : Position Task → Weight) (gone : ∀ crash, weight (.left crash) = 0) :
    pool.total weight = 0 := by
  refine total_eq_zero weight pool fun worker position found => ?_
  obtain ⟨crash, rfl⟩ := counted.left_of_finished finished worker position found
  exact gone crash

/-- A worker of a finished pool has no step. -/
theorem Counted.not_stepped_of_finished {advance : Advance State Task World}
    {pool next : Pool State Task} {world after : World} {worker : Nat} (counted : Counted pool)
    (finished : pool.finished = true) :
    ¬Stepped advance pool world worker next after := by
  intro stepped
  have gone := counted.left_of_finished finished worker
  cases stepped with
  | work task _ moved => obtain ⟨_, equal⟩ := gone _ moved.position_eq; cases equal
  | report crash _ moved => obtain ⟨_, equal⟩ := gone _ moved.position_eq; cases equal
  | leave crash _ moved => obtain ⟨_, equal⟩ := gone _ moved.position_eq; cases equal

/-- A worker has left, or there is none of this number. -/
def Gone (pool : Pool State Task) (worker : Nat) : Prop :=
  ∀ position, pool.position? worker = some position → stillIn position = 0

/-- Only a worker that is gone has no step. -/
theorem gone_of_step_eq_none (name : String) (advance : Advance State Task World)
    (pool : Pool State Task) (world : World) (worker : Nat)
    (stuck : step name advance pool world worker = none) : pool.Gone worker := by
  intro position found
  rw [position?] at found
  obtain ⟨roster, known, inRoster⟩ := Option.bind_eq_some_iff.mp found
  cases position with
  | left crash => rfl
  | _ =>
    rw [step, known] at stuck
    simp only [inRoster, reduceCtorEq] at stuck

/-- What a step of some worker leaves of its pool: the workers are there, and nobody who is gone
comes back. -/
structure Worked (pool next : Pool State Task) : Prop where
  staffed : next.roster.isSome
  workerCount_eq : next.workerCount = pool.workerCount
  gone : ∀ worker, pool.Gone worker → next.Gone worker

theorem Stepped.worked {advance : Advance State Task World} {pool next : Pool State Task}
    {world after : World} {worker : Nat} (stepped : Stepped advance pool world worker next after) :
    pool.Worked next := by
  have stays : ∀ before later, Moved pool next worker before later → stillIn before = 1 →
      pool.Worked next := by
    intro before later moved still
    refine ⟨moved.isSome_roster.2, moved.workerCount_eq, fun other gone position found => ?_⟩
    have different : worker ≠ other := by
      rintro rfl
      exact Nat.one_ne_zero (still.symm.trans (gone before moved.position_eq))
    exact gone position ((moved.stayed other different).symm.trans found)
  cases stepped with
  | work task _ moved => exact stays _ _ moved rfl
  | report crash _ moved => exact stays _ _ moved rfl
  | leave crash _ moved => exact stays _ _ moved rfl

/-- When all workers are gone the pool is finished. -/
theorem Counted.finished_of_gone {pool : Pool State Task} (counted : Counted pool)
    (some_worker : 0 < pool.workerCount) (gone : ∀ worker < pool.workerCount, pool.Gone worker) :
    pool.finished = true := by
  refine counted.finished_iff.mpr ⟨isSome_roster_of_some_worker some_worker, ?_⟩
  refine counted.active_eq.trans (total_eq_zero stillIn pool fun worker position found => ?_)
  exact gone worker (lt_workerCount_of_position pool worker position found) position found

/-- As long as a pool is not finished, some worker has a step. -/
theorem Counted.exists_step {pool : Pool State Task} (counted : Counted pool)
    (some_worker : 0 < pool.workerCount) (unfinished : pool.finished = false) (name : String)
    (advance : Advance State Task World) (world : World) :
    ∃ worker, (step name advance pool world worker).isSome := by
  by_contra stuck
  have finished := counted.finished_of_gone some_worker fun worker _ =>
    gone_of_step_eq_none name advance pool world worker
      (Option.not_isSome_iff_eq_none.mp fun stepped => stuck ⟨worker, stepped⟩)
  exact Bool.noConfusion (unfinished.symm.trans finished)

/-! ### Workers in order -/

/-- A worker has not crashed, and it leaves only when the range is used up. -/
def InOrder (shared : Shared) : Position Task → Prop
  | .working _ => True
  | .crashed _ => False
  | .leaving crash | .left crash =>
    crash = none ∧ ∃ cursor, shared.cursor = some cursor ∧ ¬cursor.next < cursor.range.limit

theorem inOrder_of_cursor_eq {shared after : Shared} {position : Position Task}
    (inOrder : InOrder shared position) (same : after.cursor = shared.cursor) :
    InOrder after position := by
  cases position with
  | working task => trivial
  | crashed crash => exact inOrder
  | leaving crash => exact ⟨inOrder.1, same ▸ inOrder.2⟩
  | left crash => exact ⟨inOrder.1, same ▸ inOrder.2⟩

/-- While there are keys left every worker is at work. -/
theorem inOrder_of_left {shared after : Shared} {position : Position Task} {cursor : Cursor}
    (inOrder : InOrder shared position) (known : shared.cursor = some cursor)
    (left : cursor.next < cursor.range.limit) : InOrder after position := by
  have impossible : ¬∃ other, shared.cursor = some other ∧ ¬other.next < other.range.limit := by
    rintro ⟨other, otherKnown, used⟩
    cases known.symm.trans otherKnown
    exact used left
  cases position with
  | working task => trivial
  | crashed crash => exact inOrder
  | leaving crash => exact absurd inOrder.2 impossible
  | left crash => exact absurd inOrder.2 impossible

/-- What holds at the position of every worker goes on to hold when one worker moves, if it still
holds for the others and holds where that worker goes. -/
theorem Moved.forall_positions {pool next : Pool State Task} {worker : Nat}
    {before after : Position Task} (moved : Moved pool next worker before after)
    {holds : Position Task → Prop}
    (others : ∀ other position, pool.position? other = some position → holds position)
    (own : holds after) (other : Nat) (position : Position Task)
    (found : next.position? other = some position) : holds position := by
  by_cases same : worker = other
  · subst same
    cases moved.arrived.symm.trans found
    exact own
  · exact others other position ((moved.stayed other same).symm.trans found)

/-- When all workers are in order and have left, the range is used up. -/
theorem used_of_finished (pool : Pool State Task) (counted : Counted pool)
    (some_worker : 0 < pool.workerCount) (finished : pool.finished = true)
    (inOrder : ∀ worker position, pool.position? worker = some position →
      InOrder pool.shared position) :
    ∃ cursor, pool.shared.cursor = some cursor ∧ cursor.next = cursor.range.limit := by
  obtain ⟨position, found⟩ := exists_position_of_lt pool 0 some_worker
  obtain ⟨crash, rfl⟩ := counted.left_of_finished finished 0 position found
  obtain ⟨_, cursor, known, used⟩ := inOrder 0 _ found
  exact ⟨cursor, known, le_antisymm cursor.next_le_limit (not_lt.mp used)⟩

/-! ### Starting and waiting -/

/-- A pool that gets its range had none before, and gets nothing else. -/
theorem begin_eq_ok (name : String) (pool next : Pool State Task) (range : KeyRange)
    (threads : Int) (begun : begin name pool range threads = .ok next) :
    pool.started = false ∧ (1 ≤ threads ∧ threads ≤ maxThreads) ∧
      next = { pool with shared := { pool.shared with cursor := some (.ofRange range) } } := by
  rw [begin] at begun
  split at begun
  · cases begun
  · rename_i unstarted
    split at begun
    · cases begun
    · rename_i possible
      cases begun
      exact ⟨Bool.eq_false_iff.mpr unstarted, by omega, rfl⟩

theorem position?_spawn (pool : Pool State Task) (task : Task) (threads : Int) (now : Float)
    (worker : Nat) :
    (pool.spawn task threads now).position? worker =
      if worker < threads.toNat then some (.working task) else none := by
  show (Roster.ofTask task threads.toNat now).position? worker = _
  rw [Roster.position?, Roster.ofTask]
  simp

/-- Every worker of a pool that has just started is at its first task. -/
theorem eq_of_position?_spawn (pool : Pool State Task) (task : Task) (threads : Int) (now : Float)
    (worker : Nat) (position : Position Task)
    (found : (pool.spawn task threads now).position? worker = some position) :
    position = .working task := by
  rw [position?_spawn] at found
  split at found
  · exact (Option.some.inj found).symm
  · cases found

theorem workerCount_spawn (pool : Pool State Task) (task : Task) (threads : Int) (now : Float) :
    (pool.spawn task threads now).workerCount = threads.toNat := rfl

theorem total_spawn {Weight : Type} [AddCommMonoid Weight] (weight : Position Task → Weight)
    (pool : Pool State Task) (task : Task) (threads : Int) (now : Float) :
    (pool.spawn task threads now).total weight = threads.toNat • weight (.working task) := by
  have each : ∀ worker ∈ Finset.range threads.toNat,
      weightOf weight (pool.spawn task threads now) worker = weight (.working task) := by
    intro worker member
    rw [weightOf, position?_spawn, if_pos (Finset.mem_range.mp member)]
    rfl
  show ∑ worker ∈ Finset.range threads.toNat, _ = _
  rw [Finset.sum_congr rfl each, Finset.sum_const, Finset.card_range]

theorem counted_spawn (pool : Pool State Task) (task : Task) (threads : Int) (now : Float)
    (some_thread : 1 ≤ threads) : Counted (pool.spawn task threads now) := by
  refine ⟨?_, ?_⟩
  · rw [total_spawn]
    show threads.toNat = threads.toNat • 1
    simp
  · show false = true ↔ true = true ∧ threads.toNat = 0
    constructor
    · intro impossible; cases impossible
    · rintro ⟨_, zero⟩; omega

/-- Whether nobody left with a crash can be computed. -/
theorem not_crashed_of_all (pool : Pool State Task)
    (all : ((List.range pool.workerCount).all fun worker =>
      ((pool.position? worker).bind Roster.leftCrash?).isNone) = true)
    (worker : Nat) (crash : Crash) : pool.position? worker ≠ some (.left (some crash)) := by
  intro found
  have inside := lt_workerCount_of_position pool worker _ found
  have none := List.all_eq_true.mp all worker (List.mem_range.mpr inside)
  rw [found] at none
  cases none

/-- In a finished pool everybody has left. -/
theorem Counted.allLeft {pool : Pool State Task} (counted : Counted pool)
    (finished : pool.finished = true) (roster : Roster Task) (known : pool.roster = some roster) :
    roster.allLeft = true := by
  rw [Roster.allLeft, List.all_eq_true]
  intro worker member
  obtain ⟨position, found⟩ := exists_position_of_lt pool worker (by
    rw [workerCount, known]
    exact List.mem_range.mp member)
  obtain ⟨crash, rfl⟩ := counted.left_of_finished finished worker position found
  rw [position?, known, Option.bind_some] at found
  rw [found]
  rfl

/-- Nobody has to wait for a finished pool. -/
theorem Counted.isSome_join {pool : Pool State Task} (name : String) (counted : Counted pool)
    (finished : pool.finished = true) : (join name pool).isSome := by
  obtain ⟨roster, known⟩ := Option.isSome_iff_exists.mp (counted.finished_iff.mp finished).1
  rw [join, known]
  simp only [counted.allLeft finished roster known, if_true]
  split <;> rfl

/-- Waiting for a pool that is finished, and in which nobody crashed, ends well. -/
theorem Counted.join_eq_ok {pool : Pool State Task} (name : String) (counted : Counted pool)
    (finished : pool.finished = true)
    (sound : ∀ worker crash, pool.position? worker ≠ some (.left (some crash))) :
    join name pool = some (.ok ()) := by
  obtain ⟨roster, known⟩ := Option.isSome_iff_exists.mp (counted.finished_iff.mp finished).1
  have position : ∀ worker, pool.position? worker = roster.position? worker := by
    intro worker
    rw [position?, known, Option.bind_some]
  have firstCrash : roster.firstCrash? = none := by
    rw [Roster.firstCrash?, List.findSome?_eq_none_iff]
    intro worker member
    cases found : roster.position? worker with
    | none => rfl
    | some place =>
      obtain ⟨crash, rfl⟩ :=
        counted.left_of_finished finished worker place ((position worker).trans found)
      cases crash with
      | none => rfl
      | some crash => exact absurd ((position worker).trans found) (sound worker crash)
  rw [join, known]
  simp only [counted.allLeft finished roster known, firstCrash, if_true]

/-- When everybody has left the pool is finished. -/
theorem Counted.finished_of_allLeft {pool : Pool State Task} (counted : Counted pool)
    (roster : Roster Task) (known : pool.roster = some roster)
    (allLeft : roster.allLeft = true) : pool.finished = true := by
  rw [counted.finished_iff, counted.active_eq]
  refine ⟨by rw [known]; rfl, total_eq_zero stillIn pool fun worker position found => ?_⟩
  have inside := lt_workerCount_of_position pool worker position found
  rw [workerCount, known] at inside
  have left := List.all_eq_true.mp allLeft worker (List.mem_range.mpr inside)
  rw [position?, known, Option.bind_some] at found
  rw [found] at left
  exact if_pos left

/-- A pool that has workers is finished when the wait for it has ended, well or not. -/
theorem Counted.finished_of_join {pool : Pool State Task} (name : String) (counted : Counted pool)
    (some_worker : 0 < pool.workerCount) (outcome : Except Failure Unit)
    (joined : join name pool = some outcome) : pool.finished = true := by
  cases known : pool.roster with
  | none =>
    rw [workerCount, known] at some_worker
    exact absurd some_worker (Nat.lt_irrefl 0)
  | some roster =>
    rw [join, known] at joined
    simp only at joined
    split at joined
    · rename_i allLeft
      exact counted.finished_of_allLeft roster known allLeft
    · cases joined

end LoadVerifier.Pool
