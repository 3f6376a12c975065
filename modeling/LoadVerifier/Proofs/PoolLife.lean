/-
This file lets any kind of pool run. Its workers take their steps in any order; and at any moment
somebody may ask the pool to stop, a worker may die of something that its task does not foresee, and
the world may be changed by others.

All that is asked of the task is that none of its steps takes back a request to stop. Then a crash
stays visible, and no worker gets away with one before the pool is asked to stop. And once all
workers have left, nothing can change in the pool but the request to stop.
-/
import LoadVerifier.Proofs.PoolCrash
import LoadVerifier.Proofs.Schedule
import LoadVerifier.Reading.Reader
import LoadVerifier.Writing.Writer

namespace LoadVerifier

variable {State Task World : Type}

/-- A pool, and the world that its workers work on. -/
structure PoolLife (State Task World : Type) where
  pool : Pool State Task
  world : World

/-- What can happen while a pool runs. -/
inductive PoolEvent (World : Type)
  | work (worker : Nat)
  | die (worker : Nat) (crash : Crash)
  | stop
  | outside (world : World)

/-- No step of the task takes back a request to stop. -/
def Advance.KeepsStop (advance : Advance State Task World) : Prop :=
  ∀ worker task shared state world, shared.stopRequested = true →
    (advance worker task shared state world).shared.stopRequested = true

/-! ### Tasks that keep a request to stop -/

theorem Writer.keepsStop_advance {Storage : Type} [Store Storage] :
    Advance.KeepsStop (@Writer.advance Storage _) := by
  intro worker task shared state store stopped
  cases task with
  | claim =>
    show (Writer.claimStep shared state store).shared.stopRequested = true
    unfold Writer.claimStep
    split
    · exact stopped
    · split
      · exact stopped
      · split
        · exact stopped
        · split <;> exact stopped
  | write record calls => cases calls <;> exact stopped
  | complete record =>
    show (Writer.completeStep record shared state store).shared.stopRequested = true
    unfold Writer.completeStep
    split <;> exact stopped
  | _ => exact stopped

theorem Reader.keepsStop_advance {Storage Source : Type} [Store Storage] [WatermarkSource Source] :
    Advance.KeepsStop (@Reader.advance Storage Source _ _) := by
  intro worker task shared state world stopped
  cases task with
  | seed => rw [Reader.advance]; split <;> exact stopped
  | checkStop stream => rw [Reader.advance]; split <;> exact stopped
  | claim stream =>
    show (Reader.claimStep stream shared state world).shared.stopRequested = true
    unfold Reader.claimStep
    split
    · exact stopped
    · split
      · exact stopped
      · dsimp only
        split <;> exact stopped
  | look stream key delay =>
    show (Reader.lookStep stream key delay shared state world).shared.stopRequested = true
    unfold Reader.lookStep
    split
    · exact stopped
    · dsimp only
      split <;> exact stopped
  | askFinished stream key delay =>
    show (Reader.askFinishedStep stream key delay shared state world).shared.stopRequested = true
    unfold Reader.askFinishedStep
    split
    · exact stopped
    · dsimp only
      split <;> exact stopped
  | lookAgain stream key =>
    show (Reader.lookAgainStep stream key shared state world).shared.stopRequested = true
    unfold Reader.lookAgainStep
    split
    · exact stopped
    · dsimp only
      split <;> exact stopped
  | pause stream key delay => rw [Reader.advance]; split <;> exact stopped
  | read stream key verify =>
    show (Reader.readStep worker stream key verify shared state world).shared.stopRequested = true
    unfold Reader.readStep
    dsimp only
    split <;> exact stopped
  | abort stream errors => rw [Reader.advance]; split <;> exact stopped
  | stopPool stream errors => rfl
  | _ => exact stopped

/-! ### The life of a pool -/

namespace PoolLife

open Pool (Stepped Counted Spoiled)

/-- A worker at its task dies. -/
def die (life : PoolLife State Task World) (worker : Nat) (crash : Crash) :
    Option (PoolLife State Task World) :=
  match life.pool.roster, life.pool.position? worker with
  | some roster, some (.working _) => some { life with
      pool := { life.pool with roster := some (roster.place worker (.crashed crash)) } }
  | _, _ => none

/-- What happens at an event; `none` when it cannot happen. -/
def step (name : String) (advance : Advance State Task World) (life : PoolLife State Task World) :
    PoolEvent World → Option (PoolLife State Task World)
  | .work worker =>
    (life.pool.step name advance life.world worker).map fun (pool, world, _) => ⟨pool, world⟩
  | .die worker crash => life.die worker crash
  | .stop => some { life with pool := life.pool.stop }
  | .outside world => some { life with world }

/-- The task of a worker that dies of the given crash. -/
def dying (crash : Crash) : Advance State Task World :=
  fun _ _ shared state world => { move := .crash crash, shared, state, world }

/-- What an event can do to the pool: a worker takes a step of its task or dies, or the pool is
asked to stop, or nothing changes in it. -/
inductive Change (life : PoolLife State Task World) : Pool State Task → Prop
  | stepped (acting : Advance State Task World) (next : Pool State Task) (worker : Nat)
      (after : World) (keepsStop : acting.KeepsStop)
      (stepped : Stepped acting life.pool life.world worker next after) : Change life next
  | asked : Change life life.pool.stop
  | unchanged : Change life life.pool

variable {name : String} {advance : Advance State Task World}
  {life next : PoolLife State Task World}

theorem stepped_of_die (worker : Nat) (crash : Crash) (died : life.die worker crash = some next) :
    Stepped (dying crash) life.pool life.world worker next.pool next.world := by
  unfold die at died
  split at died
  · rename_i roster task known found
    cases died
    rw [Pool.position?, known, Option.bind_some] at found
    refine .work task _
      (Pool.moved_place life.pool roster _ worker _ _ known found _ _ rfl rfl rfl) rfl rfl ?_ ?_
    · rw [Pool.active, Pool.active, known]
      rfl
    · rw [Pool.finished, Pool.finished, known]
      rfl
  · cases died

theorem change_of_step (keepsStop : advance.KeepsStop) (event : PoolEvent World)
    (stepped : step name advance life event = some next) : Change life next.pool := by
  cases event with
  | work worker =>
    obtain ⟨⟨pool, world, notices⟩, worked, rfl⟩ := Option.map_eq_some_iff.mp stepped
    exact .stepped advance pool worker world keepsStop
      (Pool.stepped_of_step name advance life.pool pool life.world world worker notices worked)
  | die worker crash =>
    exact .stepped (dying crash) _ worker _ (fun _ _ _ _ _ stopped => stopped)
      (stepped_of_die worker crash stepped)
  | stop =>
    cases stepped
    exact .asked
  | outside world =>
    cases stepped
    exact .unchanged

/-! ### What the life of a pool keeps -/

/-- The crash with which a worker is leaving or has left. -/
def reported? : Position Task → Option Crash
  | .working _ | .crashed _ => none
  | .leaving crash | .left crash => crash

/-- A pool has workers, those that have not left are counted, and it was asked to stop when one of
them has reported a crash. -/
structure Attended (pool : Pool State Task) : Prop where
  counted : Counted pool
  some_worker : 0 < pool.workerCount
  stopped : ∀ worker position, pool.position? worker = some position →
    (reported? position).isSome → pool.shared.stopRequested = true

theorem attended_spawn (pool : Pool State Task) (task : Task) (threads : Int) (now : Float)
    (some_thread : 1 ≤ threads) : Attended (pool.spawn task threads now) where
  counted := Pool.counted_spawn pool task threads now some_thread
  some_worker := by
    rw [Pool.workerCount_spawn]
    omega
  stopped worker position found reported := by
    cases Pool.eq_of_position?_spawn pool task threads now worker position found
    cases reported

theorem reported?_positionAfter (move : Move Task) :
    reported? (Pool.positionAfter move) = none := by
  cases move <;> rfl

/-- A request to stop is never taken back. -/
theorem Change.stopRequested {pool : Pool State Task} (change : Change life pool)
    (stopped : life.pool.shared.stopRequested = true) : pool.shared.stopRequested = true := by
  cases change with
  | stepped acting _ worker after keepsStop stepped =>
    cases stepped with
    | work task _ _ shared => exact shared ▸ keepsStop _ _ _ _ _ stopped
    | report crash _ _ shared => rw [shared]
    | leave crash _ _ shared => rw [shared, stopped]
  | asked => rfl
  | unchanged => exact stopped

theorem Change.attended {pool : Pool State Task} (change : Change life pool)
    (attended : Attended life.pool) : Attended pool := by
  have requested := change.stopRequested
  cases change with
  | stepped acting _ worker after keepsStop stepped =>
    have counted := stepped.counted attended.counted
    have others : ∀ other position, life.pool.position? other = some position →
        (reported? position).isSome → pool.shared.stopRequested = true :=
      fun other position found reported =>
        requested (attended.stopped other position found reported)
    cases stepped with
    | work task _ moved =>
      refine ⟨counted, moved.workerCount_eq ▸ attended.some_worker, ?_⟩
      -- The worker itself has reported nothing: a crash of this very step is reported by the next.
      refine moved.forall_positions others fun reported => ?_
      rw [reported?_positionAfter] at reported
      cases reported
    | report crash _ moved shared =>
      refine ⟨counted, moved.workerCount_eq ▸ attended.some_worker, ?_⟩
      exact moved.forall_positions others fun _ => by rw [shared]
    | leave crash _ moved =>
      refine ⟨counted, moved.workerCount_eq ▸ attended.some_worker, ?_⟩
      exact moved.forall_positions others (others worker (.leaving crash) moved.position_eq)
  | asked =>
    exact ⟨⟨attended.counted.active_eq, attended.counted.finished_iff⟩, attended.some_worker,
      fun _ _ _ _ => rfl⟩
  | unchanged => exact attended

/-- A crash stays visible. -/
theorem Change.spoiled {pool : Pool State Task} (change : Change life pool)
    (spoiled : Spoiled life.pool) : Spoiled pool := by
  cases change with
  | stepped acting _ worker after keepsStop stepped => exact stepped.spoiled spoiled
  | asked => exact spoiled
  | unchanged => exact spoiled

/-- Nothing can change in a finished pool but the request to stop. -/
theorem Change.eq_of_finished {pool : Pool State Task} (change : Change life pool)
    (attended : Attended life.pool) (finished : life.pool.finished = true) :
    pool = life.pool ∨ pool = life.pool.stop := by
  cases change with
  | stepped acting _ worker after keepsStop stepped =>
    exact absurd stepped (attended.counted.not_stepped_of_finished finished)
  | asked => exact Or.inr rfl
  | unchanged => exact Or.inl rfl

variable {later : PoolLife State Task World} {schedule : List (PoolEvent World)}

theorem attended_of_replay (keepsStop : advance.KeepsStop) (attended : Attended life.pool)
    (ran : replay (step name advance) life schedule = some later) : Attended later.pool :=
  replay_invariant (fun life => Attended life.pool)
    (fun _ event _ attended stepped => (change_of_step keepsStop event stepped).attended attended)
    life later schedule attended ran

theorem spoiled_of_replay (keepsStop : advance.KeepsStop) (spoiled : Spoiled life.pool)
    (ran : replay (step name advance) life schedule = some later) : Spoiled later.pool :=
  replay_invariant (fun life => Spoiled life.pool)
    (fun _ event _ spoiled stepped => (change_of_step keepsStop event stepped).spoiled spoiled)
    life later schedule spoiled ran

theorem stopRequested_of_replay (keepsStop : advance.KeepsStop)
    (stopped : life.pool.shared.stopRequested = true)
    (ran : replay (step name advance) life schedule = some later) :
    later.pool.shared.stopRequested = true :=
  replay_invariant (fun life => life.pool.shared.stopRequested = true)
    (fun _ event _ stopped stepped =>
      (change_of_step keepsStop event stepped).stopRequested stopped)
    life later schedule stopped ran

/-- A finished pool goes on unchanged but for the request to stop. -/
theorem eq_of_finished (keepsStop : advance.KeepsStop) (attended : Attended life.pool)
    (finished : life.pool.finished = true)
    (ran : replay (step name advance) life schedule = some later) :
    later.pool = life.pool ∨ later.pool = life.pool.stop := by
  -- A second request to stop changes nothing, which is why the two pools are closed under steps.
  refine replay_invariant (fun later => later.pool = life.pool ∨ later.pool = life.pool.stop)
    (fun middle event next equal stepped => ?_) life later schedule (Or.inl rfl) ran
  have change := change_of_step keepsStop event stepped
  have asked : Attended life.pool.stop :=
    (show Change life life.pool.stop from .asked).attended attended
  rcases equal with equal | equal
  · exact equal ▸ change.eq_of_finished (equal ▸ attended) (equal ▸ finished)
  · refine Or.inr ?_
    rcases change.eq_of_finished (equal ▸ asked) (equal ▸ finished) with same | stopped
    · exact same.trans equal
    · rw [stopped, equal]
      rfl

/-- A finished pool that nobody asks to stop goes on unchanged. -/
theorem eq_of_finished_of_unasked (attended : Attended life.pool)
    (finished : life.pool.finished = true) (unasked : .stop ∉ schedule)
    (ran : replay (step name advance) life schedule = some later) : later.pool = life.pool := by
  refine replay_invariant_of_allowed (· ≠ .stop) (fun later => later.pool = life.pool)
    (fun middle event next allowed equal stepped => ?_) life later schedule
    (fun event member stop => unasked (stop ▸ member)) rfl ran
  cases event with
  | stop => exact absurd rfl allowed
  | outside world =>
    cases stepped
    exact equal
  | work worker =>
    obtain ⟨⟨pool, world, notices⟩, worked, _⟩ := Option.map_eq_some_iff.mp stepped
    exact absurd (Pool.stepped_of_step name advance middle.pool pool middle.world world worker
      notices worked) ((equal ▸ attended).counted.not_stepped_of_finished (equal ▸ finished))
  | die worker crash =>
    exact absurd (stepped_of_die worker crash stepped)
      ((equal ▸ attended).counted.not_stepped_of_finished (equal ▸ finished))

end PoolLife

end LoadVerifier
