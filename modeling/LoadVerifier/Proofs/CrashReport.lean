/-
This file says what becomes of a crash. A worker that dies of something unexpected asks the others
to stop before it goes, and it is counted out like the others: nobody who asks whether the pool is
finished waits for ever because of it. When all workers have left, the wait raises the crash of the
worker with the lowest number, however often it is called, and a pool in which somebody has crashed
never gives a result. A pool in which nobody has crashed gives its result, and the same one again
until it is asked to stop, which the result would tell.

The crashes can come from anywhere: from the store, from the records, or from nothing that the tasks
know of. And the pool can be asked to stop, and its world changed, at any moment.
-/
import LoadVerifier.Proofs.PoolLife
import LoadVerifier.Proofs.ReaderLife
import LoadVerifier.Proofs.WriterUndisturbed
import LoadVerifier.Store.Faulty

namespace LoadVerifier

open Pool (FirstCrash Spoiled)

variable {State Task World Result : Type}

/-- Waits for the workers of a pool and then reads its result off it; `none` as long as one has not
left. -/
def Pool.waitFor (name : String) (result : Pool State Task → Result) (pool : Pool State Task) :
    Option (Except Failure Result) :=
  (Pool.join name pool).map fun joined => joined.map fun _ => result pool

theorem Writer.wait_eq_waitFor : Writer.wait = Pool.waitFor Writer.poolName Writer.result := rfl

theorem Reader.wait_eq_waitFor : Reader.wait = Pool.waitFor Reader.poolName Reader.result := rfl

/-- What a pool and the wait for it tell of crashes, at some moment of its life. -/
structure TellsCrashes (name : String) (advance : Advance State Task World)
    (wait : Pool State Task → Option (Except Failure Result)) (life : PoolLife State Task World) :
    Prop where
  /-- The pool is finished exactly when every worker has left. -/
  finished_iff : life.pool.finished = true ↔
    ∀ worker < life.pool.workerCount, ∃ crash, life.pool.position? worker = some (.left crash)
  /-- Until then the wait goes on, and some worker has a step. -/
  waits : life.pool.finished = false →
    wait life.pool = none ∧ ∃ worker, (PoolLife.step name advance life (.work worker)).isSome
  /-- The next step of a worker that has crashed asks the pool to stop. -/
  asks : ∀ worker crash, life.pool.position? worker = some (.crashed crash) →
    ∃ next, PoolLife.step name advance life (.work worker) = some next ∧
      next.pool.position? worker = some (.leaving (some crash)) ∧
      next.pool.shared.stopRequested = true
  /-- When a worker is on its way out with a crash, or gone with one, the pool was asked to stop,
  and this is never taken back. -/
  asked : ∀ worker crash, life.pool.position? worker = some (.leaving (some crash)) ∨
      life.pool.position? worker = some (.left (some crash)) →
    ∀ schedule later, replay (PoolLife.step name advance) life schedule = some later →
      later.pool.shared.stopRequested = true
  /-- Once a worker has crashed the wait never gives a result. -/
  unanswered : Spoiled life.pool →
    ∀ schedule later result, replay (PoolLife.step name advance) life schedule = some later →
      wait later.pool ≠ some (.ok result)
  /-- When all have left, and one with a crash, every wait raises that of the first one. -/
  raises : life.pool.finished = true → Spoiled life.pool →
    ∃ worker crash, FirstCrash life.pool worker crash ∧
      ∀ schedule later, replay (PoolLife.step name advance) life schedule = some later →
        wait later.pool = some (.error (.crash crash))
  /-- When all have left, and none with a crash, every wait gives the same result until the pool is
  asked to stop, and raises nothing even then. -/
  answers : life.pool.finished = true → ¬Spoiled life.pool →
    (∃ result, ∀ schedule later, .stop ∉ schedule →
      replay (PoolLife.step name advance) life schedule = some later →
        wait later.pool = some (.ok result)) ∧
    ∀ schedule later, replay (PoolLife.step name advance) life schedule = some later →
      ∃ result, wait later.pool = some (.ok result)

namespace PoolLife

variable {name : String} {advance : Advance State Task World}
  {life : PoolLife State Task World} (result : Pool State Task → Result)

theorem waitFor_eq_error (attended : Attended life.pool) (finished : life.pool.finished = true)
    (worker : Nat) (crash : Crash) (first : FirstCrash life.pool worker crash) :
    Pool.waitFor name result life.pool = some (.error (.crash crash)) := by
  rw [Pool.waitFor, attended.counted.join_eq_error name finished crash first]
  rfl

theorem waitFor_eq_ok (attended : Attended life.pool) (finished : life.pool.finished = true)
    (unspoiled : ¬Spoiled life.pool) :
    Pool.waitFor name result life.pool = some (.ok (result life.pool)) := by
  rw [Pool.waitFor, attended.counted.join_eq_ok name finished
    (Pool.not_left_of_unspoiled unspoiled)]
  rfl

theorem waitFor_eq_none (attended : Attended life.pool) (unfinished : life.pool.finished = false) :
    Pool.waitFor name result life.pool = none := by
  rw [Pool.waitFor, attended.counted.join_eq_none name attended.some_worker unfinished]
  rfl

/-- A pool in which somebody has crashed gives no result. -/
theorem waitFor_ne_ok (attended : Attended life.pool) (spoiled : Spoiled life.pool)
    (value : Result) : Pool.waitFor name result life.pool ≠ some (.ok value) := by
  intro answered
  cases finished : life.pool.finished with
  | false =>
    rw [waitFor_eq_none result attended finished] at answered
    cases answered
  | true =>
    obtain ⟨worker, crash, first⟩ := spoiled.exists_first attended.counted finished
    rw [waitFor_eq_error result attended finished worker crash first] at answered
    cases answered

/-- A worker that has crashed can go on, and its next step asks the pool to stop. -/
theorem exists_report (worker : Nat) (crash : Crash)
    (crashed : life.pool.position? worker = some (.crashed crash)) :
    ∃ next, step name advance life (.work worker) = some next ∧
      next.pool.position? worker = some (.leaving (some crash)) ∧
      next.pool.shared.stopRequested = true := by
  rw [Pool.position?] at crashed
  obtain ⟨roster, known, found⟩ := Option.bind_eq_some_iff.mp crashed
  have reported : life.pool.step name advance life.world worker =
      some ({ life.pool.stop with roster := some (roster.place worker (.leaving (some crash))) },
        life.world, [.crashed name worker crash]) := by
    rw [Pool.step, known]
    simp only [found]
  refine ⟨⟨_, life.world⟩, congrArg (Option.map _) reported, ?_, rfl⟩
  exact (Pool.moved_place life.pool roster _ worker _ _ known found _ _ rfl rfl rfl).arrived

theorem tellsCrashes (keepsStop : advance.KeepsStop) (attended : Attended life.pool) :
    TellsCrashes name advance (Pool.waitFor name result) life where
  finished_iff := attended.counted.finished_iff_left attended.some_worker
  waits unfinished := by
    refine ⟨waitFor_eq_none result attended unfinished, ?_⟩
    obtain ⟨worker, stepped⟩ := attended.counted.exists_step attended.some_worker unfinished name
      advance life.world
    exact ⟨worker, Option.isSome_map.trans stepped⟩
  asks := exists_report
  asked worker crash gone schedule later ran := by
    refine stopRequested_of_replay keepsStop ?_ ran
    rcases gone with leaving | left
    · exact attended.stopped worker _ leaving rfl
    · exact attended.stopped worker _ left rfl
  unanswered spoiled schedule later value ran :=
    waitFor_ne_ok result (attended_of_replay keepsStop attended ran)
      (spoiled_of_replay keepsStop spoiled ran) value
  raises finished spoiled := by
    -- A later request to stop moves no worker, so the first crash is the same one.
    obtain ⟨worker, crash, first⟩ := spoiled.exists_first attended.counted finished
    refine ⟨worker, crash, first, fun schedule later ran => ?_⟩
    have still := attended_of_replay keepsStop attended ran
    rcases eq_of_finished keepsStop attended finished ran with equal | equal
    · exact waitFor_eq_error result still (equal ▸ finished) worker crash (equal ▸ first)
    · refine waitFor_eq_error result still ?_ worker crash ?_
      · rw [equal]
        exact finished
      · rw [equal]
        exact first
  answers finished unspoiled := by
    refine ⟨⟨result life.pool, fun schedule later unasked ran => ?_⟩, fun schedule later ran => ?_⟩
    · rw [eq_of_finished_of_unasked attended finished unasked ran]
      exact waitFor_eq_ok result attended finished unspoiled
    · have still := attended_of_replay keepsStop attended ran
      rcases eq_of_finished keepsStop attended finished ran with equal | equal
      · exact ⟨_, waitFor_eq_ok result still (equal ▸ finished) (equal ▸ unspoiled)⟩
      · refine ⟨_, waitFor_eq_ok result still ?_ ?_⟩
        · rw [equal]
          exact finished
        · rw [equal]
          exact unspoiled

end PoolLife

section Report

variable {Storage Source : Type} [Store Storage] [WatermarkSource Source]

/-- No crash is lost. Whatever a writer or a reader is started with, whatever its store and its
source do, and however its workers are scheduled: a crash of a worker stops the pool, the pool is
finished exactly when every worker has left, and then every wait raises the crash of the
lowest-numbered worker that has one, or gives the same result when none has. -/
theorem crashes_are_told :
    (∀ (writer started : Writer) (range : KeyRange) (threads : Int) (now : Float)
      (store : Storage) (schedule : List (PoolEvent Storage))
      (life : PoolLife WriterState WriterTask Storage),
      writer.start range threads now = .ok started →
      replay (PoolLife.step Writer.poolName Writer.advance) ⟨started, store⟩ schedule = some life →
        TellsCrashes Writer.poolName Writer.advance Writer.wait life) ∧
    ∀ (reader started : Reader) (range : KeyRange) (threads : Int) (now : Float)
      (world : ReaderWorld Storage Source)
      (schedule : List (PoolEvent (ReaderWorld Storage Source)))
      (life : PoolLife ReaderState ReaderTask (ReaderWorld Storage Source)),
      reader.start range threads now = .ok started →
      replay (PoolLife.step Reader.poolName Reader.advance) ⟨started, world⟩ schedule = some life →
        TellsCrashes Reader.poolName Reader.advance Reader.wait life := by
  constructor
  · intro writer started range threads now store schedule life starts ran
    obtain ⟨possible, rfl⟩ := Writer.start_eq_ok _ _ _ _ _ starts
    rw [Writer.wait_eq_waitFor]
    exact PoolLife.tellsCrashes _ Writer.keepsStop_advance
      (PoolLife.attended_of_replay Writer.keepsStop_advance
        (PoolLife.attended_spawn _ _ _ _ possible.1) ran)
  · intro reader started range threads now world schedule life starts ran
    obtain ⟨_, possible, rfl⟩ := Reader.start_eq_ok _ _ _ _ _ starts
    rw [Reader.wait_eq_waitFor]
    exact PoolLife.tellsCrashes _ Reader.keepsStop_advance
      (PoolLife.attended_of_replay Reader.keepsStop_advance
        (PoolLife.attended_spawn _ _ _ _ possible.1) ran)

/-- Three keys, each row in one call. -/
def wholeRows : WritePlan where
  bounds := .small
  multiPut := true
  range := .three

/-- A store that crashes at the first two keys. -/
def twoBroken : FaultyStore := { faults := { broken := [0, 1] } }

/-- Both workers claim a key; the second one crashes and leaves before the first one crashes. -/
def secondCrashesFirst : List (PoolEvent FaultyStore) :=
  [0, 0, 1, 1, 1, 1, 1, 0, 0, 0].map .work

/-- Three keys are read, and no row is compared. -/
def readOnly : ReadPlan where
  bounds := .small
  seed := .value 7
  verifyPercent := 0
  maxErrors := 5
  keyWindow := 0
  range := .three

/-- The first worker reads two keys of a store without rows, and the second one the last key. -/
def readInTurns : List (PoolEvent (ReaderWorld FaultyStore ScriptedSource)) :=
  (List.replicate 13 0 ++ List.replicate 10 1 ++ List.replicate 3 0).map .work

theorem crashes_are_told_of_two_and_of_none :
    (∃ started life, wholeRows.ready.start .three 2 0.0 = .ok started ∧
      replay (PoolLife.step Writer.poolName Writer.advance) ⟨started, twoBroken⟩
        secondCrashesFirst = some life ∧
      life.pool.finished = true ∧ life.pool.position? 1 = some (.left (some (.store "boom 1"))) ∧
      ∀ schedule later,
        replay (PoolLife.step Writer.poolName Writer.advance) life schedule = some later →
          Writer.wait later.pool = some (.error (.crash (.store "boom 0")))) ∧
    ∃ started life result, readOnly.ready.start .three 2 0.0 = .ok started ∧
      replay (PoolLife.step Reader.poolName Reader.advance)
        ⟨started, ⟨({} : FaultyStore), (none : Option ScriptedSource)⟩⟩ readInTurns = some life ∧
      result.errors = 3 ∧
      ∀ schedule later, .stop ∉ schedule →
        replay (PoolLife.step Reader.poolName Reader.advance) life schedule = some later →
          Reader.wait later.pool = some (.ok result) := by
  obtain ⟨ofWriters, ofReaders⟩ := @crashes_are_told FaultyStore ScriptedSource _ _
  constructor
  · have starts := wholeRows.start_ready 2 0.0 (by decide)
    have known : (replay (PoolLife.step Writer.poolName Writer.advance)
        ⟨wholeRows.idle.spawn .checkStop 2 0.0, twoBroken⟩ secondCrashesFirst).map (fun life =>
          (life.pool.finished, (List.range 2).map fun worker =>
            (life.pool.position? worker).bind Roster.leftCrash?)) =
        some (true, [some (.store "boom 0"), some (.store "boom 1")]) := by
      decide +kernel
    obtain ⟨life, ran, seen⟩ := Option.map_eq_some_iff.mp known
    obtain ⟨finished, lefts⟩ := Prod.mk.inj seen
    obtain ⟨first, second⟩ := List.cons_eq_cons.mp lefts
    have second := Pool.left_of_leftCrash? _ (List.cons_eq_cons.mp second).1
    obtain ⟨worker, crash, found, raised⟩ :=
      (ofWriters _ _ _ _ _ twoBroken _ life starts ran).raises finished ⟨1, _, second, rfl⟩
    have first := Pool.left_of_leftCrash? _ first
    cases Nat.le_zero.mp (found.le 0 first)
    cases first.symm.trans found.1
    exact ⟨_, life, starts, ran, finished, second, raised⟩
  · have starts := readOnly.start_ready 2 0.0 (by decide)
    have known : (replay (PoolLife.step Reader.poolName Reader.advance)
        ⟨readOnly.idle.spawn .seed 2 0.0, ⟨({} : FaultyStore), (none : Option ScriptedSource)⟩⟩
        readInTurns).map (fun life =>
          (life.pool.finished, (List.range life.pool.workerCount).all fun worker =>
            ((life.pool.position? worker).bind Roster.leftCrash?).isNone,
            life.pool.state.tally.errors)) = some (true, true, 3) := by
      decide +kernel
    obtain ⟨life, ran, seen⟩ := Option.map_eq_some_iff.mp known
    obtain ⟨finished, seen⟩ := Prod.mk.inj seen
    obtain ⟨uncrashed, errors⟩ := Prod.mk.inj seen
    have told := ofReaders _ _ _ _ _ _ _ life starts ran
    have unspoiled : ¬Pool.Spoiled life.pool := fun spoiled => by
      obtain ⟨worker, crash, first, _⟩ := told.raises finished spoiled
      exact Pool.not_crashed_of_all life.pool uncrashed worker crash first.1
    obtain ⟨⟨result, answers⟩, _⟩ := told.answers finished unspoiled
    have now := Reader.wait_eq_ok life.pool result (answers [] life (List.not_mem_nil) rfl)
    exact ⟨_, life, result, starts, ran, by rw [now.2]; exact congrArg Nat.cast errors,
      answers⟩

end Report

end LoadVerifier
