/-
This file proves that a run can always come to its end, whatever happened before: as long as the
main thread is not over, it has a step, or it waits for a pool and some worker of that pool has one.
The main thread only goes forward, and the workers it waits for come nearer to their end with every
step, those of the reader because the writer is finished by then.

A schedule need not bring a run to its end, because it may let a reader look for a writer again and
again that it gives no turn. What is proved is that no schedule takes the way to the end away.
-/
import LoadVerifier.Proofs.RunCourse
import LoadVerifier.Proofs.WriterProgress

namespace LoadVerifier

open Pool (Spoiled)

namespace Phase

/-- The main thread is over. -/
def isOver : Phase → Bool
  | .reported _ | .raised _ => true
  | _ => false

/-- The steps of the main thread that are left at most. -/
def stepsLeft : Phase → Nat
  | .announceWrite => 10
  | .startWrite => 9
  | .announceRead => 8
  | .startRead => 7
  | .awaitWrite => 6
  | .awaitRead => 5
  | .stopping => 4
  | .awaitStoppedWrite => 3
  | .awaitStoppedRead => 2
  | .closing => 1
  | .reported _ | .raised _ => 0

end Phase

namespace RunLife

variable {Storage : Type} {conduct : Conduct Storage} {options : Options}
  {life next : RunLife Storage} {now : Float}

/-! ### The main thread goes forward -/

theorem stepsLeft_lt_of_mainMove {run after : Run Storage} (move : run.MainMove now after) :
    after.phase.stepsLeft < run.phase.stepsLeft := by
  cases move with
  | goesOn phase goes =>
    show phase.stepsLeft < _
    generalize run.phase = before at goes
    cases goes <;> exact Nat.le_of_ble_eq_true rfl
  | startsWriter writer spec atStart =>
    rw [atStart, Run.startWriter]
    split <;> exact Nat.le_of_ble_eq_true rfl
  | startsReader reader spec atStart =>
    rw [atStart, Run.startReader]
    split <;> exact Nat.le_of_ble_eq_true rfl
  | takesWrite writer result phase awaits =>
    show phase.stepsLeft < _
    generalize run.phase = before at awaits
    cases awaits <;> exact Nat.le_of_ble_eq_true rfl
  | takesRead reader result phase awaits =>
    show phase.stepsLeft < _
    generalize run.phase = before at awaits
    cases awaits <;> exact Nat.le_of_ble_eq_true rfl
  | raisesWrite writer failure phase awaits =>
    generalize run.phase = before at awaits
    cases awaits <;> exact Nat.le_of_ble_eq_true rfl
  | raisesRead reader failure phase awaits =>
    generalize run.phase = before at awaits
    cases awaits <;> exact Nat.le_of_ble_eq_true rfl
  | stops interrupted =>
    rw [interrupted]
    exact Nat.le_of_ble_eq_true rfl
  | reports closing =>
    rw [closing]
    exact Nat.le_of_ble_eq_true rfl

/-- The steps of the workers that are left at most, when the reader need not wait for the writer. -/
def workLeft (options : Options) (life : RunLife Storage) : Nat :=
  (life.run.writer.elim 0 fun writer => (life.writing writer).potential options.writePlan) +
    life.run.reader.elim 0 fun reader => (life.reading reader).linkedPotential

/-- How far a run is from its end. -/
def distance (options : Options) (life : RunLife Storage) : Nat × Nat :=
  (life.run.phase.stepsLeft, life.workLeft options)

/-! ### Who has a step -/

/-- The main thread waits for a writer that is not finished. -/
def WaitsForWriter (life : RunLife Storage) : Prop :=
  ∃ writer phase, life.run.writer = some writer ∧
    Run.AwaitsWriter writer life.run.phase phase ∧ Pool.finished writer = false

/-- The main thread waits for a reader that is not finished. -/
def WaitsForReader (life : RunLife Storage) : Prop :=
  ∃ reader phase, life.run.reader = some reader ∧
    Run.AwaitsReader reader life.run.phase phase ∧ Pool.finished reader = false

section Steps

variable [Store Storage] (kept : conduct.Kept options)

include kept

/-- A result that the main thread waits for can be taken, or the writer is not finished. -/
theorem Underway.takes_or_waitsForWriter (underway : Underway conduct options life)
    (writer : Writer) (phase : Phase) (known : life.run.writer = some writer)
    (awaits : Run.AwaitsWriter writer life.run.phase phase) :
    (life.run.takeWriteResult writer phase).isSome ∨ life.WaitsForWriter := by
  have goes := underway.goes_of_awaitsWriter writer phase awaits known
  cases finished : Pool.finished writer with
  | false => exact Or.inr ⟨writer, phase, known, awaits, finished⟩
  | true =>
    refine Or.inl ?_
    rw [Run.takeWriteResult, Option.isSome_map, Writer.wait, Option.isSome_map]
    exact (kept.writer_counted _ goes).isSome_join _ finished

/-- A result that the main thread waits for can be taken, or the reader is not finished. -/
theorem Underway.takes_or_waitsForReader (underway : Underway conduct options life)
    (reader : Reader) (phase : Phase) (known : life.run.reader = some reader)
    (awaits : Run.AwaitsReader reader life.run.phase phase) :
    (life.run.takeReadResult reader phase).isSome ∨ life.WaitsForReader := by
  have goes := underway.goes_of_awaitsReader reader phase awaits known
  cases finished : Pool.finished reader with
  | false => exact Or.inr ⟨reader, phase, known, awaits, finished⟩
  | true =>
    refine Or.inl ?_
    rw [Run.takeReadResult, Option.isSome_map, Reader.wait, Option.isSome_map]
    exact (kept.reader_kept _ goes.1).counted.isSome_join _ finished

/-- As long as the main thread is not over, it has a step or waits for a pool that is not
finished. -/
theorem Underway.moves_or_waits (underway : Underway conduct options life)
    (unended : life.run.phase.isOver = false) (now : Float) :
    (life.run.mainStep now).isSome ∨ life.WaitsForWriter ∨ life.WaitsForReader := by
  rw [Run.mainStep]
  cases reached : life.run.phase with
  | announceWrite => exact Or.inl (by dsimp only; split <;> rfl)
  | startWrite => exact Or.inl (by dsimp only; split <;> rfl)
  | announceRead => exact Or.inl (by dsimp only; split <;> rfl)
  | startRead => exact Or.inl (by dsimp only; split <;> rfl)
  | awaitWrite =>
    cases known : life.run.writer with
    | none => exact Or.inl rfl
    | some writer =>
      exact (underway.takes_or_waitsForWriter kept writer .awaitRead known
        (reached ▸ .running)).imp id Or.inl
  | awaitRead =>
    cases known : life.run.reader with
    | none => exact Or.inl rfl
    | some reader =>
      exact (underway.takes_or_waitsForReader kept reader .closing known
        (reached ▸ .running)).imp id Or.inr
  | stopping => exact Or.inl rfl
  | awaitStoppedWrite =>
    cases known : life.run.writer with
    | none => exact Or.inl rfl
    | some writer =>
      cases started : writer.started with
      | false => exact Or.inl (by simp only [started, Bool.false_eq_true, if_false]; rfl)
      | true =>
        simp only [started, if_true]
        exact (underway.takes_or_waitsForWriter kept writer .awaitStoppedRead known
          (reached ▸ .stopped started)).imp id Or.inl
  | awaitStoppedRead =>
    cases known : life.run.reader with
    | none => exact Or.inl rfl
    | some reader =>
      cases started : reader.started with
      | false => exact Or.inl (by simp only [started, Bool.false_eq_true, if_false]; rfl)
      | true =>
        simp only [started, if_true]
        exact (underway.takes_or_waitsForReader kept reader .closing known
          (reached ▸ .stopped started)).imp id Or.inr
  | closing => exact Or.inl rfl
  | reported report => rw [reached] at unended; cases unended
  | raised failure => rw [reached] at unended; cases unended

/-- A writer that the main thread waits for has a worker with a step, which leads nearer to its
end. -/
theorem Underway.exists_writerStep (underway : Underway conduct options life)
    (waits : life.WaitsForWriter) (now : Float) :
    ∃ worker next, life.step (.writer worker, now) = some next ∧
      next.run.phase = life.run.phase ∧ next.workLeft options < life.workLeft options := by
  obtain ⟨writer, phase, known, awaits, unfinished⟩ := waits
  have goes := underway.goes_of_awaitsWriter writer phase awaits known
  obtain ⟨worker, works⟩ := WriterLife.exists_work (life.writing writer)
    (kept.writer_counted _ goes) (kept.writer_staffed _ goes) unfinished
  obtain ⟨after, worked⟩ := Option.isSome_iff_exists.mp works
  have less := (WriterLife.change_of_work _ _ worker worked).potential_lt
    (kept.writer_faithful _ goes)
  refine ⟨worker, life.withWriter after, step_writer_of_work known worked, rfl, ?_⟩
  rw [workLeft, workLeft, known]
  exact Nat.add_lt_add_right less _

/-- A reader that the main thread waits for has a worker with a step, which leads nearer to its
end. -/
theorem Underway.exists_readerStep (underway : Underway conduct options life)
    (waits : life.WaitsForReader) (now : Float) :
    ∃ worker next, life.step (.reader worker, now) = some next ∧
      next.run.phase = life.run.phase ∧ next.workLeft options < life.workLeft options := by
  obtain ⟨reader, phase, known, awaits, unfinished⟩ := waits
  have goes := underway.goes_of_awaitsReader reader phase awaits known
  have isKept := kept.reader_kept _ goes.1
  obtain ⟨worker, works⟩ := ReaderAudit.exists_work (life.reading reader) isKept.counted
    isKept.some_worker unfinished
  obtain ⟨after, worked⟩ := Option.isSome_iff_exists.mp works
  obtain ⟨cursor, isCursor, _⟩ := isKept.claimed
  have less := ReaderAudit.linkedPotential_lt_of_work worked (Option.isSome_of_eq_some isCursor)
    (underway.settled reader phase known awaits)
  refine ⟨worker, life.withReader after, step_reader_of_work known worked, rfl, ?_⟩
  rw [workLeft, workLeft, known]
  exact Nat.add_lt_add_left less _

/-- As long as the main thread is not over, somebody has a step that leads nearer to the end. -/
theorem Underway.exists_nearer (underway : Underway conduct options life)
    (unended : life.run.phase.isOver = false) (now : Float) :
    ∃ actor next, actor ≠ .interrupt ∧ life.step (actor, now) = some next ∧
      Prod.Lex (· < ·) (· < ·) (next.distance options) (life.distance options) := by
  rcases underway.moves_or_waits kept unended now with moves | waits | waits
  · obtain ⟨⟨run, lines⟩, moved⟩ := Option.isSome_iff_exists.mp moves
    refine ⟨.main, { life with run }, nofun, ?_, ?_⟩
    · exact Option.map_eq_some_iff.mpr ⟨_, moved, rfl⟩
    · exact Prod.Lex.left _ _ (stepsLeft_lt_of_mainMove (Run.mainMove_of_mainStep moved))
  · obtain ⟨worker, next, stepped, phase, less⟩ := underway.exists_writerStep kept waits now
    refine ⟨.writer worker, next, nofun, stepped, ?_⟩
    rw [distance, distance, phase]
    exact Prod.Lex.right _ less
  · obtain ⟨worker, next, stepped, phase, less⟩ := underway.exists_readerStep kept waits now
    refine ⟨.reader worker, next, nofun, stepped, ?_⟩
    rw [distance, distance, phase]
    exact Prod.Lex.right _ less

/-- A run can always come to its end, without an interrupt. -/
theorem Underway.exists_end (possible : options.Possible)
    (underway : Underway conduct options life) :
    ∃ schedule final, (∀ event ∈ schedule, event.1 ≠ .interrupt) ∧
      replay RunLife.step life schedule = some final ∧ Underway conduct options final ∧
        final.run.phase.isOver = true := by
  refine exists_replay_of_nearer (fun event : RunEvent => event.1 ≠ .interrupt)
    (Underway conduct options) (fun life => life.run.phase.isOver = true) (distance options) ?_ life
    underway
  intro state standing unended
  obtain ⟨actor, next, uninterrupted, stepped, less⟩ :=
    standing.exists_nearer kept (Bool.eq_false_iff.mpr unended) 0.0
  exact ⟨(actor, 0.0), next, uninterrupted, stepped,
    standing.step kept possible _ (fun interrupt => absurd interrupt uninterrupted) stepped, less⟩

end Steps

/-! ### Runs in which nobody crashes -/

/-- No worker of the run has crashed. -/
structure Uncrashed (life : RunLife Storage) : Prop where
  writer : ∀ writer, life.run.writer = some writer → ¬Spoiled writer
  reader : ∀ reader, life.run.reader = some reader → ¬Spoiled reader

/-- No worker of the writer has crashed when that is known of a started writer. -/
theorem Underway.writer_uncrashed (underway : Underway conduct options life)
    (writing : ∀ life, conduct.writing life → ¬Spoiled life.writer) (writer : Writer)
    (known : life.run.writer = some writer) : ¬Spoiled writer := by
  rcases underway.writer_unstaffed_or_goes writer known with unstaffed | goes
  · exact Pool.not_spoiled_of_unstaffed unstaffed
  · exact writing _ goes

/-- No worker of the reader has crashed when that is known of a started reader. -/
theorem Underway.reader_uncrashed (underway : Underway conduct options life)
    (reading : ∀ audit, conduct.reading audit → ¬Spoiled audit.reader) (reader : Reader)
    (known : life.run.reader = some reader) : ¬Spoiled reader := by
  rcases underway.reader_unstaffed_or_goes reader known with unstaffed | goes
  · exact Pool.not_spoiled_of_unstaffed unstaffed
  · exact reading _ goes

/-- No worker has crashed when that is known of all started pools. -/
theorem Underway.uncrashed (underway : Underway conduct options life)
    (writing : ∀ life, conduct.writing life → ¬Spoiled life.writer)
    (reading : ∀ audit, conduct.reading audit → ¬Spoiled audit.reader) : life.Uncrashed :=
  ⟨underway.writer_uncrashed writing, underway.reader_uncrashed reading⟩

/-- When no worker has crashed, the run has not failed. -/
theorem Underway.not_raised (underway : Underway conduct options life) (uncrashed : life.Uncrashed)
    (failure : Failure) : life.run.phase ≠ .raised failure := by
  intro raised
  cases underway.raised failure raised with
  | writer writer known fails => exact uncrashed.writer writer known fails.spoiled
  | reader reader known fails => exact uncrashed.reader reader known fails.spoiled

/-- A run in which nobody ever crashes can always come to its report, without an interrupt. -/
theorem Underway.exists_report [Store Storage] (kept : conduct.Kept options)
    (possible : options.Possible)
    (uncrashed : ∀ life, Underway conduct options life → life.Uncrashed)
    (underway : Underway conduct options life) :
    ∃ schedule final report, (∀ event ∈ schedule, event.1 ≠ .interrupt) ∧
      replay RunLife.step life schedule = some final ∧ final.run.phase = .reported report := by
  obtain ⟨schedule, final, uninterrupted, ran, standing, ended⟩ :=
    underway.exists_end kept possible
  have unraised := standing.not_raised (uncrashed final standing)
  refine ⟨schedule, final, ?_⟩
  cases reached : final.run.phase with
  | reported report => exact ⟨report, uninterrupted, ran, rfl⟩
  | raised failure => exact absurd reached (unraised failure)
  | _ => rw [reached] at ended; cases ended

end RunLife

end LoadVerifier
