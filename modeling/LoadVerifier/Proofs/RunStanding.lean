/-
This file says how a run stands with one of its passes. A pass that was not asked for has no pool. A
pool that was asked for waits for its start, and from its start on it is known to behave in some
way; when the main thread has waited for it, it is finished, nobody in it has crashed, and its
result was taken. Only an interrupt can keep a pool that was asked for from being started.

The two passes of a run differ in their phases and in what is known of their pools, and in nothing
else that matters here, so both are dealt with at once.
-/
import LoadVerifier.Proofs.RunLife

namespace LoadVerifier

open Pool (Spoiled)

namespace Phase

/-- The writer has not been started yet. -/
def isBeforeWriter : Phase → Bool
  | .announceWrite | .startWrite => true
  | _ => false

/-- The reader has not been started yet. -/
def isBeforeReader : Phase → Bool
  | .announceWrite | .startWrite | .announceRead | .startRead => true
  | _ => false

/-- The result of the writer was taken. -/
def isAfterWriter : Phase → Bool
  | .awaitRead | .awaitStoppedRead | .closing | .reported _ => true
  | _ => false

/-- The result of the reader was taken. -/
def isAfterReader : Phase → Bool
  | .closing | .reported _ => true
  | _ => false

/-- The main thread deals with an interrupt. -/
def isInterrupted : Phase → Bool
  | .stopping | .awaitStoppedWrite | .awaitStoppedRead => true
  | _ => false

/-- There may have been an interrupt. -/
def mayBeCut : Phase → Bool
  | .stopping | .awaitStoppedWrite | .awaitStoppedRead | .closing | .reported _ | .raised _ => true
  | _ => false

/-- The reader is started after the writer. -/
theorem isBeforeReader_of_isBeforeWriter {phase : Phase} (before : phase.isBeforeWriter = true) :
    phase.isBeforeReader = true := by
  cases phase <;> first | rfl | cases before

end Phase

/-- The main thread waits for the writer only after both starts. -/
theorem Run.AwaitsWriter.late {writer : Writer} {before phase : Phase}
    (awaits : Run.AwaitsWriter writer before phase) : before.isBeforeReader = false := by
  cases awaits <;> rfl

/-- A wait for the writer is not the request to stop, and it leaves no phase after an interrupt. -/
theorem Run.AwaitsWriter.keepsCut {writer : Writer} {before phase : Phase}
    (awaits : Run.AwaitsWriter writer before phase) :
    before ≠ .stopping ∧ (before.mayBeCut = true → phase.mayBeCut = true) := by
  cases awaits <;> exact ⟨nofun, id⟩

/-- The main thread waits for the reader only after both starts. -/
theorem Run.AwaitsReader.late {reader : Reader} {before phase : Phase}
    (awaits : Run.AwaitsReader reader before phase) : before.isBeforeReader = false := by
  cases awaits <;> rfl

/-- A wait for the reader is not the request to stop, and it leaves no phase after an interrupt. -/
theorem Run.AwaitsReader.keepsCut {reader : Reader} {before phase : Phase}
    (awaits : Run.AwaitsReader reader before phase) :
    before ≠ .stopping ∧ (before.mayBeCut = true → phase.mayBeCut = true) := by
  cases awaits <;> exact ⟨nofun, fun _ => rfl⟩

/-! ### One pass -/

/-- One pass of a run: the pool that is to make it, if it was asked for; what holds as long as the
pool is not started; what is known of the pool from its start on; what its result is; the phases
before its start and those after its result was taken; and whether there may be an interrupt. -/
structure RunPass (State Task Result : Type) where
  ready? : Option (Pool State Task)
  unstarted : ∀ pool, ready? = some pool → pool.started = false ∧ pool.roster = none
  untouched : Prop
  going : Pool State Task → Prop
  resultOf : Pool State Task → Result
  isBefore : Phase → Bool
  isAfter : Phase → Bool
  mayInterrupt : Prop

namespace RunPass

variable {State Task Result : Type}

/-- How a run stands with a pass: it was not asked for; its pool waits for its start; an interrupt
came before its start; or its pool is started. -/
inductive Standing (pass : RunPass State Task Result) (phase : Phase) :
    Option (Pool State Task) → Option Result → Prop
  | unasked (unasked : pass.ready? = none) (untouched : pass.untouched) :
      Standing pass phase none none
  | waiting (pool : Pool State Task) (ready : pass.ready? = some pool)
      (untouched : pass.untouched) (before : pass.isBefore phase = true) :
      Standing pass phase (some pool) none
  | skipped (pool : Pool State Task) (asked : pass.ready?.isSome) (untouched : pass.untouched)
      (unstarted : pool.started = false ∧ pool.roster = none) (late : pass.isBefore phase = false)
      (cut : phase.mayBeCut = true) (interrupted : pass.mayInterrupt) :
      Standing pass phase (some pool) none
  | going (pool : Pool State Task) (result : Option Result) (asked : pass.ready?.isSome)
      (goes : pass.going pool) (late : pass.isBefore phase = false)
      (taken : pass.isAfter phase = true →
        pool.finished = true ∧ ¬Spoiled pool ∧ result = some (pass.resultOf pool)) :
      Standing pass phase (some pool) result

variable {pass : RunPass State Task Result} {phase later : Phase}
  {pool? : Option (Pool State Task)} {pool : Pool State Task} {result : Option Result}

/-- Before anything has happened the pool is as it was made, if it was asked for. -/
theorem standing_ready (pass : RunPass State Task Result) (untouched : pass.untouched)
    (before : pass.isBefore phase = true) : pass.Standing phase pass.ready? none := by
  cases ready : pass.ready? with
  | none => exact .unasked ready untouched
  | some pool => exact .waiting pool ready untouched before

namespace Standing

theorem eq_none_of_unasked (standing : Standing pass phase pool? result)
    (unasked : pass.ready? = none) : pool? = none := by
  cases standing with
  | unasked => rfl
  | waiting pool ready => exact absurd (unasked.symm.trans ready) (Option.some_ne_none _).symm
  | skipped pool asked => rw [unasked] at asked; cases asked
  | going pool result asked => rw [unasked] at asked; cases asked

/-- A pool that is not waiting any more was started, unless there was an interrupt. -/
theorem goes_of_late (standing : Standing pass phase (some pool) result)
    (late : pass.isBefore phase = false)
    (uncut : phase.mayBeCut = true → pool.started = true) : pass.going pool := by
  cases standing with
  | waiting _ ready untouched before => exact Bool.noConfusion (late.symm.trans before)
  | skipped _ asked untouched unstarted _ cut =>
    exact Bool.noConfusion (unstarted.1.symm.trans (uncut cut))
  | going _ _ asked goes => exact goes

/-- A pool that was not started yet is as it was made. -/
theorem ready_of_before (standing : Standing pass phase (some pool) result)
    (before : pass.isBefore phase = true) : pass.ready? = some pool := by
  cases standing with
  | waiting _ ready => exact ready
  | skipped _ _ _ _ late => exact Bool.noConfusion (late.symm.trans before)
  | going _ _ _ _ late => exact Bool.noConfusion (late.symm.trans before)

/-- Before the start of its pool a pass is untouched. -/
theorem untouched_of_before (standing : Standing pass phase pool? result)
    (before : pass.isBefore phase = true) : pass.untouched := by
  cases standing with
  | unasked _ untouched => exact untouched
  | waiting _ _ untouched => exact untouched
  | skipped _ _ untouched => exact untouched
  | going _ _ _ _ late => exact Bool.noConfusion (late.symm.trans before)

/-- A pass is untouched, or its pool was started. -/
theorem untouched_or_goes (standing : Standing pass phase pool? result) :
    pass.untouched ∨ ∃ pool, pool? = some pool ∧ pass.going pool := by
  cases standing with
  | unasked _ untouched => exact Or.inl untouched
  | waiting _ _ untouched => exact Or.inl untouched
  | skipped _ _ untouched => exact Or.inl untouched
  | going pool _ _ goes => exact Or.inr ⟨pool, rfl, goes⟩

/-- A pool that has workers was started. -/
theorem goes_of_staffed (standing : Standing pass phase (some pool) result)
    (staffed : pool.roster.isSome) : pass.going pool := by
  cases standing with
  | waiting _ ready =>
    rw [(pass.unstarted pool ready).2] at staffed
    cases staffed
  | skipped _ asked _ unstarted =>
    rw [unstarted.2] at staffed
    cases staffed
  | going _ _ asked goes => exact goes

/-- A pool has no workers, or it was started. -/
theorem unstaffed_or_goes (standing : Standing pass phase (some pool) result) :
    pool.roster = none ∨ pass.going pool := by
  cases staffed : pool.roster with
  | none => exact Or.inl rfl
  | some roster => exact Or.inr (standing.goes_of_staffed (by rw [staffed]; rfl))

/-- A started pool whose result was taken is finished, and nobody in it has crashed. -/
theorem taken_of_after (standing : Standing pass phase (some pool) result)
    (late : pass.isBefore phase = false) (after : pass.isAfter phase = true)
    (started : pool.started = true) :
    pool.finished = true ∧ ¬Spoiled pool ∧ result = some (pass.resultOf pool) := by
  cases standing with
  | waiting _ ready untouched before => exact Bool.noConfusion (late.symm.trans before)
  | skipped _ asked untouched unstarted =>
    exact Bool.noConfusion (unstarted.1.symm.trans started)
  | going _ _ asked goes late taken => exact taken after

/-- When the result of a pass was taken, its pool has gone through it; otherwise the pass has no
result, and if it was asked for, an interrupt came before its start. -/
theorem skipped_or_taken (standing : Standing pass phase pool? result)
    (late : pass.isBefore phase = false) (after : pass.isAfter phase = true) :
    (result = none ∧ (pass.ready?.isSome → pass.mayInterrupt) ∧
        ∀ pool, pool? = some pool → pool.started = false) ∨
      ∃ pool, pool? = some pool ∧ pass.ready?.isSome ∧ pass.going pool ∧ pool.finished = true ∧
        ¬Spoiled pool ∧ result = some (pass.resultOf pool) := by
  cases standing with
  | unasked unasked =>
    refine Or.inl ⟨rfl, fun asked => ?_, nofun⟩
    rw [unasked] at asked
    cases asked
  | waiting _ ready untouched before => exact Bool.noConfusion (late.symm.trans before)
  | skipped pool asked untouched unstarted _ cut interrupted =>
    refine Or.inl ⟨rfl, fun _ => interrupted, ?_⟩
    rintro _ ⟨⟩
    exact unstarted.1
  | going pool _ asked goes _ taken => exact Or.inr ⟨pool, rfl, asked, goes, taken after⟩

/-- What is known of the pool may change, as long as it is still known. -/
theorem imp (standing : Standing pass phase pool? result) (untouched : Prop)
    (going : Pool State Task → Prop) (still : pass.untouched → untouched)
    (goes : ∀ pool, pool? = some pool → pass.going pool → going pool) :
    Standing { pass with untouched, going } phase pool? result := by
  cases standing with
  | unasked none old => exact .unasked none (still old)
  | waiting pool ready old before => exact .waiting pool ready (still old) before
  | skipped pool asked old unstarted late cut interrupted =>
    exact .skipped pool asked (still old) unstarted late cut interrupted
  | going pool result asked old late taken =>
    exact .going pool result asked (goes pool rfl old) late taken

/-- The main thread goes on, without starting the pool or waiting for it. -/
theorem goesOn (standing : Standing pass phase pool? result) (later : Phase)
    (early : pass.isBefore phase = true → pass.isBefore later = true ∨ pool? = none)
    (late : pass.isBefore phase = false → pass.isBefore later = false)
    (cut : phase.mayBeCut = true → later.mayBeCut = true)
    (after : pass.isAfter later = true →
      pass.isAfter phase = true ∨ ∀ pool, pool? = some pool → ¬pass.going pool) :
    Standing pass later pool? result := by
  cases standing with
  | unasked none untouched => exact .unasked none untouched
  | waiting pool ready untouched before =>
    exact .waiting pool ready untouched ((early before).resolve_right (Option.some_ne_none _))
  | skipped pool asked untouched unstarted old isCut interrupted =>
    exact .skipped pool asked untouched unstarted (late old) (cut isCut) interrupted
  | going pool result asked goes old taken =>
    exact .going pool result asked goes (late old) fun isAfter =>
      taken ((after isAfter).resolve_right fun stuck => stuck pool rfl goes)

/-- Before the start nothing is known of the pool, so it stays so. -/
theorem early (standing : Standing pass phase pool? result) (before : pass.isBefore phase = true)
    (later : Phase) (still : pass.isBefore later = true) (going : Pool State Task → Prop) :
    Standing { pass with going } later pool? result := by
  cases standing with
  | unasked none untouched => exact .unasked none untouched
  | waiting pool ready untouched _ => exact .waiting pool ready untouched still
  | skipped pool asked untouched unstarted late =>
    exact Bool.noConfusion (late.symm.trans before)
  | going pool result asked goes late => exact Bool.noConfusion (late.symm.trans before)

/-- The pool is started. -/
theorem starts (standing : Standing pass phase (some pool) result)
    (before : pass.isBefore phase = true) (later : Phase) (late : pass.isBefore later = false)
    (unawaited : pass.isAfter later = false) (started : Pool State Task)
    (going : Pool State Task → Prop)
    (goes : pass.ready? = some pool → pass.untouched → going started) :
    Standing { pass with going } later (some started) result := by
  cases standing with
  | waiting _ ready untouched _ =>
    exact .going started none (Option.isSome_of_eq_some ready) (goes ready untouched) late
      fun isAfter => Bool.noConfusion (unawaited.symm.trans isAfter)
  | skipped _ asked untouched unstarted isLate =>
    exact Bool.noConfusion (isLate.symm.trans before)
  | going _ _ asked goes isLate => exact Bool.noConfusion (isLate.symm.trans before)

/-- A worker of the pool takes a step, so the pool is started and not finished. -/
theorem works (standing : Standing pass phase (some pool) result) (staffed : pool.roster.isSome)
    (next : Pool State Task) (untouched : Prop) (going : Pool State Task → Prop)
    (goes : pass.going pool → going next ∧ pool.finished = false) :
    Standing { pass with untouched, going } phase (some next) result := by
  cases standing with
  | waiting _ ready =>
    rw [(pass.unstarted pool ready).2] at staffed
    cases staffed
  | skipped _ asked _ unstarted =>
    rw [unstarted.2] at staffed
    cases staffed
  | going _ _ asked goesStill late taken =>
    obtain ⟨goesOn, unfinished⟩ := goes goesStill
    exact .going next result asked goesOn late fun isAfter =>
      Bool.noConfusion (unfinished.symm.trans (taken isAfter).1)

/-- The main thread takes the result of the finished pool. -/
theorem takes (standing : Standing pass phase (some pool) result) (goes : pass.going pool)
    (finished : pool.finished = true) (unspoiled : ¬Spoiled pool) (later : Phase)
    (late : pass.isBefore later = false) :
    Standing pass later (some pool) (some (pass.resultOf pool)) := by
  have asked : pass.ready?.isSome := by
    cases standing with
    | waiting _ ready => exact Option.isSome_of_eq_some ready
    | skipped _ asked => exact asked
    | going _ _ asked => exact asked
  exact .going pool _ asked goes late fun _ => ⟨finished, unspoiled, rfl⟩

/-- An interrupt leaves the pool as it is. -/
theorem interrupts (standing : Standing pass phase pool? result) (may : pass.mayInterrupt)
    (later : Phase) (late : pass.isBefore later = false) (cut : later.mayBeCut = true)
    (unawaited : pass.isAfter later = false) : Standing pass later pool? result := by
  cases standing with
  | unasked none untouched => exact .unasked none untouched
  | waiting pool ready untouched before =>
    exact .skipped pool (Option.isSome_of_eq_some ready) untouched (pass.unstarted pool ready) late
      cut may
  | skipped pool asked untouched unstarted _ _ interrupted =>
    exact .skipped pool asked untouched unstarted late cut interrupted
  | going pool result asked goes _ taken =>
    exact .going pool result asked goes late fun isAfter =>
      Bool.noConfusion (unawaited.symm.trans isAfter)

/-- The pool is asked to stop. -/
theorem stops (standing : Standing pass phase pool? result) (late : pass.isBefore phase = false)
    (later : Phase) (still : pass.isBefore later = false)
    (cut : phase.mayBeCut = true → later.mayBeCut = true) (unawaited : pass.isAfter later = false)
    (going : Pool State Task → Prop) (goes : ∀ pool, pass.going pool → going pool.stop) :
    Standing { pass with going } later (pool?.map Pool.stop) result := by
  cases standing with
  | unasked none untouched => exact .unasked none untouched
  | waiting pool ready untouched before => exact Bool.noConfusion (late.symm.trans before)
  | skipped pool asked untouched unstarted _ isCut interrupted =>
    exact .skipped pool.stop asked untouched unstarted still (cut isCut) interrupted
  | going pool result asked goesStill _ taken =>
    exact .going pool.stop result asked (goes pool goesStill) still fun isAfter =>
      Bool.noConfusion (unawaited.symm.trans isAfter)

end Standing

end RunPass

end LoadVerifier
