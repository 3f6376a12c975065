/-
This file proves that the exit code of a run tells the truth. The store breaks no call, but it may
refuse any of them, and the threads take their turns in any order, without an interrupt. Then the
run never fails, it can always come to its report, and the exit code of the report is zero if and
only if every pass that was asked for went without a flaw: each key of the range was claimed, all
its store calls returned, every key that was read had a row, and no row that was compared differed.

What went on is read off the ledger and the account, which know nothing of the flags and counts from
which the exit code is made.
-/
import LoadVerifier.Proofs.SmoothRun

namespace LoadVerifier

namespace RunLife

variable {Storage : Type} {regular : Storage → Prop} {options : Options} {life : RunLife Storage}

/-- Every pass that was asked for went without a flaw. -/
structure WentWell (options : Options) (life : RunLife Storage) : Prop where
  write : options.write.isSome → life.ledger.Flawless options.range
  read : options.read.isSome → life.account.Flawless options.range

section Reported

variable {report : Report} (underway : Underway (.straight options regular) options life)
  (reported : life.run.phase = .reported report)

include underway reported

/-- The writer counts for the exit code as the ledger says. -/
theorem Underway.write_ok_iff :
    report.write.all WriteResult.ok = true ↔
      (options.write.isSome → life.ledger.Flawless options.range) := by
  have standing := underway.writer
  rw [underway.reported report reported]
  rw [reported] at standing
  show life.run.writeResult.all WriteResult.ok = true ↔ _
  rcases standing.skipped_or_taken rfl rfl with ⟨none, unasked, _⟩ |
    ⟨writer, _, asked, goes, finished, _, result⟩
  · rw [none]
    exact ⟨fun _ asked => (unasked (Option.isSome_map.trans asked)).elim, fun _ => rfl⟩
  · rw [result]
    have isAsked : options.write.isSome := Option.isSome_map.symm.trans asked
    exact (goes.1.kept.result_ok_iff finished).trans
      ⟨fun ok _ => ok.2, fun flawless => ⟨goes.2, flawless isAsked⟩⟩

/-- The reader counts for the exit code as the account says. -/
theorem Underway.read_ok_iff (possible : options.Possible) :
    report.read.all ReadResult.ok = true ↔
      (options.read.isSome → life.account.Flawless options.range) := by
  have standing := underway.reader
  rw [underway.reported report reported]
  rw [reported] at standing
  show life.run.readResult.all ReadResult.ok = true ↔ _
  rcases standing.skipped_or_taken rfl rfl with ⟨none, unasked, _⟩ |
    ⟨reader, _, asked, goes, finished, unspoiled, result⟩
  · rw [none]
    exact ⟨fun _ asked => (unasked (Option.isSome_map.trans asked)).elim, fun _ => rfl⟩
  · rw [result]
    obtain ⟨⟨smooth, itself⟩, _⟩ := goes
    have isAsked : options.read.isSome := Option.isSome_map.symm.trans asked
    obtain ⟨spec, isSpec⟩ := Option.isSome_iff_exists.mp isAsked
    exact (smooth.kept.result_ok_iff_flawless finished unspoiled
      (possible.readPlan spec isSpec).maxErrors_nonneg itself).trans
      ⟨fun flawless _ => flawless, fun flawless => flawless isAsked⟩

end Reported

/-- With a seed that is not negative, such a run does not fail and can come to its report. -/
theorem Underway.comes_to_report [Store Storage] (unbreakable : Unbreakable Storage regular)
    (possible : options.Possible) (generates : options.Generates) {seed : Int}
    (seeded : options.seed = .value seed) (nonneg : 0 ≤ seed)
    (underway : Underway (.straight options regular) options life) :
    (∀ failure, life.run.phase ≠ .raised failure) ∧
      ∃ rest final report, (∀ event ∈ rest, event.1 ≠ .interrupt) ∧
        replay RunLife.step life rest = some final ∧ final.run.phase = .reported report := by
  have uncrashed : ∀ life, Underway (.straight options regular) options life → life.Uncrashed :=
    fun life underway => underway.uncrashed (fun _ straight => straight.1.unspoiled)
      fun _ straight => straight.1.unspoiled seed seeded nonneg
  exact ⟨underway.not_raised (uncrashed life underway),
    underway.exists_report (Conduct.straight_kept unbreakable generates) possible uncrashed⟩

/-- The exit code tells the truth. A run whose passes are within the limits, whose keys all have
records and whose seed is not negative, on a store that breaks no call, can be prepared. In every
schedule without an interrupt it does not fail and can still come to its report. And when it has
reported, its exit code is zero if every pass that was asked for went without a flaw, and one if
not. -/
theorem exitCode_tells_truth [Store Storage] (unbreakable : Unbreakable Storage regular)
    (options : Options) (possible : options.Possible) (generates : options.Generates) (seed : Int)
    (seeded : options.seed = .value seed) (nonneg : 0 ≤ seed) (store : Storage)
    (isRegular : regular store) :
    ∃ run lines, Run.prepare options store = .ok (run, lines) ∧
      ∀ schedule life, (∀ event ∈ schedule, event.1 ≠ .interrupt) →
        replay RunLife.step { run } schedule = some life →
          (∀ failure, life.run.phase ≠ .raised failure) ∧
          (∃ rest final report, (∀ event ∈ rest, event.1 ≠ .interrupt) ∧
            replay RunLife.step life rest = some final ∧
              final.run.phase = .reported report) ∧
          ∀ report, life.run.phase = .reported report →
            (report.exitCode = 0 ↔ life.WentWell options) ∧
              (¬life.WentWell options → report.exitCode = 1) := by
  obtain ⟨lines, prepared⟩ := Run.prepare_eq_ok options possible store
  refine ⟨Run.ready options store, lines, prepared, fun schedule life uninterrupted ran => ?_⟩
  have kept := Conduct.straight_kept unbreakable generates
  have underway : Underway (.straight options regular) options life :=
    (underway_ready _ store isRegular).of_replay kept possible schedule
      (fun event member interrupt => absurd interrupt (uninterrupted event member)) ran
  obtain ⟨unraised, reports⟩ :=
    underway.comes_to_report unbreakable possible generates seeded nonneg
  refine ⟨unraised, reports, fun report reported => ?_⟩
  have ok : report.ok = true ↔ life.WentWell options := by
    rw [Report.ok, Bool.and_eq_true, underway.write_ok_iff reported,
      underway.read_ok_iff reported possible]
    exact ⟨fun both => ⟨both.1, both.2⟩, fun well => ⟨well.write, well.read⟩⟩
  rw [← ok, Report.exitCode]
  split
  · rename_i isOk
    exact ⟨⟨fun _ => isOk, fun _ => rfl⟩, fun unwell => absurd isOk unwell⟩
  · rename_i unwell
    exact ⟨⟨nofun, fun isOk => absurd isOk unwell⟩, fun _ => rfl⟩

/-- Three keys are written, and all of them are read and compared. -/
def threeKeys : Options where
  range := .three
  bounds := .small
  write := some { bounds := .small, threads := 1, multiPut := true }
  read := some { verifyPercent := 100, threads := 1 }
  some_pass := by decide

theorem threeKeys_possible : threeKeys.Possible where
  write := by rintro spec ⟨⟩; decide
  read := by rintro spec ⟨⟩; exact ⟨by decide, by decide, by decide, by decide⟩

theorem threeKeys_readable : threeKeys.Readable := threeKeys_possible.readable

/-- A store that refuses the second key. -/
def oneRefused : FaultyStore := { faults := { failingWrites := [1] } }

/-- The writer does all its work before the reader does any, and the main thread waits meanwhile. -/
def oneAfterTheOther (writerSteps readerSteps : Nat) : List RunEvent :=
  (List.replicate 4 Actor.main ++ List.replicate writerSteps (Actor.writer 0) ++ [Actor.main] ++
    List.replicate readerSteps (Actor.reader 0) ++ [Actor.main, Actor.main]).map
      fun actor => (actor, 0.0)

/-- The exit code that a run has reported. -/
def exitCode? (life : RunLife Storage) : Option Nat :=
  match life.run.phase with
  | .reported report => some report.exitCode
  | _ => none

theorem exitCode?_eq_some_iff (life : RunLife Storage) (code : Nat) :
    life.exitCode? = some code ↔
      ∃ report, life.run.phase = .reported report ∧ report.exitCode = code := by
  unfold exitCode?
  split
  · rename_i report reported
    exact ⟨fun same => ⟨report, reported, Option.some.inj same⟩, fun ⟨_, same, exits⟩ => by
      cases reported.symm.trans same
      exact congrArg some exits⟩
  · rename_i unreported
    exact ⟨nofun, fun ⟨report, reported, _⟩ => absurd reported (unreported report)⟩

theorem threeKeys_succeeds : ∃ (life : RunLife FaultyStore) (report : Report),
    replay RunLife.step { run := Run.ready threeKeys {} } (oneAfterTheOther 18 25) = some life ∧
      life.run.phase = .reported report ∧ report.exitCode = 0 := by
  have succeeded : (replay RunLife.step ({ run := Run.ready threeKeys {} } : RunLife FaultyStore)
      (oneAfterTheOther 18 25)).map exitCode? = some (some 0) := by
    decide +kernel
  obtain ⟨life, ran, code⟩ := Option.map_eq_some_iff.mp succeeded
  obtain ⟨report, reported, zero⟩ := (exitCode?_eq_some_iff life 0).mp code
  exact ⟨life, report, ran, reported, zero⟩

theorem exitCode_tells_truth_of_success_and_refusal :
    (∃ life : RunLife FaultyStore,
      replay RunLife.step { run := Run.ready threeKeys {} } (oneAfterTheOther 18 25) = some life ∧
        life.exitCode? = some 0 ∧ life.WentWell threeKeys) ∧
      ∃ life : RunLife FaultyStore,
        replay RunLife.step { run := Run.ready threeKeys oneRefused } (oneAfterTheOther 17 23) =
          some life ∧ life.exitCode? = some 1 ∧ ¬life.WentWell threeKeys := by
  have possible := threeKeys_possible
  have generates : threeKeys.Generates :=
    generates_of_isSome threeKeys.range threeKeys.bounds (by decide +kernel)
  have prepared (store : FaultyStore) := Run.prepare_eq_ok threeKeys possible store
  refine ⟨?_, ?_⟩
  · obtain ⟨life, report, ran, reported, zero⟩ := threeKeys_succeeds
    have code := (exitCode?_eq_some_iff life 0).mpr ⟨report, reported, zero⟩
    obtain ⟨run, lines, isRun, truth⟩ := exitCode_tells_truth faultyStore_unbreakable threeKeys
      possible generates defaultSeed rfl (by decide) {} rfl
    obtain ⟨_, same⟩ := prepared {}
    cases same.symm.trans isRun
    exact ⟨life, ran, code, ((truth _ life (by decide +kernel) ran).2.2 report reported).1.mp zero⟩
  · have refused : (replay RunLife.step
        ({ run := Run.ready threeKeys oneRefused } : RunLife FaultyStore)
          (oneAfterTheOther 17 23)).map exitCode? = some (some 1) := by
      decide +kernel
    obtain ⟨life, ran, code⟩ := Option.map_eq_some_iff.mp refused
    obtain ⟨report, reported, one⟩ := (exitCode?_eq_some_iff life 1).mp code
    obtain ⟨run, lines, isRun, truth⟩ := exitCode_tells_truth faultyStore_unbreakable threeKeys
      possible generates defaultSeed rfl (by decide) oneRefused rfl
    obtain ⟨_, same⟩ := prepared oneRefused
    cases same.symm.trans isRun
    refine ⟨life, ran, code, fun well => ?_⟩
    have zero := ((truth _ life (by decide +kernel) ran).2.2 report reported).1.mpr well
    rw [one] at zero
    cases zero

end RunLife

end LoadVerifier
