/-
This file proves what a dry run comes to. It has an empty store of its own, which fails no call. So
if the seed is not negative, the arguments alone settle the outcome, and the turns of the threads do
not matter: a write pass writes every key that is asked for, a read pass beside it reads them all
without an error, and the exit code is zero. A read pass without a write pass finds no row, and the
exit code is one. Neither the number of threads nor the window nor the share of the keys to compare
makes a difference. Arguments that are refused do not even start a run.
-/
import LoadVerifier.CommandLine.Program
import LoadVerifier.Database.Scripted
import LoadVerifier.Proofs.AcceptedSettings
import LoadVerifier.Proofs.ExecutedSchedule
import LoadVerifier.Proofs.OverwritingLaw
import LoadVerifier.Proofs.RunResults

namespace LoadVerifier

/-! ### The report -/

/-- What is reported of a dry run over a number of keys, with or without either of the passes. -/
structure Report.OfDryRun (report : Report) (writes reads : Bool) (startKey numKeys : Int) :
    Prop where
  exitCode : report.exitCode = if writes then 0 else 1
  write : writes = true → ∃ columnsWritten, report.write = some {
    keysWritten := numKeys
    columnsWritten
    failedKeys := []
    watermark := startKey + numKeys - 1
    stopped := false }
  read : writes = true → reads = true → ∃ verified : Nat, report.read = some {
    status := .completed
    keysRead := numKeys
    verified
    errors := 0
    unreachable := 0
    errorKeys := [] }

/-- A write pass without a failing cell writes the whole range. -/
theorem WritePlan.result_of_none_failing (plan : WritePlan) (numKeys : Int)
    (counted : plan.range.limit = plan.range.start + numKeys) :
    plan.result (fun _ _ => false) = {
      keysWritten := numKeys
      columnsWritten := (plan.result fun _ _ => false).columnsWritten
      failedKeys := []
      watermark := plan.range.start + numKeys - 1 } := by
  simp [WritePlan.result, WriterLife.failingKeys_eq_nil plan, counted]

namespace RunLife

variable {options : Options} {seed : Int} {life : RunLife MemoryStore} {report : Report}

/-- What is known of the pools of a run on an empty store in memory. -/
abbrev DryForeseen (options : Options) (seed : Int) (life : RunLife MemoryStore) : Prop :=
  Foreseen MemoryStore.contents (fun _ => True) (fun _ _ => false) options seed
    ({} : MemoryStore).contents life

/-- The report of a run on an empty store in memory is settled by its options. -/
theorem DryForeseen.ofDryRun (foreseen : DryForeseen options seed life)
    (possible : options.Possible) (generates : options.Generates) (numKeys : Int)
    (some_key : 1 ≤ numKeys) (counted : options.range.limit = options.range.start + numKeys)
    (underway : Underway (.straight options fun _ => True) options life)
    (reported : life.run.phase = .reported report) :
    report.OfDryRun options.write.isSome options.read.isSome options.range.start numKeys := by
  have whole := options.writePlan.result_of_none_failing numKeys counted
  have mark : (options.writePlan.result fun _ _ => false).watermark =
      options.range.start + numKeys - 1 := congrArg WriteResult.watermark whole
  have wrote := fun writes : options.write.isSome = true =>
    (foreseen.write_eq memoryStore_keepsRows generates underway reported writes).trans
      (congrArg some whole)
  have read : options.write.isSome → options.read.isSome → ∃ verified : Nat, report.read = some {
      status := .completed
      keysRead := numKeys
      verified
      errors := 0
      unreachable := 0
      errorKeys := [] } := by
    intro writes reads
    obtain ⟨verified, result⟩ :=
      foreseen.read_eq memoryStore_keepsRows generates underway reported writes reads
    refine ⟨verified, result.trans ?_⟩
    rw [mark, counted, show options.range.start + numKeys - 1 - options.range.start + 1 = numKeys by
      omega, Int.sub_self]
  refine ⟨?_, fun writes => ⟨_, wrote writes⟩, read⟩
  -- A run makes some pass, so one that does not write reads, and finds nothing.
  cases writes : options.write with
  | none =>
    have reads : options.read.isSome :=
      options.some_pass.resolve_left (by rw [writes]; exact Bool.false_ne_true)
    have bad := foreseen.read_not_ok memoryStore_keepsRows generates underway reported possible
      writes reads (by omega)
    rw [Report.exitCode, Report.ok, bad, Bool.and_false]
    rfl
  | some spec =>
    have isAsked : options.write.isSome = true := by rw [writes]; rfl
    have good : report.read.all ReadResult.ok = true := by
      cases reads : options.read with
      | none =>
        rw [underway.read_eq_none reported reads]
        rfl
      | some spec =>
        obtain ⟨verified, result⟩ := read isAsked (by rw [reads]; rfl)
        rw [result]
        rfl
    rw [Report.exitCode, Report.ok, good, wrote isAsked]
    rfl

end RunLife

/-! ### The program -/

section Program

variable {Server : Type} [Database Server] {arguments : Arguments} {options : Options}

/-- A dry run does not need the server, and its exit code is that of its report. -/
theorem Program.run_of_memory (memory : arguments.memory = true)
    (shown : arguments.printPsql = false) (accepted : arguments.runOptions = .ok options)
    (server : Server) :
    (Program.run arguments server).result =
        (execute options ({} : MemoryStore) none).result.map Report.exitCode ∧
      (Program.run arguments server).server = server := by
  unfold Program.run Program.perform
  rw [shown, accepted, memory]
  exact ⟨rfl, rfl⟩

/-- Arguments that are refused start nothing: all that the program does is to say why. -/
theorem Program.run_of_refused (shown : arguments.printPsql = false) (error : ConfigError)
    (refused : arguments.runOptions = .error (.config error)) (server : Server) :
    Program.run arguments server = ⟨.ok 2, server, [.err s!"[config] {error.message}"]⟩ := by
  unfold Program.run
  rw [shown, refused]
  rfl

end Program

/-! ### The contract -/

/-- A run has not failed, can still come to its report, and reports nothing but what is promised. -/
structure RunLife.Promises {Storage : Type} [Store Storage] (promised : Report → Prop)
    (life : RunLife Storage) : Prop where
  unraised : ∀ failure, life.run.phase ≠ .raised failure
  exists_report : ∃ rest final report, (∀ event ∈ rest, event.1 ≠ .interrupt) ∧
    replay RunLife.step life rest = some final ∧ final.run.phase = .reported report
  promised : ∀ report, life.run.phase = .reported report → promised report

section Runs

variable {options : Options} {seed : Int} {numKeys : Int}

/-- On an empty store in memory a run keeps its promise in every schedule without an interrupt. -/
theorem Options.promises_of_replay (possible : options.Possible) (generates : options.Generates)
    (seeded : options.seed = .value seed) (nonneg : 0 ≤ seed) (some_key : 1 ≤ numKeys)
    (counted : options.range.limit = options.range.start + numKeys) (schedule : List RunEvent)
    (uninterrupted : ∀ event ∈ schedule, event.1 ≠ .interrupt) (life : RunLife MemoryStore)
    (ran : replay RunLife.step { run := Run.ready options {} } schedule = some life) :
    life.Promises fun report =>
      report.OfDryRun options.write.isSome options.read.isSome options.range.start numKeys := by
  obtain ⟨underway, foreseen⟩ := RunLife.foreseen_of_replay memoryStore_keepsRows
    WriterLife.refuses_nothing possible generates seeded nonneg (fun _ => rfl) {} trivial rfl
    schedule uninterrupted ran
  obtain ⟨unraised, reports⟩ := underway.comes_to_report memoryStore_keepsRows.unbreakable possible
    generates seeded nonneg
  exact ⟨unraised, reports, fun report reported =>
    RunLife.DryForeseen.ofDryRun foreseen possible generates numKeys some_key counted underway
      reported⟩

/-- So does the run that is carried out. -/
theorem Options.promise_of_execute (possible : options.Possible) (generates : options.Generates)
    (seeded : options.seed = .value seed) (nonneg : 0 ≤ seed) (some_key : 1 ≤ numKeys)
    (counted : options.range.limit = options.range.start + numKeys) :
    ∃ report, (execute options ({} : MemoryStore) none).result = .ok report ∧
      report.OfDryRun options.write.isSome options.read.isSome options.range.start numKeys := by
  obtain ⟨schedule, life, uninterrupted, ran, isOver, result, _⟩ :=
    execute_follows_schedule options possible ({} : MemoryStore)
  have promises := options.promises_of_replay possible generates seeded nonneg some_key counted
    schedule uninterrupted life ran
  cases reached : life.run.phase with
  | reported report =>
    refine ⟨report, ?_, promises.promised report reached⟩
    rw [result, Run.result, reached]
  | raised failure => exact absurd reached (promises.unraised failure)
  | _ => rw [reached] at isOver; cases isOver

end Runs

/-- What a dry run comes to is settled by its arguments. Take any that ask for one, whose seed is
not negative. If they are accepted, then in every schedule of the threads the run does not fail, can
come to its report, and reports this: a write pass has written as many keys as were asked for, none
failed, and the watermark is the last of them; a read pass beside it has completed, read as many
keys, and met no error and no key that was never written. The exit code is zero if there was a write
pass, and one if not. If they are refused, the exit code is two, and nothing is started. -/
theorem dry_run_contract {Server : Type} [Database Server] (arguments : Arguments)
    (memory : arguments.memory = true) (shown : arguments.printPsql = false) (seed : Int)
    (seeded : arguments.seed = .value seed) (nonneg : 0 ≤ seed) :
    (∀ options, arguments.runOptions = .ok options →
      ∃ startKey numKeys, arguments.startKey = .value startKey ∧
        arguments.numKeys = .value numKeys ∧
        (∃ run lines, Run.prepare options ({} : MemoryStore) = .ok (run, lines) ∧
          ∀ schedule life, (∀ event ∈ schedule, event.1 ≠ .interrupt) →
            replay RunLife.step { run } schedule = some life →
              life.Promises fun report => report.OfDryRun (givenText arguments.write).isSome
                (givenText arguments.read).isSome startKey numKeys) ∧
        ∀ server : Server,
          (Program.run arguments server).result =
              .ok (if (givenText arguments.write).isSome then 0 else 1) ∧
            (Program.run arguments server).server = server) ∧
    ∀ error, arguments.runOptions = .error (.config error) → ∀ server : Server,
      Program.run arguments server = ⟨.ok 2, server, [.err s!"[config] {error.message}"]⟩ := by
  refine ⟨fun options accepted => ?_, Program.run_of_refused shown⟩
  obtain ⟨possible, drawable, seed_eq⟩ := arguments.runOptions_eq_ok options accepted
  have generates := Options.generates_of_drawable drawable
  have grants := Arguments.grants_of_accepted accepted
  obtain ⟨startKey, numKeys, isStart, isCount, _, some_key, start, limit⟩ :=
    Arguments.range_eq_ok grants.range
  subst start
  rw [← isSome_of_mapM_eq_ok grants.write, ← isSome_of_mapM_eq_ok grants.read]
  obtain ⟨lines, prepared⟩ := Run.prepare_eq_ok options possible ({} : MemoryStore)
  refine ⟨options.range.start, numKeys, isStart, isCount,
    ⟨_, lines, prepared, fun schedule life uninterrupted =>
      options.promises_of_replay possible generates (seed_eq.trans seeded) nonneg some_key limit
        schedule uninterrupted life⟩, fun server => ?_⟩
  obtain ⟨result, same⟩ := Program.run_of_memory memory shown accepted server
  obtain ⟨report, executed, promised⟩ :=
    options.promise_of_execute possible generates (seed_eq.trans seeded) nonneg some_key limit
  refine ⟨?_, same⟩
  rw [result, executed, ← promised.exitCode]
  rfl

/-- A dry run that reads ten keys which nobody has written. -/
def dryVerification : Arguments where
  startKey := .value 0
  numKeys := .value 10
  memory := true
  data := some (.value "2:9")
  read := some (.value "100:2")

theorem dry_run_contract_of_three_runs :
    (Program.run dryRun ({} : ScriptedDatabase)).result = .ok 0 ∧
      (Program.run dryVerification ({} : ScriptedDatabase)).result = .ok 1 ∧
        (Program.run negativeWindow ({} : ScriptedDatabase)).result = .ok 2 := by
  have known : (dryRun.runOptions.toOption.isSome && dryVerification.runOptions.toOption.isSome) =
      true := by
    decide +kernel
  obtain ⟨written, verified⟩ := Bool.and_eq_true_iff.mp known
  refine ⟨?_, ?_, ?_⟩
  · obtain ⟨options, found⟩ := Option.isSome_iff_exists.mp written
    obtain ⟨_, _, _, _, _, exits⟩ := (@dry_run_contract ScriptedDatabase _ dryRun rfl rfl 7 rfl
      (by decide)).1 options (eq_ok_of_toOption found)
    exact (exits {}).1
  · obtain ⟨options, found⟩ := Option.isSome_iff_exists.mp verified
    obtain ⟨_, _, _, _, _, exits⟩ := (@dry_run_contract ScriptedDatabase _ dryVerification rfl rfl
      defaultSeed rfl (by decide)).1 options (eq_ok_of_toOption found)
    exact (exits {}).1
  · have refused : negativeWindow.runOptions = .error (.config (.negativeKeyWindow (-1))) := by
      rfl
    rw [(@dry_run_contract ScriptedDatabase _ negativeWindow rfl rfl defaultSeed rfl
      (by decide)).2 _ refused {}]

end LoadVerifier
