/-
This file says what the success of a run means when somebody may interrupt it. Without an interrupt
a run succeeds only if every pass that was asked for was started and went through without a flaw,
whatever the store did. After an interrupt both pools are asked to stop before their results are
taken, and the result of a pool that was asked to stop is not good. So an interrupted run succeeds
only if it has no result at all: the interrupt came before any pool was started.

That is a gap. The exit code of a run that was interrupted before its first start is the one of a
run that did all its work.
-/
import LoadVerifier.Proofs.ExitCode
import LoadVerifier.Proofs.RunOnAnyStore

namespace LoadVerifier

/-! ### Results of pools that were asked to stop -/

theorem Writer.running_of_ok (writer : Writer) (well : writer.result.ok = true) :
    writer.shared.stopRequested = false := by
  rw [WriteResult.ok, Bool.and_eq_true, Bool.not_eq_true'] at well
  exact well.2

theorem Reader.running_of_ok (reader : Reader) (well : reader.result.ok = true) :
    reader.shared.stopRequested = false := by
  rw [ReadResult.ok, Bool.and_eq_true, Bool.and_eq_true, decide_eq_true_eq] at well
  exact ((ReaderAudit.status_eq_completed_iff reader).mp well.1.1).2

namespace RunLife

variable {Storage : Type} {options : Options} {life next : RunLife Storage} {now : Float}

/-! ### After an interrupt -/

/-- Those pools that there are were asked to stop. -/
def AskedToStop (writer? : Option Writer) (reader? : Option Reader) : Prop :=
  (∀ writer, writer? = some writer → writer.shared.stopRequested = true) ∧
    ∀ reader, reader? = some reader → reader.shared.stopRequested = true

/-- There was an interrupt: the main thread is about to ask the pools to stop, or it has asked
them. -/
structure Interrupted (life : RunLife Storage) : Prop where
  cut : life.run.phase.mayBeCut = true
  asked : life.run.phase = .stopping ∨ AskedToStop life.run.writer life.run.reader

theorem Interrupted.main (interrupted : life.Interrupted) (run : Run Storage)
    (move : life.run.MainMove now run) : Interrupted { life with run } := by
  obtain ⟨cut, asked⟩ := interrupted
  -- From `stopping` the main thread goes on by asking both pools, and after an interrupt it starts
  -- no pool any more: so in every other case those that there are were asked before.
  cases move with
  | goesOn phase goes =>
    generalize life.run.phase = before at cut asked goes
    cases goes with
    | writerUnstarted => exact ⟨rfl, Or.inr (asked.resolve_left nofun)⟩
    | readerUnstarted => exact ⟨rfl, Or.inr (asked.resolve_left nofun)⟩
    | _ => cases cut
  | startsWriter writer spec atStart => rw [atStart] at cut; cases cut
  | startsReader reader spec atStart => rw [atStart] at cut; cases cut
  | takesWrite writer result phase awaits =>
    exact ⟨awaits.keepsCut.2 cut, Or.inr (asked.resolve_left awaits.keepsCut.1)⟩
  | takesRead reader result phase awaits =>
    exact ⟨awaits.keepsCut.2 cut, Or.inr (asked.resolve_left awaits.keepsCut.1)⟩
  | raisesWrite writer failure phase awaits =>
    exact ⟨rfl, Or.inr (asked.resolve_left awaits.keepsCut.1)⟩
  | raisesRead reader failure phase awaits =>
    exact ⟨rfl, Or.inr (asked.resolve_left awaits.keepsCut.1)⟩
  | stops =>
    refine ⟨rfl, Or.inr ⟨fun writer known => ?_, fun reader known => ?_⟩⟩
    · obtain ⟨_, _, rfl⟩ := Option.map_eq_some_iff.mp known
      rfl
    · obtain ⟨_, _, rfl⟩ := Option.map_eq_some_iff.mp known
      rfl
  | reports closing =>
    rw [closing] at asked
    exact ⟨rfl, Or.inr (asked.resolve_left nofun)⟩

section Steps

variable [Store Storage]

/-- An interrupt is never forgotten. -/
theorem Interrupted.step (interrupted : life.Interrupted) (event : RunEvent)
    (stepped : life.step event = some next) : next.Interrupted := by
  obtain ⟨actor, now⟩ := event
  cases actor with
  | main =>
    obtain ⟨run, move, rfl⟩ := step_main stepped
    exact interrupted.main run move
  | writer worker =>
    obtain ⟨writer, after, known, worked, rfl⟩ := step_writer stepped
    have change := WriterLife.change_of_work _ _ worker worked
    refine ⟨interrupted.cut, interrupted.asked.imp_right fun asked => ⟨?_, asked.2⟩⟩
    rintro _ ⟨⟩
    exact change.stopRequested (asked.1 writer known)
  | reader worker =>
    obtain ⟨reader, after, known, worked, rfl⟩ := step_reader stepped
    have change := ReaderAudit.change_of_work _ _ worker worked
    refine ⟨interrupted.cut, interrupted.asked.imp_right fun asked => ⟨asked.1, ?_⟩⟩
    rintro _ ⟨⟩
    exact change.stopRequested (asked.2 reader known)
  | interrupt =>
    obtain ⟨_, rfl⟩ := step_interrupt stepped
    exact ⟨rfl, Or.inl rfl⟩

theorem interrupted_of_replay (schedule : List RunEvent) (event : RunEvent)
    (member : event ∈ schedule) (interrupts : event.1 = .interrupt)
    (ran : replay RunLife.step life schedule = some next) : next.Interrupted := by
  obtain ⟨before, after, rfl⟩ := List.append_of_mem member
  obtain ⟨state, interrupted, _, stepped, went⟩ := replay_middle life next before after event ran
  obtain ⟨actor, now⟩ := event
  subst interrupts
  obtain ⟨_, rfl⟩ := step_interrupt stepped
  exact replay_invariant Interrupted
    (fun _ event _ interrupted stepped => interrupted.step event stepped) _ next after
    ⟨rfl, Or.inl rfl⟩ went

end Steps

/-! ### What success means -/

/-- Every pass that was asked for was started, all its workers have left, and it went without a
flaw. -/
structure WentThrough (options : Options) (life : RunLife Storage) : Prop where
  writer : options.write.isSome → ∃ writer, life.run.writer = some writer ∧
    Pool.started writer = true ∧ Pool.finished writer = true
  reader : options.read.isSome → ∃ reader, life.run.reader = some reader ∧
    Pool.started reader = true ∧ Pool.finished reader = true
  well : life.WentWell options

/-- No pool was started, and there is no result. -/
structure NothingStarted (life : RunLife Storage) (report : Report) : Prop where
  report_eq : report = ⟨none, none⟩
  writer : ∀ writer, life.run.writer = some writer → Pool.started writer = false
  reader : ∀ reader, life.run.reader = some reader → Pool.started reader = false

section Reported

variable {report : Report} {mayInterrupt : Prop}
  (underway : Underway (.any Storage options mayInterrupt) options life)
  (reported : life.run.phase = .reported report)

include underway reported

/-- A report has no result of the write pass, because its writer was not started, or it has that of
a writer whose workers have all left. -/
theorem Underway.skipped_or_written :
    (report.write = none ∧ (options.write.isSome → mayInterrupt) ∧
        ∀ writer, life.run.writer = some writer → Pool.started writer = false) ∨
      ∃ writer, life.run.writer = some writer ∧ (life.writing writer).Kept options.writePlan ∧
        Pool.finished writer = true ∧ report.write = some writer.result := by
  have standing := underway.writer
  rw [reported] at standing
  rw [underway.reported report reported]
  rcases standing.skipped_or_taken rfl rfl with ⟨none, cut, unstarted⟩ |
    ⟨writer, known, _, goes, finished, _, result⟩
  · exact Or.inl ⟨none, fun asked => cut (Option.isSome_map.trans asked), unstarted⟩
  · exact Or.inr ⟨writer, known, goes, finished, result⟩

/-- A report has no result of the read pass, because its reader was not started, or it has that of a
reader whose workers have all left, and none with a crash. -/
theorem Underway.skipped_or_read :
    (report.read = none ∧ (options.read.isSome → mayInterrupt) ∧
        ∀ reader, life.run.reader = some reader → Pool.started reader = false) ∨
      ∃ reader, life.run.reader = some reader ∧
        ReaderAudit.Kept options.readPlan (life.reading reader) ∧
          Pool.finished reader = true ∧ ¬Pool.Spoiled reader ∧
            report.read = some reader.result := by
  have standing := underway.reader
  rw [reported] at standing
  rw [underway.reported report reported]
  rcases standing.skipped_or_taken rfl rfl with ⟨none, cut, unstarted⟩ |
    ⟨reader, known, _, goes, finished, unspoiled, result⟩
  · exact Or.inl ⟨none, fun asked => cut (Option.isSome_map.trans asked), unstarted⟩
  · exact Or.inr ⟨reader, known, goes.1, finished, unspoiled, result⟩

end Reported

variable [Store Storage]

/-- Where there may be no interrupt, success is the success of the whole. -/
theorem Underway.wentThrough (underway : Underway (.any Storage options False) options life)
    (readable : options.Readable) (report : Report)
    (reported : life.run.phase = .reported report) (success : report.ok = true) :
    life.WentThrough options := by
  rw [Report.ok, Bool.and_eq_true] at success
  obtain ⟨written, read⟩ := success
  have anyKept : (Conduct.any Storage options False).Kept options := Conduct.any_kept
  have write : options.write.isSome → (∃ writer, life.run.writer = some writer ∧
      Pool.started writer = true ∧ Pool.finished writer = true) ∧
        life.ledger.Flawless options.range := by
    intro asked
    rcases underway.skipped_or_written reported with ⟨_, skipped, _⟩ |
      ⟨writer, known, kept, finished, result⟩
    · exact (skipped asked).elim
    · rw [result] at written
      exact ⟨⟨writer, known, started_of_writing anyKept _ kept, finished⟩,
        ((kept.result_ok_iff finished).mp written).2⟩
  have reading : options.read.isSome → (∃ reader, life.run.reader = some reader ∧
      Pool.started reader = true ∧ Pool.finished reader = true) ∧
        life.account.Flawless options.range := by
    intro asked
    rcases underway.skipped_or_read reported with ⟨_, skipped, _⟩ |
      ⟨reader, known, kept, finished, unspoiled, result⟩
    · exact (skipped asked).elim
    · rw [result] at read
      exact ⟨⟨reader, known, started_of_reading anyKept _ kept, finished⟩,
        ((kept.result_ok_iff finished unspoiled (readable asked).maxErrors_nonneg).mp read).2⟩
  exact ⟨fun asked => (write asked).1, fun asked => (reading asked).1,
    ⟨fun asked => (write asked).2, fun asked => (reading asked).2⟩⟩

omit [Store Storage] in
/-- After an interrupt there is no success but that of nothing. -/
theorem Underway.nothingStarted {mayInterrupt : Prop}
    (underway : Underway (.any Storage options mayInterrupt) options life)
    (interrupted : life.Interrupted) (report : Report)
    (reported : life.run.phase = .reported report) (success : report.ok = true) :
    life.NothingStarted report := by
  rw [Report.ok, Bool.and_eq_true] at success
  obtain ⟨written, read⟩ := success
  obtain ⟨stopped, halted⟩ := interrupted.asked.resolve_left fun stopping =>
    Phase.noConfusion (reported.symm.trans stopping)
  have write : report.write = none ∧
      ∀ writer, life.run.writer = some writer → Pool.started writer = false := by
    rcases underway.skipped_or_written reported with ⟨none, _, unstarted⟩ |
      ⟨writer, known, _, _, result⟩
    · exact ⟨none, unstarted⟩
    · rw [result] at written
      exact Bool.noConfusion ((writer.running_of_ok written).symm.trans (stopped writer known))
  have reading : report.read = none ∧
      ∀ reader, life.run.reader = some reader → Pool.started reader = false := by
    rcases underway.skipped_or_read reported with ⟨none, _, unstarted⟩ |
      ⟨reader, known, _, _, _, result⟩
    · exact ⟨none, unstarted⟩
    · rw [result] at read
      exact Bool.noConfusion ((reader.running_of_ok read).symm.trans (halted reader known))
  refine ⟨?_, write.2, reading.2⟩
  obtain ⟨writeResult, readResult⟩ := report
  obtain ⟨⟨rfl, _⟩, ⟨rfl, _⟩⟩ := And.intro write reading
  rfl

/-- A run succeeds as a whole, or it was interrupted and has started nothing. On every store and
every schedule, a run that could be prepared and has reported with exit code zero has gone through
every pass that was asked for without a flaw, if it was not interrupted; and if it was, it has
started no pool and has no result. -/
theorem success_is_whole_or_of_nothing (store : Storage) (run : Run Storage)
    (lines : List Line) (prepared : Run.prepare options store = .ok (run, lines))
    (schedule : List RunEvent) (ran : replay RunLife.step { run } schedule = some life)
    (report : Report) (reported : life.run.phase = .reported report)
    (success : report.exitCode = 0) :
    ((∀ event ∈ schedule, event.1 ≠ .interrupt) ∧ life.WentThrough options) ∨
      (∃ event ∈ schedule, event.1 = .interrupt) ∧ life.NothingStarted report := by
  have ok : report.ok = true := by
    rw [Report.exitCode] at success
    split at success
    · assumption
    · cases success
  -- The two halves follow the run under different conducts: only the one without interrupts
  -- promises that no pass that was asked for is skipped.
  by_cases interrupt : ∃ event ∈ schedule, event.1 = .interrupt
  · refine Or.inr ⟨interrupt, ?_⟩
    obtain ⟨event, member, interrupts⟩ := interrupt
    have pursued : Pursued (.any Storage options True) options life :=
      pursued_of_replay Conduct.any_kept store trivial run lines prepared schedule
        (fun _ _ _ => trivial) ran
    exact (pursued.underway_of_reported report reported).nothingStarted
      (interrupted_of_replay schedule event member interrupts ran) report reported ok
  · have uninterrupted : ∀ event ∈ schedule, event.1 ≠ .interrupt :=
      fun event member interrupts => interrupt ⟨event, member, interrupts⟩
    refine Or.inl ⟨uninterrupted, ?_⟩
    have pursued : Pursued (.any Storage options False) options life :=
      pursued_of_replay Conduct.any_kept store trivial run lines prepared schedule
        uninterrupted ran
    exact (pursued.underway_of_reported report reported).wentThrough
      ((Run.prepare_eq_ok_iff options store run).mp ⟨lines, prepared⟩).1 report reported ok

/-- The main thread announces the write pass, is interrupted there, and goes on to its report. -/
def interruptedAtOnce : List RunEvent :=
  [Actor.main, Actor.interrupt, Actor.main, Actor.main, Actor.main, Actor.main].map
    fun actor => (actor, 0.0)

theorem success_is_whole_or_of_nothing_in_two_runs :
    (∃ life : RunLife FaultyStore,
      replay RunLife.step { run := Run.ready threeKeys {} } (oneAfterTheOther 18 25) = some life ∧
        life.WentThrough threeKeys) ∧
      ∃ (life : RunLife FaultyStore) (report : Report),
        replay RunLife.step { run := Run.ready threeKeys {} } interruptedAtOnce = some life ∧
          life.NothingStarted report := by
  obtain ⟨lines, prepared⟩ :=
    (Run.prepare_eq_ok_iff threeKeys ({} : FaultyStore) _).mpr ⟨threeKeys_readable, rfl⟩
  constructor
  · obtain ⟨life, report, ran, reported, zero⟩ := threeKeys_succeeds
    rcases success_is_whole_or_of_nothing {} _ lines prepared _ ran report reported zero with
      ⟨_, wentThrough⟩ | ⟨interrupted, _⟩
    · exact ⟨life, ran, wentThrough⟩
    · exact absurd interrupted (by decide +kernel)
  · have succeeded : (replay RunLife.step ({ run := Run.ready threeKeys {} } : RunLife FaultyStore)
        interruptedAtOnce).map exitCode? = some (some 0) := by
      decide +kernel
    obtain ⟨life, ran, code⟩ := Option.map_eq_some_iff.mp succeeded
    obtain ⟨report, reported, zero⟩ := (exitCode?_eq_some_iff life 0).mp code
    rcases success_is_whole_or_of_nothing {} _ lines prepared _ ran report reported zero with
      ⟨uninterrupted, _⟩ | ⟨_, nothingStarted⟩
    · exact absurd uninterrupted (by decide +kernel)
    · exact ⟨life, report, ran, nothingStarted⟩

/-- A run that was to write and read three keys is interrupted before it has started a pool. It
exits with zero, and no key was claimed. -/
theorem interrupt_before_start_exits_with_zero :
    ∃ run lines life, Run.prepare threeKeys ({} : FaultyStore) = .ok (run, lines) ∧
      replay RunLife.step { run } interruptedAtOnce = some life ∧ life.exitCode? = some 0 ∧
        ¬life.WentThrough threeKeys ∧ life.ledger.claimed = [] := by
  obtain ⟨lines, prepared⟩ :=
    (Run.prepare_eq_ok_iff threeKeys ({} : FaultyStore) _).mpr ⟨threeKeys_readable, rfl⟩
  have ended : (replay RunLife.step ({ run := Run.ready threeKeys {} } : RunLife FaultyStore)
      interruptedAtOnce).map (fun life =>
        (life.exitCode?, life.run.writer.any Pool.started, life.ledger.claimed)) =
          some (some 0, false, []) := by
    decide +kernel
  obtain ⟨life, ran, seen⟩ := Option.map_eq_some_iff.mp ended
  obtain ⟨code, seen⟩ := Prod.mk.inj seen
  obtain ⟨unstarted, claimed⟩ := Prod.mk.inj seen
  refine ⟨_, lines, life, prepared, ran, code, fun wentThrough => ?_, claimed⟩
  obtain ⟨writer, known, started, _⟩ := wentThrough.writer rfl
  rw [known] at unstarted
  exact Bool.noConfusion (unstarted.symm.trans started)

end RunLife

end LoadVerifier
