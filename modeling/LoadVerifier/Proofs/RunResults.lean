/-
This file says what the passes of a run come to when the store keeps its rows, held none at the
start, and refuses the writes to certain cells and nothing else. Nobody interrupts the run and
nobody else touches the store; the threads take their turns in any order.

What is known of a writer on such a store, and of a reader linked to it, was proved of these pools
alone. Here the steps of a run are taken apart into theirs. The reader starts when the writer may
already be at work, and the main thread goes its own way in between; neither changes anything that
the pools know of each other. So in the end the result of the write pass is fixed by the cells that
are refused, and the result of a read pass beside it by the final watermark. A read pass without a
write pass finds no row at all.
-/
import LoadVerifier.Proofs.ExitCode
import LoadVerifier.Proofs.LinkedResult
import LoadVerifier.Proofs.RowlessPass
import LoadVerifier.Proofs.RunOnAnyStore
import LoadVerifier.Proofs.WriterResult

namespace LoadVerifier

variable {Storage : Type} {contents : Storage → Contents} {regular : Storage → Prop}
  {failing : Int → Int → Bool} {options : Options} {seed : Int} {initial : Contents}

/-- A store that keeps its rows breaks no call. -/
theorem KeepsRows.unbreakable [Store Storage] (keeps : KeepsRows Storage contents regular) :
    Unbreakable Storage regular where
  write store caller key columns isRegular := by
    obtain ⟨stillRegular, ⟨done, _⟩ | ⟨⟨failure, failed⟩, _⟩⟩ :=
      keeps.write store caller key columns isRegular
    · exact ⟨stillRegular, fun crash crashed => by rw [done] at crashed; cases crashed⟩
    · exact ⟨stillRegular, fun crash crashed => by rw [failed] at crashed; cases crashed⟩
  read store caller key isRegular := by
    obtain ⟨stillRegular, _, row, done, _⟩ := keeps.read store caller key isRegular
    exact ⟨stillRegular, fun crash crashed => by rw [done] at crashed; cases crashed⟩

/-- A step of a worker of a reader leaves the content of such a store as it is. -/
theorem ReaderAudit.contents_of_work [Store Storage] {Source : Type} [WatermarkSource Source]
    {audit next : ReaderAudit Storage Source} {worker : Nat}
    (keeps : KeepsRows Storage contents regular) (isRegular : regular audit.world.store)
    (worked : audit.work worker = some next) :
    contents next.world.store = contents audit.world.store := by
  cases change_of_work audit next worker worked with
  | read reader stream key => exact (keeps.read _ _ key isRegular).2.1
  | refused reader stream key => exact (keeps.read _ _ key isRegular).2.1
  | broke reader stream key => exact (keeps.read _ _ key isRegular).2.1
  | _ => rfl

/-! ### Both pools of a run -/

/-- What the pools of a run are asked to do when it makes both passes. -/
def Options.linkedPlan (options : Options) (seed : Int) : LinkedPlan where
  bounds := options.bounds
  range := options.range
  multiPut := options.writePlan.multiPut
  seed := seed
  verifyPercent := options.readPlan.verifyPercent
  maxErrors := options.readPlan.maxErrors
  keyWindow := options.readPlan.keyWindow

theorem Options.linkedPlan_reads (seeded : options.seed = .value seed) :
    (options.linkedPlan seed).reads = options.readPlan := by
  unfold LinkedPlan.reads Options.linkedPlan Options.readPlan
  rw [seeded]

/-- The window of a run within the limits is not negative, whether it reads or not. -/
theorem Options.Possible.keyWindow_nonneg (possible : options.Possible) :
    0 ≤ options.readPlan.keyWindow := by
  cases asked : options.read with
  | none =>
    rw [Options.readPlan, asked]
    exact Int.le_refl 0
  | some spec => exact (possible.readPlan spec asked).keyWindow_nonneg

namespace RunLife

/-- What is known of the pools of a run: a started writer has written what it had to, a reader that
was started beside it is sound, and a reader without a writer has found no row. -/
structure Foreseen (contents : Storage → Contents) (regular : Storage → Prop)
    (failing : Int → Int → Bool) (options : Options) (seed : Int) (initial : Contents)
    (life : RunLife Storage) : Prop where
  unwritten : (∀ writer, life.run.writer = some writer → writer.started = false) →
    contents life.run.store = initial
  writing : ∀ writer, life.run.writer = some writer → writer.started = true →
    (life.writing writer).Orderly contents regular failing options.writePlan initial
  linked : ∀ writer reader, life.run.writer = some writer → life.run.reader = some reader →
    reader.started = true → ∃ readers log, 0 < readers ∧
      (⟨life.writing writer, reader, log⟩ : LinkedLife Storage).Sound contents regular
        (options.linkedPlan seed) initial readers
  alone : life.run.writer = none → ∀ reader, life.run.reader = some reader →
    ReaderAudit.Rowless (life.reading reader)

variable {life next : RunLife Storage} {now : Float} {worker : Nat}

theorem foreseen_ready (options : Options) (store : Storage) :
    Foreseen contents regular failing options seed (contents store)
      { run := Run.ready options store } where
  unwritten _ := rfl
  writing writer known started := by
    obtain ⟨_, _, rfl⟩ := Option.map_eq_some_iff.mp known
    cases started
  linked writer reader _ known started := by
    obtain ⟨_, _, rfl⟩ := Option.map_eq_some_iff.mp known
    cases started
  alone _ reader known := by
    obtain ⟨_, _, rfl⟩ := Option.map_eq_some_iff.mp known
    refine ⟨fun entry member => absurd member List.not_mem_nil, fun worker position found => ?_⟩
    cases found

/-- The writer starts on a store that nobody has touched. -/
theorem Foreseen.startsWriter
    (foreseen : Foreseen contents regular failing options seed initial life)
    (underway : Underway (.straight options regular) options life) (writer : Writer)
    (spec : WriteSpec) (atStart : life.run.phase = .startWrite)
    (known : life.run.writer = some writer)
    (threads : 1 ≤ spec.threads ∧ spec.threads ≤ maxThreads) :
    Foreseen contents regular failing options seed initial
      { life with run := life.run.startWriter writer spec now } := by
  have before : life.run.phase.isBeforeWriter = true := by rw [atStart]; rfl
  have untouched : life.ledger = {} := underway.writer.untouched_of_before before
  have same := foreseen.unwritten fun other known =>
    (underway.writer_unstarted before other known).1
  rw [underway.startWriter_eq writer spec atStart known threads]
  refine ⟨fun unstarted => ?_, fun other known _ => ?_, fun _ reader _ known started => ?_, nofun⟩
  · cases unstarted _ rfl
  · cases known
    show WriterLife.Orderly contents regular failing _ initial ⟨_, life.run.store, life.ledger⟩
    rw [untouched, ← same]
    exact WriterLife.orderly_of_starts spec.threads _ life.run.store
      (options.writePlan.starts_idle spec.threads now threads) underway.regular
  · have early := Phase.isBeforeReader_of_isBeforeWriter before
    cases (underway.reader_unstarted early reader known).1.symm.trans started

section Steps

variable [Store Storage] (keeps : KeepsRows Storage contents regular)
  (refuses : Refuses Storage regular failing) (possible : options.Possible)
  (generates : options.Generates) (seeded : options.seed = .value seed) (nonneg : 0 ≤ seed)
  (rowless : ∀ key, initial key = none)
  (underway : Underway (.straight options regular) options life)

include keeps generates underway

include seeded in
/-- The reader starts beside a writer that may have come some way, or without one. -/
theorem Foreseen.startsReader
    (foreseen : Foreseen contents regular failing options seed initial life) (reader : Reader)
    (spec : ReadSpec) (atStart : life.run.phase = .startRead)
    (known : life.run.reader = some reader)
    (threads : 1 ≤ spec.threads ∧ spec.threads ≤ maxThreads)
    (possible : options.readPlan.Possible) :
    Foreseen contents regular failing options seed initial
      { life with run := life.run.startReader reader spec now } := by
  have before : life.run.phase.isBeforeReader = true := by rw [atStart]; rfl
  have untouched : life.account = {} := underway.reader.untouched_of_before before
  have writing := underway.writer
  rw [atStart] at writing
  rw [underway.startReader_eq reader spec atStart known threads]
  have starts : options.readPlan.Starts spec.threads
      (options.readPlan.idle.spawn .seed spec.threads now) :=
    ⟨_, now, options.readPlan.configure_new possible,
      options.readPlan.start_ready spec.threads now threads⟩
  refine ⟨foreseen.unwritten, foreseen.writing, fun writer other written known _ => ?_,
    fun _ other known => ?_⟩
  · cases known
    rw [show life.run.writer = some writer from written] at writing
    have started := started_of_writing (Conduct.straight_kept keeps.unbreakable generates) _
      (writing.goes_of_late rfl nofun)
    have orderly := foreseen.writing writer written started
    exact ⟨spec.threads.toNat, [], by omega, LinkedLife.sound_of_readerStarts spec.threads _
      (Options.linkedPlan_reads seeded ▸ starts) (life.writing writer) orderly.undisturbed
      orderly.counted⟩
  · cases known
    show ReaderAudit.Rowless ⟨_, _, life.account⟩
    rw [untouched]
    exact ReaderAudit.rowless_of_starts spec.threads _ starts _

include possible seeded in
/-- The main thread starts the pools, and otherwise leaves them to themselves. -/
theorem Foreseen.main
    (foreseen : Foreseen contents regular failing options seed initial life) (run : Run Storage)
    (move : life.run.MainMove now run) :
    Foreseen contents regular failing options seed initial { life with run } := by
  cases move with
  | startsWriter writer spec atStart known asked =>
    exact foreseen.startsWriter underway writer spec atStart known
      (possible.write spec (underway.options_eq ▸ asked))
  | startsReader reader spec atStart known asked =>
    have isAsked : options.read = some spec := underway.options_eq ▸ asked
    exact foreseen.startsReader keeps generates seeded underway reader spec atStart known
      (possible.read spec isAsked).threads (possible.readPlan spec isAsked)
  | stops interrupted =>
    have impossible := underway.interrupted (by rw [interrupted]; rfl)
    exact impossible.elim
  | _ => exact ⟨foreseen.unwritten, foreseen.writing, foreseen.linked, foreseen.alone⟩

include refuses nonneg possible rowless in
/-- A step of a worker of the writer is one in its own life, and one that a linked reader sees. -/
theorem Foreseen.writerWorks
    (foreseen : Foreseen contents regular failing options seed initial life) (writer : Writer)
    (after : WriterLife Storage) (known : life.run.writer = some writer)
    (worked : (life.writing writer).work worker = some after) :
    Foreseen contents regular failing options seed initial (life.withWriter after) := by
  have kept := Conduct.straight_kept keeps.unbreakable generates
  have staffed := (WriterLife.stepped_of_work worked).isSome_roster
  have started :=
    started_of_writing kept _ (underway.writer_goes_of_staffed writer known staffed)
  have orderly := (foreseen.writing writer known started).work keeps.toMergesWrites refuses
    generates worker worked
  refine ⟨fun unstarted => ?_, fun other same _ => ?_, fun other reader same read isStarted => ?_,
    nofun⟩
  · obtain ⟨cursor, isCursor, _⟩ := orderly.undisturbed.faithful.accounted.claimed
    have impossible : Pool.started after.writer = false := unstarted after.writer rfl
    rw [Pool.started, isCursor] at impossible
    cases impossible
  · cases same
    exact orderly
  · cases same
    obtain ⟨readers, log, some_worker, sound⟩ := foreseen.linked writer reader known read isStarted
    exact ⟨readers, log, some_worker, sound.step keeps generates nonneg possible.keyWindow_nonneg
      (fun key _ _ => rowless key) (.writer worker)
      (Option.map_eq_some_iff.mpr ⟨after, worked, rfl⟩)⟩

omit keeps generates underway in
/-- A step under audit is a step of a linked reader, whatever its log. -/
theorem exists_linkedStep {writer : Writer} {reader : Reader} {after : ReaderAudit Storage Writer}
    (known : life.run.writer = some writer)
    (worked : (life.reading reader).work worker = some after) (log : List ReadNote) :
    ∃ later, LinkedLife.step ⟨life.writing writer, reader, log⟩ (.reader worker) =
      some ⟨(life.withReader after).writing writer, after.reader, later⟩ := by
  have source : after.world.source = life.run.writer := ReaderAudit.source_of_work worked
  obtain ⟨⟨pool, world, notices⟩, stepped, rfl⟩ := Option.map_eq_some_iff.mp worked
  dsimp only at source
  have went : reader.step (⟨life.run.store, some writer⟩ : ReaderWorld Storage Writer) worker =
      some (pool, world, notices) := by
    rw [← known]
    exact stepped
  let linked : LinkedLife Storage := ⟨life.writing writer, reader, log⟩
  have seen : linked.readerLife.work worker =
      some ⟨pool, world, linked.readerLife.noted worker⟩ :=
    Option.map_eq_some_iff.mpr ⟨_, went, rfl⟩
  refine ⟨linked.readerLife.noted worker, ?_⟩
  show (linked.readerLife.work worker).map _ = _
  rw [seen, Option.map_some]
  dsimp only
  rw [source, known]
  rfl

include nonneg possible rowless in
/-- A step of a worker of the reader leaves the content of the store as it is. -/
theorem Foreseen.readerWorks
    (foreseen : Foreseen contents regular failing options seed initial life) (reader : Reader)
    (after : ReaderAudit Storage Writer) (known : life.run.reader = some reader)
    (worked : (life.reading reader).work worker = some after)
    (later : Underway (.straight options regular) options (life.withReader after)) :
    Foreseen contents regular failing options seed initial (life.withReader after) := by
  have isRegular : regular (life.reading reader).world.store := underway.regular
  have same : contents after.world.store = contents life.run.store :=
    ReaderAudit.contents_of_work keeps isRegular worked
  have staffed := (ReaderAudit.stepped_of_work worked).isSome_roster
  refine ⟨fun unstarted => same.trans (foreseen.unwritten unstarted), fun writer written started =>
    (foreseen.writing writer written started).outside _ later.regular same,
    fun writer other written read _ => ?_, fun unasked other read => ?_⟩
  · cases read
    have started : reader.started = true :=
      started_of_reading (Conduct.straight_kept keeps.unbreakable generates) _
        (underway.reader_goes_of_staffed reader known staffed)
    have knownWriter : life.run.writer = some writer := written
    obtain ⟨readers, log, some_worker, sound⟩ :=
      foreseen.linked writer reader knownWriter known started
    obtain ⟨laterLog, stepped⟩ := exists_linkedStep knownWriter worked log
    exact ⟨readers, laterLog, some_worker, sound.step keeps generates nonneg
      possible.keyWindow_nonneg (fun key _ _ => rowless key) (.reader worker) stepped⟩
  · cases read
    have none : ∀ caller key row,
        (Store.read (life.reading reader).world.store caller key).1 = .done row → row = none := by
      intro caller key row done
      obtain ⟨_, _, other, isDone, content⟩ := keeps.read _ caller key underway.regular
      cases done.symm.trans isDone
      have empty : contents life.run.store = initial :=
        foreseen.unwritten fun writer written => by cases unasked.symm.trans written
      rw [show contents _ key = none from (congrFun empty key).trans (rowless key),
        Option.map_eq_none_iff] at content
      exact content
    have kept := (foreseen.alone unasked reader known).work none worked
    have source : after.world.source = life.run.writer := ReaderAudit.source_of_work worked
    exact ⟨kept.fates, kept.empty⟩

include refuses possible seeded nonneg rowless in
/-- Every step without an interrupt keeps what is known of the pools. -/
theorem Foreseen.step
    (foreseen : Foreseen contents regular failing options seed initial life) (event : RunEvent)
    (uninterrupted : event.1 ≠ .interrupt) (stepped : life.step event = some next) :
    Foreseen contents regular failing options seed initial next := by
  have kept := Conduct.straight_kept keeps.unbreakable generates
  have later := underway.step kept possible event (fun same => absurd same uninterrupted) stepped
  obtain ⟨actor, now⟩ := event
  cases actor with
  | main =>
    obtain ⟨run, move, rfl⟩ := step_main stepped
    exact foreseen.main keeps possible generates seeded underway run move
  | writer worker =>
    obtain ⟨writer, after, known, worked, rfl⟩ := step_writer stepped
    exact foreseen.writerWorks keeps refuses possible generates nonneg rowless underway writer after
      known worked
  | reader worker =>
    obtain ⟨reader, after, known, worked, rfl⟩ := step_reader stepped
    exact foreseen.readerWorks keeps possible generates nonneg rowless underway reader after known
      worked later
  | interrupt => exact absurd rfl uninterrupted

omit underway in
include refuses possible seeded nonneg rowless in
/-- In every schedule without an interrupt the pools of a run are known in this way. -/
theorem foreseen_of_replay (store : Storage) (isRegular : regular store)
    (empty : contents store = initial) (schedule : List RunEvent)
    (uninterrupted : ∀ event ∈ schedule, event.1 ≠ .interrupt)
    (ran : replay RunLife.step { run := Run.ready options store } schedule = some life) :
    Underway (.straight options regular) options life ∧
      Foreseen contents regular failing options seed initial life := by
  have kept := Conduct.straight_kept keeps.unbreakable generates
  subst empty
  exact replay_invariant_of_allowed (fun event => event.1 ≠ .interrupt)
    (fun life => Underway (.straight options regular) options life ∧
      Foreseen contents regular failing options seed (contents store) life)
    (fun _ event _ allowed holds stepped =>
      ⟨holds.1.step kept possible event (fun same => absurd same allowed) stepped,
        holds.2.step keeps refuses possible generates seeded nonneg rowless holds.1 event allowed
          stepped⟩)
    _ life schedule uninterrupted ⟨underway_ready _ store isRegular, foreseen_ready options store⟩
    ran

end Steps

/-! ### The results -/

/-- A read pass that was not asked for has no result. -/
theorem Underway.read_eq_none {conduct : Conduct Storage} (underway : Underway conduct options life)
    {report : Report} (reported : life.run.phase = .reported report)
    (unasked : options.read = none) :
    report.read = none := by
  have standing := underway.reader
  rw [underway.reported report reported]
  rw [reported] at standing
  rcases standing.skipped_or_taken rfl rfl with ⟨none, _, _⟩ | ⟨_, _, asked, _⟩
  · exact none
  · have isAsked : options.read.isSome := Option.isSome_map.symm.trans asked
    rw [unasked] at isAsked
    cases isAsked

section Reported

variable [Store Storage] (keeps : KeepsRows Storage contents regular)
  (generates : options.Generates)
  (underway : Underway (.straight options regular) options life)
  (foreseen : Foreseen contents regular failing options seed initial life) {report : Report}
  (reported : life.run.phase = .reported report)

include keeps generates underway reported

/-- The writer of a run that has reported is finished, and its result was reported. -/
theorem Underway.exists_writer (asked : options.write.isSome) :
    ∃ writer, life.run.writer = some writer ∧ writer.started = true ∧
      Pool.finished writer = true ∧ report.write = some writer.result := by
  have standing := underway.writer
  rw [reported] at standing
  rcases standing.skipped_or_taken rfl rfl with ⟨_, unasked, _⟩ |
    ⟨writer, known, _, goes, finished, _, result⟩
  · exact (unasked (Option.isSome_map.trans asked)).elim
  · rw [underway.reported report reported]
    exact ⟨writer, known,
      started_of_writing (Conduct.straight_kept keeps.unbreakable generates) _ goes, finished,
      result⟩

/-- The reader of a run that has reported is finished, and its result was reported. -/
theorem Underway.exists_reader (asked : options.read.isSome) :
    ∃ reader, life.run.reader = some reader ∧ reader.started = true ∧
      Pool.finished reader = true ∧ report.read = some reader.result := by
  have standing := underway.reader
  rw [reported] at standing
  rcases standing.skipped_or_taken rfl rfl with ⟨_, unasked, _⟩ |
    ⟨reader, known, _, goes, finished, _, result⟩
  · exact (unasked (Option.isSome_map.trans asked)).elim
  · rw [underway.reported report reported]
    exact ⟨reader, known,
      started_of_reading (Conduct.straight_kept keeps.unbreakable generates) _ goes.1, finished,
      result⟩

include foreseen

/-- The result of the write pass is the one given by the cells that are refused. -/
theorem Foreseen.write_eq (asked : options.write.isSome) :
    report.write = some (options.writePlan.result failing) := by
  obtain ⟨writer, known, started, finished, result⟩ :=
    underway.exists_writer keeps generates reported asked
  have orderly := foreseen.writing writer known started
  exact result.trans (congrArg some (orderly.result_eq finished generates))

/-- The read pass beside a write pass has read the keys up to the watermark of its result, and
counted the others as unreachable. It has met no error. -/
theorem Foreseen.read_eq (writes : options.write.isSome) (reads : options.read.isSome) :
    ∃ verified : Nat, report.read = some {
      status := .completed
      keysRead := (options.writePlan.result failing).watermark - options.range.start + 1
      verified
      errors := 0
      unreachable := options.range.limit - 1 - (options.writePlan.result failing).watermark
      errorKeys := [] } := by
  obtain ⟨writer, written, writerStarted, writerFinished, _⟩ :=
    underway.exists_writer keeps generates reported writes
  obtain ⟨reader, known, started, finished, result⟩ :=
    underway.exists_reader keeps generates reported reads
  obtain ⟨readers, log, some_worker, sound⟩ :=
    foreseen.linked writer reader written known started
  have orderly := foreseen.writing writer written writerStarted
  have mark : writer.watermark = (options.writePlan.result failing).watermark :=
    orderly.watermark_eq writerFinished generates
  have ended := sound.result_eq some_worker finished
  rw [show (life.writing writer).writer.watermark = _ from mark] at ended
  exact ⟨_, result.trans (congrArg some ended)⟩

/-- A read pass without a write pass is not good, if there is a key to read. -/
theorem Foreseen.read_not_ok (possible : options.Possible) (unwritten : options.write = none)
    (reads : options.read.isSome) (some_key : options.range.start < options.range.limit) :
    report.read.all ReadResult.ok = false := by
  obtain ⟨reader, known, _⟩ := underway.exists_reader keeps generates reported reads
  have alone : life.run.writer = none := underway.writer.eq_none_of_unasked (by
    show Option.map _ options.write = _
    rw [unwritten]
    rfl)
  rw [Bool.eq_false_iff]
  intro ok
  exact (foreseen.alone alone reader known).not_flawless options.range some_key
    ((underway.read_ok_iff reported possible).mp ok reads)

end Reported

end RunLife

end LoadVerifier
