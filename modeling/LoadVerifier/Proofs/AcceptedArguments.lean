/-
This file says what the command line lets pass, and what that means for the workers. Whatever
arguments are accepted, the number of workers, the share of keys to verify, the limit of errors and
the window are within their limits, and the bounds are narrow enough that every key has a record. So
on a store that breaks no call no worker of the writer can crash.

One value is not checked: the seed. A worker of the reader adds its number to the seed, and when the
sum is negative, or the seed is blank, it gets no stream to draw from and crashes. Nothing else can
crash a worker, and where nothing can, the run can always come to its report.
-/
import LoadVerifier.CommandLine.Arguments
import LoadVerifier.Proofs.Draws
import LoadVerifier.Proofs.SmoothRun

namespace LoadVerifier

open LoadVerifier.Random
open Pool (Spoiled)

/-! ### What the checks let pass -/

section Results

variable {Problem Other Value Next : Type}

theorem bind_eq_ok {result : Except Problem Value} {next : Value → Except Problem Next}
    {final : Next} : result >>= next = .ok final ↔
      ∃ value, result = .ok value ∧ next value = .ok final := by
  cases result with
  | error problem => exact ⟨nofun, fun ⟨_, impossible, _⟩ => nomatch impossible⟩
  | ok value =>
    exact ⟨fun went => ⟨value, rfl, went⟩, fun ⟨_, same, went⟩ => Except.ok.inj same ▸ went⟩

theorem mapError_eq_ok {result : Except Problem Value} {rename : Problem → Other} {value : Value} :
    result.mapError rename = .ok value ↔ result = .ok value := by
  cases result with
  | error problem => exact ⟨nofun, nofun⟩
  | ok other => exact ⟨fun same => congrArg _ (Except.ok.inj same), fun same => same ▸ rfl⟩

/-- What is read from something that may be missing is missing with it, or was read from it. -/
theorem mapM_eq_ok {given : Option Value} {reader : Value → Except Problem Next}
    {found : Option Next} (read : given.mapM reader = .ok found) (next : Next)
    (known : found = some next) : ∃ value, given = some value ∧ reader value = .ok next := by
  subst known
  cases given with
  | none => cases read
  | some value =>
    refine ⟨value, rfl, ?_⟩
    cases result : reader value with
    | error problem =>
      rw [Option.mapM_some, result] at read
      cases read
    | ok other =>
      rw [Option.mapM_some, result] at read
      cases read
      rfl

theorem eq_ok_of_toOption {result : Except Problem Value} {value : Value}
    (known : result.toOption = some value) : result = .ok value := by
  cases result with
  | error problem => cases known
  | ok other => exact congrArg Except.ok (Option.some.inj known)

end Results

theorem parseInteger_eq_ok (text : String) (low high value : Int) (what : String)
    (parsed : parseInteger text low high what = .ok value) : low ≤ value ∧ value ≤ high := by
  unfold parseInteger at parsed
  split at parsed
  · cases parsed
  · split at parsed
    · rename_i within
      cases parsed
      exact within
    · cases parsed

theorem parseOptionalThreads_eq_ok (fields : List String) (threads : Int)
    (parsed : parseOptionalThreads fields = .ok threads) : 1 ≤ threads ∧ threads ≤ maxThreads := by
  cases fields with
  | nil =>
    cases parsed
    decide
  | cons text rest => exact parseInteger_eq_ok text 1 maxThreads threads _ parsed

/-- Bounds around averages that a spec may give are narrow enough to draw from. -/
theorem drawable_of_ofAverages (averageColumns averageSize : Int) (bounds : Bounds)
    (columns : averageColumns ≤ maxAverage) (size : averageSize ≤ maxAverage)
    (made : Bounds.ofAverages averageColumns averageSize = .ok bounds) : bounds.Drawable := by
  unfold Bounds.ofAverages at made
  split at made
  · cases made
  split at made
  · cases made
  obtain ⟨_, maxColumns, _, maxSize⟩ := Bounds.make_eq_ok made
  unfold Bounds.Drawable maxDraw
  unfold maxAverage at columns size
  omega

theorem drawable_of_parseAverages (columns size : String) (bounds : Bounds)
    (parsed : parseAverages columns size = .ok bounds) : bounds.Drawable := by
  obtain ⟨averageColumns, isColumns, parsed⟩ := bind_eq_ok.mp parsed
  obtain ⟨averageSize, isSize, made⟩ := bind_eq_ok.mp parsed
  exact drawable_of_ofAverages averageColumns averageSize bounds
    (parseInteger_eq_ok _ _ _ _ _ isColumns).2 (parseInteger_eq_ok _ _ _ _ _ isSize).2 made

theorem drawable_of_parseDataSpec (value : String) (bounds : Bounds)
    (parsed : parseDataSpec value = .ok bounds) : bounds.Drawable := by
  obtain ⟨fields, _, parsed⟩ := bind_eq_ok.mp parsed
  split at parsed
  · exact drawable_of_parseAverages _ _ bounds parsed
  · cases parsed

theorem parseWriteSpec_eq_ok (value : String) (multiPut : Bool) (spec : WriteSpec)
    (parsed : parseWriteSpec value multiPut = .ok spec) :
    spec.bounds.Drawable ∧ 1 ≤ spec.threads ∧ spec.threads ≤ maxThreads := by
  obtain ⟨fields, _, parsed⟩ := bind_eq_ok.mp parsed
  split at parsed
  · obtain ⟨bounds, isBounds, parsed⟩ := bind_eq_ok.mp parsed
    obtain ⟨threads, isThreads, parsed⟩ := bind_eq_ok.mp parsed
    cases parsed
    exact ⟨drawable_of_parseAverages _ _ bounds isBounds, parseOptionalThreads_eq_ok _ _ isThreads⟩
  · cases parsed

theorem parseReadFields_eq_ok (value : String) (verifyPercent threads : Int)
    (parsed : parseReadFields value = .ok (verifyPercent, threads)) :
    (0 ≤ verifyPercent ∧ verifyPercent ≤ 100) ∧ 1 ≤ threads ∧ threads ≤ maxThreads := by
  obtain ⟨fields, _, parsed⟩ := bind_eq_ok.mp parsed
  split at parsed
  · obtain ⟨percent, isPercent, parsed⟩ := bind_eq_ok.mp parsed
    obtain ⟨workers, isThreads, parsed⟩ := bind_eq_ok.mp parsed
    cases parsed
    exact ⟨parseInteger_eq_ok _ _ _ _ _ isPercent, parseOptionalThreads_eq_ok _ _ isThreads⟩
  · cases parsed

theorem checkMaxErrors_eq_ok (limit maxErrors : Int)
    (checked : checkMaxErrors limit = .ok maxErrors) : 0 ≤ maxErrors := by
  unfold checkMaxErrors at checked
  split at checked
  · cases checked
  · rename_i nonneg
    cases checked
    exact not_lt.mp nonneg

theorem checkKeyWindow_eq_ok (window keyWindow : Int)
    (checked : checkKeyWindow window = .ok keyWindow) : 0 ≤ keyWindow := by
  unfold checkKeyWindow at checked
  split at checked
  · cases checked
  · rename_i nonneg
    cases checked
    exact not_lt.mp nonneg

theorem resolveBounds_eq_ok (write : Option WriteSpec) (data : Option Bounds) (bounds : Bounds)
    (resolved : resolveBounds write data = .ok bounds) :
    (∃ spec, write = some spec ∧ bounds = spec.bounds) ∨ data = some bounds := by
  unfold resolveBounds at resolved
  split at resolved
  · split at resolved
    · cases resolved
      exact Or.inl ⟨_, rfl, rfl⟩
    · cases resolved
  · cases resolved
    exact Or.inl ⟨_, rfl, rfl⟩
  · cases resolved
    exact Or.inr rfl
  · cases resolved

namespace Arguments

theorem readPassOf_eq_ok (arguments : Arguments) (value : String) (spec : ReadSpec)
    (accepted : arguments.readPassOf value = .ok spec) : spec.Possible := by
  obtain ⟨⟨verifyPercent, threads⟩, isFields, accepted⟩ := bind_eq_ok.mp accepted
  obtain ⟨limit, _, accepted⟩ := bind_eq_ok.mp accepted
  obtain ⟨maxErrors, isLimit, accepted⟩ := bind_eq_ok.mp accepted
  obtain ⟨window, _, accepted⟩ := bind_eq_ok.mp accepted
  obtain ⟨keyWindow, isWindow, accepted⟩ := bind_eq_ok.mp accepted
  cases accepted
  obtain ⟨percentOk, threadsOk⟩ := parseReadFields_eq_ok value _ _ (mapError_eq_ok.mp isFields)
  exact ⟨percentOk, threadsOk, checkMaxErrors_eq_ok _ _ (mapError_eq_ok.mp isLimit),
    checkKeyWindow_eq_ok _ _ (mapError_eq_ok.mp isWindow)⟩

/-- Arguments that are accepted ask for passes within the limits, and for bounds that are narrow
enough to draw from. The seed is passed on as it was given. -/
theorem runOptions_eq_ok (arguments : Arguments) (options : Options)
    (accepted : arguments.runOptions = .ok options) :
    options.Possible ∧ options.bounds.Drawable ∧ options.seed = arguments.seed := by
  obtain ⟨range, _, accepted⟩ := bind_eq_ok.mp accepted
  obtain ⟨write, isWrite, accepted⟩ := bind_eq_ok.mp accepted
  obtain ⟨read, isRead, accepted⟩ := bind_eq_ok.mp accepted
  obtain ⟨data, isData, accepted⟩ := bind_eq_ok.mp accepted
  have writes : ∀ spec, write = some spec →
      spec.bounds.Drawable ∧ 1 ≤ spec.threads ∧ spec.threads ≤ maxThreads := by
    intro spec asked
    obtain ⟨value, _, parsed⟩ := mapM_eq_ok isWrite spec asked
    exact parseWriteSpec_eq_ok value _ spec (mapError_eq_ok.mp parsed)
  have reads : ∀ spec, read = some spec → spec.Possible := by
    intro spec asked
    obtain ⟨value, _, parsed⟩ := mapM_eq_ok isRead spec asked
    exact arguments.readPassOf_eq_ok value spec parsed
  split at accepted
  · obtain ⟨bounds, isBounds, accepted⟩ := bind_eq_ok.mp accepted
    cases accepted
    refine ⟨⟨fun spec asked => (writes spec asked).2, reads⟩, ?_, rfl⟩
    rcases resolveBounds_eq_ok write data bounds (mapError_eq_ok.mp isBounds) with
      ⟨spec, asked, rfl⟩ | given
    · exact (writes spec asked).1
    · obtain ⟨value, _, parsed⟩ := mapM_eq_ok isData bounds given
      exact drawable_of_parseDataSpec value bounds (mapError_eq_ok.mp parsed)
  · cases accepted

end Arguments

/-! ### What may crash a worker -/

/-- A worker of a reader has no stream when the seed is blank, or when it is so far below zero that
the number of the worker does not make up for it. -/
theorem Reader.streamOf_eq_error_iff (seed : Given Int) (worker : Int) (crash : Crash) :
    streamOf seed worker = .error crash ↔
      (seed = .blank ∧ crash = .blank .seed) ∨
        ∃ base, seed = .value base ∧ base + worker < 0 ∧ crash = .generation .negativeSeed := by
  cases seed with
  | blank =>
    have blank : streamOf .blank worker = .error (.blank .seed) := rfl
    rw [blank]
    constructor
    · intro same
      exact Or.inl ⟨rfl, (Except.error.inj same).symm⟩
    · rintro (⟨_, rfl⟩ | ⟨_, impossible, _⟩)
      · rfl
      · cases impossible
  | value base =>
    by_cases negative : base + worker < 0
    · have failed : streamOf (.value base) worker = .error (.generation .negativeSeed) := by
        have unseeded : Stream.seeded? [base + worker] = none := by
          rw [Stream.seeded?, entropyOf, if_pos negative]
          rfl
        simp only [streamOf, Given.need, bind, Except.bind, unseeded]
      rw [failed]
      constructor
      · intro same
        exact Or.inr ⟨base, rfl, negative, (Except.error.inj same).symm⟩
      · rintro (⟨impossible, _⟩ | ⟨_, _, _, rfl⟩)
        · cases impossible
        · rfl
    · obtain ⟨stream, seeded⟩ := seeded?_isSome [base + worker] (by simpa using negative)
      have drawn : streamOf (.value base) worker = .ok stream := by
        simp only [streamOf, Given.need, bind, Except.bind, seeded]
        rfl
      rw [drawn]
      constructor
      · intro impossible
        cases impossible
      · rintro (⟨impossible, _⟩ | ⟨_, same, less, _⟩)
        · cases impossible
        · cases same
          exact absurd less negative

section Runs

variable {Storage : Type} {regular : Storage → Prop} {options : Options} {life : RunLife Storage}

/-- Narrow bounds give every key of the range a record. -/
theorem Options.generates_of_drawable (drawable : options.bounds.Drawable) : options.Generates :=
  fun key low _ =>
    generate_of_drawable key options.bounds (options.range.start_nonneg.trans low) drawable

namespace RunLife

/-- A worker of the reader has crashed only when it has no stream. -/
theorem Underway.reader_crash_eq (underway : Underway (.smooth options regular) options life)
    (reader : Reader) (known : life.run.reader = some reader) (worker : Nat)
    (position : Position ReaderTask) (crash : Crash)
    (found : reader.position? worker = some position)
    (crashed : Pool.crash? position = some crash) :
    Reader.streamOf options.seed worker = .error crash := by
  rcases underway.reader_unstaffed_or_goes reader known with unstaffed | smooth
  · rw [Pool.position?, unstaffed] at found
    cases found
  · exact smooth.crash_eq worker position crash found crashed

/-- Without a read pass, or with a seed that is not negative, no worker has crashed. -/
theorem Underway.uncrashed_of_seed (underway : Underway (.smooth options regular) options life)
    (harmless : options.read = none ∨ ∃ seed, options.seed = .value seed ∧ 0 ≤ seed) :
    life.Uncrashed := by
  refine ⟨underway.writer_uncrashed fun _ smooth => smooth.unspoiled, ?_⟩
  rcases harmless with unasked | ⟨seed, seeded, nonneg⟩
  · intro reader known
    have none := underway.reader.eq_none_of_unasked (by
      show Option.map _ options.read = _
      rw [unasked]
      rfl)
    cases known.symm.trans none
  · exact underway.reader_uncrashed fun _ smooth => smooth.unspoiled seed seeded nonneg

end RunLife

/-- Only the seed of accepted arguments can crash a worker. A run that the command line accepts, on
a store that breaks no call, can be prepared. In every schedule, with or without an interrupt, no
worker of the writer crashes, and a worker of the reader crashes only when the seed is blank, or so
far below zero that the number of the worker does not make up for it. Without a read pass, or with a
seed that is not negative, no worker crashes at all, the run does not fail, and it can always come
to its report. -/
theorem accepted_run_crashes_only_for_seed [Store Storage]
    (unbreakable : Unbreakable Storage regular) (arguments : Arguments) (options : Options)
    (accepted : arguments.runOptions = .ok options) (store : Storage) (isRegular : regular store) :
    ∃ run lines, Run.prepare options store = .ok (run, lines) ∧
      ∀ schedule life, replay RunLife.step { run } schedule = some life →
        (∀ writer, life.run.writer = some writer → ¬Spoiled writer) ∧
        (∀ reader, life.run.reader = some reader → ∀ worker position crash,
          reader.position? worker = some position → Pool.crash? position = some crash →
            (arguments.seed = .blank ∧ crash = .blank .seed) ∨
              ∃ seed, arguments.seed = .value seed ∧ seed + worker < 0 ∧
                crash = .generation .negativeSeed) ∧
        ((options.read = none ∨ ∃ seed, arguments.seed = .value seed ∧ 0 ≤ seed) →
          life.Uncrashed ∧ (∀ failure, life.run.phase ≠ .raised failure) ∧
            ∃ rest final report, (∀ event ∈ rest, event.1 ≠ .interrupt) ∧
              replay RunLife.step life rest = some final ∧
                final.run.phase = .reported report) := by
  obtain ⟨possible, drawable, seed_eq⟩ := arguments.runOptions_eq_ok options accepted
  obtain ⟨lines, prepared⟩ := Run.prepare_eq_ok options possible store
  refine ⟨Run.ready options store, lines, prepared, fun schedule life ran => ?_⟩
  have kept := Conduct.smooth_kept unbreakable (Options.generates_of_drawable drawable)
  have underway : RunLife.Underway (.smooth options regular) options life :=
    (RunLife.underway_ready _ store isRegular).of_replay kept possible schedule
      (fun _ _ _ => trivial) ran
  rw [← seed_eq]
  refine ⟨underway.writer_uncrashed fun _ smooth => smooth.unspoiled,
    fun reader known worker position crash found crashed => ?_, fun harmless => ?_⟩
  · exact (Reader.streamOf_eq_error_iff options.seed worker crash).mp
      (underway.reader_crash_eq reader known worker position crash found crashed)
  · have uncrashed : ∀ life, RunLife.Underway (.smooth options regular) options life →
        life.Uncrashed := fun life underway => underway.uncrashed_of_seed harmless
    exact ⟨uncrashed life underway, underway.not_raised (uncrashed life underway),
      underway.exists_report kept possible uncrashed⟩

/-- A dry run that writes ten keys and reads all of them. -/
def dryRun : Arguments where
  startKey := .value 0
  numKeys := .value 10
  memory := true
  write := some (.value "2:9:2")
  read := some (.value "100:2")
  seed := .value 7

theorem accepted_run_crashes_only_for_seed_of_dry_run :
    ∃ options run lines, dryRun.runOptions = .ok options ∧
      Run.prepare options ({} : MemoryStore) = .ok (run, lines) ∧
        ∃ schedule life report, replay RunLife.step { run } schedule = some life ∧
          life.run.phase = .reported report := by
  have isAccepted : dryRun.runOptions.toOption.isSome = true := by decide +kernel
  obtain ⟨options, known⟩ := Option.isSome_iff_exists.mp isAccepted
  have accepted := eq_ok_of_toOption known
  obtain ⟨run, lines, prepared, goesOn⟩ := accepted_run_crashes_only_for_seed
    memoryStore_unbreakable dryRun options accepted {} trivial
  obtain ⟨_, _, rest, final, report, _, ran, reported⟩ :=
    (goesOn [] _ rfl).2.2 (Or.inr ⟨7, rfl, by decide⟩)
  exact ⟨options, run, lines, accepted, prepared, rest, final, report, ran, reported⟩

/-- A dry run that reads ten keys, with a seed below zero. -/
def negativeSeed : Arguments where
  startKey := .value 0
  numKeys := .value 10
  memory := true
  data := some (.value "2:9")
  read := some (.value "0:1")
  seed := .value (-1)

/-- The main thread starts the reader and waits for it, and the only worker takes its steps. -/
def readerAlone : List RunEvent :=
  [Actor.main, Actor.main, Actor.main, Actor.main, Actor.reader 0, Actor.reader 0, Actor.reader 0,
    Actor.main].map fun actor => (actor, 0.0)

/-- The crash that has ended a run. -/
def RunLife.crash? (life : RunLife Storage) : Option Crash :=
  match life.run.phase with
  | .raised (.crash crash) => some crash
  | _ => none

/-- The crash of a worker of the reader. -/
def RunLife.readerCrash? (life : RunLife Storage) (worker : Nat) : Option Crash :=
  life.run.reader.bind fun reader => (reader.position? worker).bind Pool.crash?

/-- A seed below zero is accepted. The only worker of the reader crashes on it, on a store that
breaks no call, and with it the run. -/
theorem negative_seed_crashes_accepted_run :
    ∃ options run lines life, negativeSeed.runOptions = .ok options ∧
      Run.prepare options ({} : MemoryStore) = .ok (run, lines) ∧
        replay RunLife.step { run } readerAlone = some life ∧
          life.readerCrash? 0 = some (.generation .negativeSeed) ∧
            life.crash? = some (.generation .negativeSeed) := by
  have crashed : (negativeSeed.runOptions.toOption.bind fun options =>
      (Run.prepare options ({} : MemoryStore)).toOption.bind fun prepared =>
        (replay RunLife.step { run := prepared.1 } readerAlone).map fun life =>
          (life.readerCrash? 0, life.crash?)) =
        some (some (.generation .negativeSeed), some (.generation .negativeSeed)) := by
    decide +kernel
  obtain ⟨options, accepted, crashed⟩ := Option.bind_eq_some_iff.mp crashed
  obtain ⟨⟨run, lines⟩, prepared, crashed⟩ := Option.bind_eq_some_iff.mp crashed
  obtain ⟨life, ran, crashes⟩ := Option.map_eq_some_iff.mp crashed
  obtain ⟨worker, ended⟩ := Prod.mk.inj crashes
  exact ⟨options, run, lines, life, eq_ok_of_toOption accepted, eq_ok_of_toOption prepared, ran,
    worker, ended⟩

end Runs

end LoadVerifier
