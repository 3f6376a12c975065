/-
This file says that the command line and the engines agree on what is valid. The same limits are
looked at twice: once when the arguments are checked, and once more when the pools are configured,
linked and started. Whatever the first look lets pass, the second one lets pass too.

The other way round, arguments that no run can be made of are refused. A refusal names its reason,
but for one gap: a blank in the place of a number passes the parser, and the first check that looks
at it ends the program. So a blank can hide a negative number behind it.
-/
import LoadVerifier.Proofs.AcceptedArguments
import LoadVerifier.Proofs.RunOnAnyStore

namespace LoadVerifier

/-! ### What the checks look at -/

/-- A range holds the numbers it was made from. -/
theorem KeyRange.make_eq_ok {start limit : Int} {range : KeyRange}
    (made : KeyRange.make start limit = .ok range) : range.start = start ∧ range.limit = limit := by
  unfold KeyRange.make at made
  split at made
  · cases made
  split at made
  · cases made
  split at made
  · cases made
  cases made
  exact ⟨rfl, rfl⟩

/-- What is read from something that may be missing is there exactly when that is. -/
theorem isSome_of_mapM_eq_ok {Problem Value Next : Type} {given : Option Value}
    {reader : Value → Except Problem Next} {found : Option Next}
    (read : given.mapM reader = .ok found) : found.isSome = given.isSome := by
  cases given with
  | none =>
    cases read
    rfl
  | some value =>
    rw [Option.mapM_some] at read
    cases result : reader value with
    | error problem =>
      rw [result] at read
      cases read
    | ok next =>
      rw [result] at read
      cases read
      rfl

namespace Arguments

variable {arguments : Arguments} {options : Options}

/-- The range of accepted arguments has both of its numbers, and as many keys as they ask for. -/
theorem range_eq_ok {range : KeyRange} (accepted : arguments.range = .ok range) :
    ∃ startKey numKeys, arguments.startKey = .value startKey ∧ arguments.numKeys = .value numKeys ∧
      KeyRange.ofCount startKey numKeys = .ok range ∧ 1 ≤ numKeys ∧
        range.start = startKey ∧ range.limit = startKey + numKeys := by
  obtain ⟨startKey, isStart, accepted⟩ := bind_eq_ok.mp accepted
  split at accepted
  · cases accepted
  obtain ⟨numKeys, isCount, accepted⟩ := bind_eq_ok.mp accepted
  dsimp only at accepted
  split at accepted
  · rename_i counted
    have made := mapError_eq_ok.mp accepted
    obtain ⟨start, limit⟩ := KeyRange.make_eq_ok made
    exact ⟨startKey, numKeys, (Given.need_eq_ok_iff _ _ _).mp isStart,
      (Given.need_eq_ok_iff _ _ _).mp isCount, made, counted.1, start, limit⟩
  · cases accepted

/-- What accepted arguments grant: the range, the passes and the bounds that they ask for. -/
structure Grants (arguments : Arguments) (options : Options) : Prop where
  range : arguments.range = .ok options.range
  write : arguments.writePass = .ok options.write
  read : arguments.readPass = .ok options.read
  bounds : ∃ data, arguments.dataBounds = .ok data ∧
    resolveBounds options.write data = .ok options.bounds

theorem grants_of_accepted (accepted : arguments.runOptions = .ok options) :
    arguments.Grants options := by
  obtain ⟨range, isRange, accepted⟩ := bind_eq_ok.mp accepted
  obtain ⟨write, isWrite, accepted⟩ := bind_eq_ok.mp accepted
  obtain ⟨read, isRead, accepted⟩ := bind_eq_ok.mp accepted
  obtain ⟨data, isData, accepted⟩ := bind_eq_ok.mp accepted
  split at accepted
  · obtain ⟨bounds, isBounds, accepted⟩ := bind_eq_ok.mp accepted
    cases accepted
    exact ⟨isRange, isWrite, isRead, data, isData, mapError_eq_ok.mp isBounds⟩
  · cases accepted

end Arguments

/-- A read pass is granted only with both of its limits given, and neither of them negative. -/
theorem Arguments.limits_of_readPassOf {arguments : Arguments} {text : String} {spec : ReadSpec}
    (granted : arguments.readPassOf text = .ok spec) :
    (∃ limit, arguments.maxReadErrors = .value limit ∧ 0 ≤ limit) ∧
      ∃ window, arguments.keyWindow = .value window ∧ 0 ≤ window := by
  obtain ⟨fields, _, granted⟩ := bind_eq_ok.mp granted
  obtain ⟨limit, isLimit, granted⟩ := bind_eq_ok.mp granted
  obtain ⟨maxErrors, limitOk, granted⟩ := bind_eq_ok.mp granted
  obtain ⟨window, isWindow, granted⟩ := bind_eq_ok.mp granted
  obtain ⟨keyWindow, windowOk, _⟩ := bind_eq_ok.mp granted
  refine ⟨⟨limit, (Given.need_eq_ok_iff _ _ _).mp isLimit, ?_⟩,
    window, (Given.need_eq_ok_iff _ _ _).mp isWindow, ?_⟩
  · have checked := mapError_eq_ok.mp limitOk
    unfold checkMaxErrors at checked
    split at checked
    · cases checked
    · exact Int.not_lt.mp ‹_›
  · have checked := mapError_eq_ok.mp windowOk
    unfold checkKeyWindow at checked
    split at checked
    · cases checked
    · exact Int.not_lt.mp ‹_›

/-! ### How a check fails -/

section FailsOnly

variable {Problem Value Next : Type} {may : Problem → Prop}

/-- A result that fails only in certain ways, if it fails. -/
def FailsOnly (may : Problem → Prop) (result : Except Problem Value) : Prop :=
  ∀ problem, result = .error problem → may problem

theorem failsOnly_ok (value : Value) : FailsOnly may (.ok value) := nofun

theorem failsOnly_error {problem : Problem} (allowed : may problem) :
    FailsOnly may (.error problem : Except Problem Value) :=
  fun _ same => Except.error.inj same ▸ allowed

theorem FailsOnly.bind {result : Except Problem Value} {next : Value → Except Problem Next}
    (first : FailsOnly may result)
    (second : ∀ value, result = .ok value → FailsOnly may (next value)) :
    FailsOnly may (result >>= next) := by
  cases result with
  | error problem => exact failsOnly_error (first problem rfl)
  | ok value => exact second value rfl

theorem FailsOnly.mapError {Other : Type} {mayOther : Other → Prop}
    {result : Except Problem Value} {rename : Problem → Other} (fails : FailsOnly may result)
    (renames : ∀ problem, may problem → mayOther (rename problem)) :
    FailsOnly mayOther (result.mapError rename) := by
  cases result with
  | error problem => exact failsOnly_error (renames problem (fails problem rfl))
  | ok value => exact failsOnly_ok value

theorem failsOnly_mapM {reader : Value → Except Problem Next} (given : Option Value)
    (fails : ∀ value, given = some value → FailsOnly may (reader value)) :
    FailsOnly may (given.mapM reader) := by
  cases given with
  | none => exact failsOnly_ok none
  | some value =>
    rw [Option.mapM_some]
    cases result : reader value with
    | error problem => exact failsOnly_error (fails value rfl problem result)
    | ok next => exact failsOnly_ok (some next)

end FailsOnly

/-- A refused configuration that is reported as one. -/
def ConfigError.Reported (error : ConfigError) : Prop := error.kind = "ConfigurationError"

theorem reported_splitFields (option value : String) (atLeast atMost : Int) :
    FailsOnly ConfigError.Reported (splitFields option value atLeast atMost) := by
  unfold splitFields
  dsimp only
  split
  · exact failsOnly_ok _
  · exact failsOnly_error rfl

theorem reported_parseInteger (text : String) (low high : Int) (what : String) :
    FailsOnly ConfigError.Reported (parseInteger text low high what) := by
  unfold parseInteger
  split
  · exact failsOnly_error rfl
  · split
    · exact failsOnly_ok _
    · exact failsOnly_error rfl

theorem reported_parseOptionalThreads (fields : List String) :
    FailsOnly ConfigError.Reported (parseOptionalThreads fields) := by
  cases fields with
  | nil => exact failsOnly_ok _
  | cons text rest => exact reported_parseInteger text 1 maxThreads _

theorem reported_boundsMake (minColumns maxColumns minSize maxSize : Int) :
    FailsOnly ConfigError.Reported (Bounds.make minColumns maxColumns minSize maxSize) := by
  unfold Bounds.make
  repeat' split
  · exact failsOnly_error rfl
  · exact failsOnly_error rfl
  · exact failsOnly_error rfl
  · exact failsOnly_error rfl
  · exact failsOnly_ok _

theorem reported_parseAverages (columns size : String) :
    FailsOnly ConfigError.Reported (parseAverages columns size) := by
  refine (reported_parseInteger _ _ _ _).bind fun averageColumns _ => ?_
  refine (reported_parseInteger _ _ _ _).bind fun averageSize _ => ?_
  unfold Bounds.ofAverages
  split
  · exact failsOnly_error rfl
  split
  · exact failsOnly_error rfl
  · exact reported_boundsMake _ _ _ _

theorem reported_parseDataSpec (value : String) :
    FailsOnly ConfigError.Reported (parseDataSpec value) := by
  refine (reported_splitFields _ _ _ _).bind fun fields _ => ?_
  split
  · exact reported_parseAverages _ _
  · exact failsOnly_error rfl

theorem reported_parseWriteSpec (value : String) (multiPut : Bool) :
    FailsOnly ConfigError.Reported (parseWriteSpec value multiPut) := by
  refine (reported_splitFields _ _ _ _).bind fun fields _ => ?_
  split
  · refine (reported_parseAverages _ _).bind fun bounds _ => ?_
    exact (reported_parseOptionalThreads _).bind fun threads _ => failsOnly_ok _
  · exact failsOnly_error rfl

theorem reported_parseReadFields (value : String) :
    FailsOnly ConfigError.Reported (parseReadFields value) := by
  refine (reported_splitFields _ _ _ _).bind fun fields _ => ?_
  split
  · refine (reported_parseInteger _ _ _ _).bind fun percent _ => ?_
    exact (reported_parseOptionalThreads _).bind fun threads _ => failsOnly_ok _
  · exact failsOnly_error rfl

theorem reported_checkMaxErrors (limit : Int) :
    FailsOnly ConfigError.Reported (checkMaxErrors limit) := by
  unfold checkMaxErrors
  split
  · exact failsOnly_error rfl
  · exact failsOnly_ok _

theorem reported_checkKeyWindow (window : Int) :
    FailsOnly ConfigError.Reported (checkKeyWindow window) := by
  unfold checkKeyWindow
  split
  · exact failsOnly_error rfl
  · exact failsOnly_ok _

theorem reported_resolveBounds (write : Option WriteSpec) (data : Option Bounds) :
    FailsOnly ConfigError.Reported (resolveBounds write data) := by
  unfold resolveBounds
  split
  · split
    · exact failsOnly_ok _
    · exact failsOnly_error rfl
  · exact failsOnly_ok _
  · exact failsOnly_ok _
  · exact failsOnly_error rfl

namespace Arguments

/-- Whether one of the numbers that the checks look at is a blank. -/
def IsBlank (arguments : Arguments) : BlankValue → Prop
  | .startKey => arguments.startKey = .blank
  | .numKeys => arguments.numKeys = .blank
  | .maxReadErrors => arguments.maxReadErrors = .blank
  | .keyWindow => arguments.keyWindow = .blank
  | .seed | .schema | .table => False

/-- The ways in which arguments are refused: with a reason, or because a number is a blank. -/
inductive Refuses (arguments : Arguments) : Failure → Prop
  | reported (error : ConfigError) (isReported : error.Reported) :
      Refuses arguments (.config error)
  | blank (needed : BlankValue) (isBlank : arguments.IsBlank needed) :
      Refuses arguments (.crash (.blank needed))

variable {arguments : Arguments} {options : Options}

theorem refuses_mapError {Value : Type} {result : Except ConfigError Value}
    (fails : FailsOnly ConfigError.Reported result) :
    FailsOnly arguments.Refuses (result.mapError .config) :=
  fails.mapError fun error isReported => .reported error isReported

theorem refuses_need (needed : BlankValue) (given : Given Int)
    (looked : given = .blank → arguments.IsBlank needed) :
    FailsOnly arguments.Refuses (given.need (.crash (.blank needed))) := by
  cases given with
  | blank => exact failsOnly_error (.blank needed (looked rfl))
  | value number => exact failsOnly_ok number

theorem refuses_range : FailsOnly arguments.Refuses arguments.range := by
  refine (refuses_need .startKey _ id).bind fun startKey _ => ?_
  split
  · exact failsOnly_error (.reported _ rfl)
  rename_i nonneg
  refine (refuses_need .numKeys _ id).bind fun numKeys _ => ?_
  dsimp only
  split
  · rename_i counted
    -- The range is within the limits of a range, so its wording is never needed.
    rw [KeyRange.ofCount, KeyRange.make, dif_neg (by omega), dif_neg (by omega),
      dif_neg (by omega)]
    exact failsOnly_ok _
  · exact failsOnly_error (.reported _ rfl)

theorem refuses_readPassOf (spec : String) :
    FailsOnly arguments.Refuses (arguments.readPassOf spec) := by
  refine (refuses_mapError (reported_parseReadFields spec)).bind fun fields _ => ?_
  refine (refuses_need .maxReadErrors _ id).bind fun limit _ => ?_
  refine (refuses_mapError (reported_checkMaxErrors limit)).bind fun maxErrors _ => ?_
  refine (refuses_need .keyWindow _ id).bind fun window _ => ?_
  exact (refuses_mapError (reported_checkKeyWindow window)).bind fun keyWindow _ => failsOnly_ok _

/-- Arguments that are refused are refused in one of these ways. -/
theorem refuses_runOptions : FailsOnly arguments.Refuses arguments.runOptions := by
  refine refuses_range.bind fun range _ => ?_
  refine (failsOnly_mapM _ fun text _ =>
    refuses_mapError (reported_parseWriteSpec text _)).bind fun write _ => ?_
  refine (failsOnly_mapM _ fun text _ => refuses_readPassOf text).bind fun read _ => ?_
  refine (failsOnly_mapM _ fun text _ =>
    refuses_mapError (reported_parseDataSpec text)).bind fun data _ => ?_
  split
  · exact (refuses_mapError (reported_resolveBounds write data)).bind fun bounds _ =>
      failsOnly_ok _
  · exact failsOnly_error (.reported _ rfl)

/-! ### The two looks agree -/

/-- Arguments that no run can be made of. -/
inductive Unusable (arguments : Arguments) : Prop
  | negativeStart (startKey : Int) (given : arguments.startKey = .value startKey)
      (negative : startKey < 0)
  | endsTooFar (startKey numKeys : Int) (start : arguments.startKey = .value startKey)
      (count : arguments.numKeys = .value numKeys) (tooFar : maxKey < startKey + numKeys)
  | tooFewKeys (numKeys : Int) (given : arguments.numKeys = .value numKeys) (few : numKeys < 1)
  | noPass (unwritten : givenText arguments.write = none) (unread : givenText arguments.read = none)
  | negativeMaxErrors (asked : (givenText arguments.read).isSome) (limit : Int)
      (given : arguments.maxReadErrors = .value limit) (negative : limit < 0)
  | negativeKeyWindow (asked : (givenText arguments.read).isSome) (window : Int)
      (given : arguments.keyWindow = .value window) (negative : window < 0)

/-- Nothing that no run can be made of is accepted. -/
theorem Grants.usable (grants : arguments.Grants options) : ¬arguments.Unusable := by
  obtain ⟨startKey, numKeys, isStart, isCount, _, some_key, start, limit⟩ :=
    range_eq_ok grants.range
  have nonneg := options.range.start_nonneg
  have most := options.range.limit_le_maxKey
  have limits : (givenText arguments.read).isSome →
      (∃ limit, arguments.maxReadErrors = .value limit ∧ 0 ≤ limit) ∧
        ∃ window, arguments.keyWindow = .value window ∧ 0 ≤ window := by
    intro asked
    rw [← isSome_of_mapM_eq_ok grants.read] at asked
    obtain ⟨spec, isSpec⟩ := Option.isSome_iff_exists.mp asked
    obtain ⟨text, _, granted⟩ := mapM_eq_ok grants.read spec isSpec
    exact limits_of_readPassOf granted
  intro unusable
  cases unusable with
  | negativeStart other given negative =>
    cases isStart.symm.trans given
    omega
  | endsTooFar otherStart otherCount givenStart givenCount tooFar =>
    cases isStart.symm.trans givenStart
    cases isCount.symm.trans givenCount
    omega
  | tooFewKeys other given few =>
    cases isCount.symm.trans given
    omega
  | noPass unwritten unread =>
    have written := isSome_of_mapM_eq_ok grants.write
    have read := isSome_of_mapM_eq_ok grants.read
    rw [unwritten] at written
    rw [unread] at read
    rcases options.some_pass with some | some
    · exact Bool.noConfusion (written.symm.trans some)
    · exact Bool.noConfusion (read.symm.trans some)
  | negativeMaxErrors asked other given negative =>
    obtain ⟨⟨limit, isLimit, limitOk⟩, _⟩ := limits asked
    cases isLimit.symm.trans given
    omega
  | negativeKeyWindow asked other given negative =>
    obtain ⟨_, window, isWindow, windowOk⟩ := limits asked
    cases isWindow.symm.trans given
    omega

end Arguments

/-- A run within the limits is refused nothing once it is prepared, whatever the store does and
whenever it is interrupted. -/
theorem Options.Possible.not_refused {Storage : Type} [Store Storage] {options : Options}
    (possible : options.Possible) (store : Storage) (schedule : List RunEvent)
    (life : RunLife Storage)
    (ran : replay RunLife.step { run := Run.ready options store } schedule = some life)
    (error : ConfigError) : life.run.phase ≠ .raised (.config error) := by
  intro raised
  have underway : RunLife.Underway (.any Storage options True) options life :=
    (RunLife.underway_ready (.any Storage options True) store trivial).of_replay Conduct.any_kept
      possible schedule (fun _ _ _ => trivial) ran
  cases underway.raised _ raised with
  | writer writer known fails =>
    obtain ⟨_, _, _, _, impossible⟩ := fails
    cases impossible
  | reader reader known fails =>
    obtain ⟨_, _, _, _, impossible⟩ := fails
    cases impossible

/-- The command line and the engines agree on what is valid. Whatever arguments are accepted, the
range has the number of keys that they ask for, which is not zero; the pools make the bounds once
more out of their numbers, take their settings and their link; and in every schedule, with or
without an interrupt, no start of a pool is refused. Arguments that no run can be made of are
refused, and with a reason, unless one of the numbers that the checks look at is a blank. -/
theorem Arguments.later_checks_agree {Storage : Type} [Store Storage] (arguments : Arguments) :
    (∀ options, arguments.runOptions = .ok options →
      (∃ startKey numKeys, arguments.startKey = .value startKey ∧
        arguments.numKeys = .value numKeys ∧ KeyRange.ofCount startKey numKeys = .ok options.range ∧
          0 < options.range.size ∧ (options.range.size : Int) = numKeys) ∧
      Bounds.make options.bounds.minColumns options.bounds.maxColumns options.bounds.minSize
        options.bounds.maxSize = .ok options.bounds ∧
      ∀ store : Storage, ∃ run lines, Run.prepare options store = .ok (run, lines) ∧
        ∀ schedule life, replay RunLife.step { run } schedule = some life →
          ∀ error, life.run.phase ≠ .raised (.config error)) ∧
    (arguments.Unusable → ∃ failure, arguments.runOptions = .error failure ∧
      arguments.Refuses failure ∧
        ((∀ needed, ¬arguments.IsBlank needed) →
          ∃ error, failure = .config error ∧ error.Reported)) := by
  refine ⟨fun options accepted => ⟨?_, options.bounds.make_self, fun store => ?_⟩,
    fun unusable => ?_⟩
  · obtain ⟨startKey, numKeys, isStart, isCount, made, some_key, start, limit⟩ :=
      range_eq_ok (grants_of_accepted accepted).range
    refine ⟨startKey, numKeys, isStart, isCount, made, ?_, ?_⟩
    · unfold KeyRange.size
      omega
    · unfold KeyRange.size
      omega
  · have possible := (arguments.runOptions_eq_ok options accepted).1
    obtain ⟨lines, prepared⟩ := Run.prepare_eq_ok options possible store
    exact ⟨_, lines, prepared, fun schedule life ran =>
      possible.not_refused store schedule life ran⟩
  · cases result : arguments.runOptions with
    | ok options => exact absurd unusable (grants_of_accepted result).usable
    | error failure =>
      have refused := refuses_runOptions failure result
      refine ⟨failure, rfl, refused, fun given => ?_⟩
      cases refused with
      | reported error isReported => exact ⟨error, rfl, isReported⟩
      | blank needed isBlank => exact absurd isBlank (given needed)

/-- Reads ten keys with a window below zero. -/
def negativeWindow : Arguments where
  startKey := .value 0
  numKeys := .value 10
  memory := true
  data := some (.value "2:9")
  read := some (.value "100")
  keyWindow := .value (-1)

theorem later_checks_agree_on_two_runs :
    (∃ options run lines, dryRun.runOptions = .ok options ∧
      Run.prepare options ({} : MemoryStore) = .ok (run, lines)) ∧
    ∃ error, negativeWindow.runOptions = .error (.config error) := by
  constructor
  · have isAccepted : dryRun.runOptions.toOption.isSome = true := by decide +kernel
    obtain ⟨options, known⟩ := Option.isSome_iff_exists.mp isAccepted
    have accepted := eq_ok_of_toOption known
    obtain ⟨_, _, prepares⟩ :=
      (@Arguments.later_checks_agree MemoryStore _ dryRun).1 options accepted
    obtain ⟨run, lines, prepared, _⟩ := prepares ({} : MemoryStore)
    exact ⟨options, run, lines, accepted, prepared⟩
  · have asked : (givenText negativeWindow.read).isSome := by decide +kernel
    obtain ⟨failure, refused, _, reported⟩ :=
      (@Arguments.later_checks_agree MemoryStore _ negativeWindow).2
        (.negativeKeyWindow asked (-1) rfl (by decide))
    obtain ⟨error, rfl, _⟩ := reported fun needed isBlank => by cases needed <;> cases isBlank
    exact ⟨error, refused⟩

/-- The same arguments with a blank for the number of errors to tolerate. The blank is looked at
first, and ends the program. -/
theorem blank_hides_negative_window :
    { negativeWindow with maxReadErrors := .blank }.Unusable ∧
      { negativeWindow with maxReadErrors := .blank }.runOptions =
        .error (.crash (.blank .maxReadErrors)) := by
  refine ⟨.negativeKeyWindow (by decide +kernel) (-1) rfl (by decide), ?_⟩
  rfl

end LoadVerifier
