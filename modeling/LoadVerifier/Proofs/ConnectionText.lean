/-
This file reads the text the database is asked with as the database does, and says when the reading
gives back what the connection was given.

The text is a list of settings, each a name, an equals sign and a value. Blanks separate settings,
and may stand around an equals sign. A value in single quotes goes on to the closing quote, any
other value to the next blank, and a backslash takes the special meaning from the character behind
it. When a name is set twice, then the last value counts.

The values are written as they are. So they are read back exactly when none of them holds a blank or
a backslash, or begins with a single quote. The reason is one of length: a setting is not longer
than the text it is read from, and every blank, quote or backslash that is not part of a value makes
it shorter. If all that was given is read back, then there is no room for any of them.
-/
import LoadVerifier.CommandLine.Connection
import LoadVerifier.Text.Integer
import LoadVerifier.Proofs.DecimalText
import Mathlib.Algebra.Order.BigOperators.Group.List
import Mathlib.Algebra.Order.Ring.Nat
import Mathlib.Data.List.Nodup
import Mathlib.Data.List.Perm.Subperm

namespace LoadVerifier.ConnectionText

/-! ### The reader -/

/-- A name with its value. -/
abbrev Setting := String × String

/-- How far a setting is read: what is known of its name and of its value. -/
inductive Stage
  | between
  | naming (name : List Char)
  | named (name : List Char)
  | assigned (name : List Char)
  | bare (name value : List Char)
  | bareEscape (name value : List Char)
  | quoted (name value : List Char)
  | quotedEscape (name value : List Char)

namespace Stage

/-- A setting that is read to its end. -/
def setting (name value : List Char) : Setting :=
  (String.ofList name, String.ofList value)

/-- Reads a character: the next stage, and the setting that has ended with the character. There is
none if the character may not stand there. -/
def step : Stage → Char → Option (Stage × List Setting)
  | .between, character =>
    if Text.isPadding character then some (.between, [])
    else if character = '=' then some (.assigned [], [])
    else some (.naming [character], [])
  | .naming name, character =>
    if Text.isPadding character then some (.named name, [])
    else if character = '=' then some (.assigned name, [])
    else some (.naming (name ++ [character]), [])
  | .named name, character =>
    if Text.isPadding character then some (.named name, [])
    else if character = '=' then some (.assigned name, [])
    else none
  | .assigned name, character =>
    if Text.isPadding character then some (.assigned name, [])
    else if character = '\'' then some (.quoted name [], [])
    else if character = '\\' then some (.bareEscape name [], [])
    else some (.bare name [character], [])
  | .bare name value, character =>
    if Text.isPadding character then some (.between, [setting name value])
    else if character = '\\' then some (.bareEscape name value, [])
    else some (.bare name (value ++ [character]), [])
  | .bareEscape name value, character => some (.bare name (value ++ [character]), [])
  | .quoted name value, character =>
    if character = '\'' then some (.between, [setting name value])
    else if character = '\\' then some (.quotedEscape name value, [])
    else some (.quoted name (value ++ [character]), [])
  | .quotedEscape name value, character => some (.quoted name (value ++ [character]), [])

/-- The setting that ends with the text, unless the text may not end there. -/
def finish : Stage → Option (List Setting)
  | .between => some []
  | .naming _ | .named _ => none
  | .assigned name => some [setting name []]
  | .bare name value | .bareEscape name value => some [setting name value]
  | .quoted _ _ | .quotedEscape _ _ => none

/-- Reads the rest of a text. -/
def readFrom : Stage → List Char → Option (List Setting)
  | stage, [] => stage.finish
  | stage, character :: rest => do
    let (next, ended) ← stage.step character
    let later ← next.readFrom rest
    return ended ++ later

end Stage

/-- The settings of a text, in their order, unless it is not a list of settings. -/
def readSettings (text : String) : Option (List Setting) :=
  Stage.between.readFrom text.toList

/-- The value of a name: the last one that it is set to. -/
def lastValue (settings : List Setting) (name : String) : Option String :=
  settings.reverse.lookup name

/-- A value that is read as it is written: without a blank or a backslash, and not beginning with a
single quote. -/
structure Plain (value : List Char) : Prop where
  no_blank : ∀ character ∈ value, Text.isPadding character = false
  no_escape : '\\' ∉ value
  unquoted : value.head? ≠ some '\''

instance (value : List Char) : Decidable (Plain value) :=
  decidable_of_iff (value.all (fun character => !Text.isPadding character) = true ∧
      '\\' ∉ value ∧ value.head? ≠ some '\'')
    ⟨fun ⟨no_blank, no_escape, unquoted⟩ => ⟨by simpa using no_blank, no_escape, unquoted⟩,
      fun plain => ⟨by simpa using plain.no_blank, plain.no_escape, plain.unquoted⟩⟩

theorem plain_nil : Plain [] := ⟨nofun, nofun, nofun⟩

theorem Plain.concat {value : List Char} {character : Char} (plain : Plain value)
    (visible : Text.isPadding character = false) (unescaped : character ≠ '\\')
    (unquoted : value = [] → character ≠ '\'') : Plain (value ++ [character]) where
  no_blank := by
    simpa [or_imp, forall_and] using ⟨plain.no_blank, visible⟩
  no_escape := by
    simpa [Ne.symm unescaped] using plain.no_escape
  unquoted := by
    cases value with
    | nil => simpa using unquoted rfl
    | cons first rest => exact plain.unquoted

/-! ### The room that settings take -/

/-- The characters of settings, with an equals sign and a blank for each. -/
def room (settings : List Setting) : Nat :=
  (settings.map fun setting => setting.1.length + setting.2.length + 2).sum

@[simp] theorem room_nil : room [] = 0 := rfl

@[simp] theorem room_cons (setting : Setting) (settings : List Setting) :
    room (setting :: settings) = setting.1.length + setting.2.length + 2 + room settings := rfl

@[simp] theorem room_append (settings others : List Setting) :
    room (settings ++ others) = room settings + room others := by
  simp [room]

theorem room_le_of_subset {settings others : List Setting} (different : settings.Nodup)
    (subset : settings ⊆ others) : room settings ≤ room others := by
  obtain ⟨arranged, permuted, sublist⟩ := List.subperm_of_subset different subset
  unfold room
  rw [← (permuted.map _).sum_eq]
  exact (sublist.map _).sum_le_sum fun _ _ => Nat.zero_le _

namespace Stage

/-- The characters that are known of a setting, with its equals sign. -/
def held : Stage → Nat
  | .between => 0
  | .naming name | .named name => name.length
  | .assigned name => name.length + 1
  | .bare name value | .bareEscape name value | .quoted name value | .quotedEscape name value =>
    name.length + value.length + 1

/-- Nothing but names, equals signs and values was read of a setting. -/
def Tidy : Stage → Prop
  | .between | .naming _ | .assigned _ => True
  | .bare _ value => value ≠ [] ∧ Plain value
  | .named _ | .bareEscape _ _ | .quoted _ _ | .quotedEscape _ _ => False

/-- What a character does to the room: either it is kept, and then a tidy setting stays tidy and has
a plain value when it ends, or it is lost. -/
theorem room_of_step {stage next : Stage} {character : Char} {ended : List Setting}
    (stepped : stage.step character = some (next, ended)) :
    (room ended + next.held = stage.held + 1 ∧
      (stage.Tidy → next.Tidy ∧ ∀ setting ∈ ended, Plain setting.2.toList)) ∨
      room ended + next.held ≤ stage.held := by
  cases stage with
  | between =>
    rw [step] at stepped
    split at stepped
    · cases stepped
      exact Or.inr le_rfl
    split at stepped
    · cases stepped
      exact Or.inl ⟨rfl, fun _ => ⟨trivial, nofun⟩⟩
    · cases stepped
      exact Or.inl ⟨rfl, fun _ => ⟨trivial, nofun⟩⟩
  | naming name =>
    rw [step] at stepped
    split at stepped
    · cases stepped
      exact Or.inr (by simp [held])
    split at stepped
    · cases stepped
      exact Or.inl ⟨by simp [held], fun _ => ⟨trivial, nofun⟩⟩
    · cases stepped
      exact Or.inl ⟨by simp [held], fun _ => ⟨trivial, nofun⟩⟩
  | named name =>
    rw [step] at stepped
    split at stepped
    · cases stepped
      exact Or.inr (by simp [held])
    split at stepped
    · cases stepped
      exact Or.inl ⟨by simp [held], nofun⟩
    · cases stepped
  | assigned name =>
    rw [step] at stepped
    split at stepped
    · cases stepped
      exact Or.inr (by simp [held])
    rename_i visible
    split at stepped
    · cases stepped
      exact Or.inr (by simp [held])
    rename_i unquoted
    split at stepped
    · cases stepped
      exact Or.inr (by simp [held])
    · rename_i unescaped
      cases stepped
      have plain := plain_nil.concat (Bool.eq_false_of_not_eq_true visible) unescaped
        fun _ => unquoted
      exact Or.inl ⟨by simp [held], fun _ => ⟨⟨by simp, plain⟩, nofun⟩⟩
  | bare name value =>
    rw [step] at stepped
    split at stepped
    · cases stepped
      refine Or.inl ⟨by simp [held, setting], fun tidy => ⟨trivial, fun ended member => ?_⟩⟩
      rw [List.mem_singleton.mp member, setting, String.toList_ofList]
      exact tidy.2
    rename_i visible
    split at stepped
    · cases stepped
      exact Or.inr (by simp [held])
    · rename_i unescaped
      cases stepped
      refine Or.inl ⟨by simp [held]; omega, fun tidy => ⟨⟨by simp, ?_⟩, nofun⟩⟩
      exact tidy.2.concat (Bool.eq_false_of_not_eq_true visible) unescaped
        fun none => absurd none tidy.1
  | bareEscape name value =>
    cases stepped
    exact Or.inl ⟨by simp [held]; omega, nofun⟩
  | quoted name value =>
    rw [step] at stepped
    split at stepped
    · cases stepped
      exact Or.inl ⟨by simp [held, setting], nofun⟩
    split at stepped
    · cases stepped
      exact Or.inr (by simp [held])
    · cases stepped
      exact Or.inl ⟨by simp [held]; omega, nofun⟩
  | quotedEscape name value =>
    cases stepped
    exact Or.inl ⟨by simp [held]; omega, nofun⟩

/-- The end of the text stands for the blank behind the last setting. -/
theorem room_of_finish {stage : Stage} {ended : List Setting}
    (finished : stage.finish = some ended) :
    room ended ≤ stage.held + 1 ∧
      (stage.Tidy → ∀ setting ∈ ended, Plain setting.2.toList) := by
  cases stage with
  | between =>
    cases finished
    exact ⟨Nat.zero_le 1, fun _ => nofun⟩
  | naming name => cases finished
  | named name => cases finished
  | assigned name =>
    cases finished
    refine ⟨by simp [held, setting], fun _ ended member => ?_⟩
    rw [List.mem_singleton.mp member, setting, String.toList_ofList]
    exact plain_nil
  | bare name value =>
    cases finished
    refine ⟨by simp [held, setting], fun tidy ended member => ?_⟩
    rw [List.mem_singleton.mp member, setting, String.toList_ofList]
    exact tidy.2
  | bareEscape name value =>
    cases finished
    exact ⟨by simp [held, setting], nofun⟩
  | quoted name value => cases finished
  | quotedEscape name value => cases finished

theorem readFrom_cons_eq_some {stage : Stage} {character : Char} {rest : List Char}
    {settings : List Setting} (read : stage.readFrom (character :: rest) = some settings) :
    ∃ next ended later, stage.step character = some (next, ended) ∧
      next.readFrom rest = some later ∧ ended ++ later = settings := by
  obtain ⟨⟨next, ended⟩, stepped, read⟩ := Option.bind_eq_some_iff.mp read
  obtain ⟨later, isLater, read⟩ := Option.bind_eq_some_iff.mp read
  exact ⟨next, ended, later, stepped, isLater, Option.some.inj read⟩

/-- Settings take no more room than the text they are read from, and if they take all of it, then
their values are plain. -/
theorem room_of_readFrom {stage : Stage} {text : List Char} {settings : List Setting}
    (read : stage.readFrom text = some settings) :
    room settings ≤ stage.held + text.length + 1 ∧
      (stage.Tidy → room settings = stage.held + text.length + 1 →
        ∀ setting ∈ settings, Plain setting.2.toList) := by
  induction text generalizing stage settings with
  | nil =>
    obtain ⟨fits, plain⟩ := room_of_finish read
    exact ⟨fits, fun tidy _ => plain tidy⟩
  | cons character rest inductionHypothesis =>
    obtain ⟨next, ended, later, stepped, readLater, rfl⟩ := readFrom_cons_eq_some read
    obtain ⟨fits, plain⟩ := inductionHypothesis readLater
    rw [room_append, List.length_cons]
    rcases room_of_step stepped with ⟨kept, stays⟩ | lost
    · refine ⟨by omega, fun tidy full setting member => ?_⟩
      obtain ⟨nextTidy, endedPlain⟩ := stays tidy
      rcases List.mem_append.mp member with among | among
      · exact endedPlain setting among
      · exact plain nextTidy (by omega) setting among
    · exact ⟨by omega, fun _ full => by omega⟩

end Stage

/-! ### Settings as they are written -/

/-- A setting in writing. -/
def written (setting : Setting) : List Char :=
  setting.1.toList ++ '=' :: setting.2.toList

/-- Settings in writing, with a blank between any two. -/
def writtenAll (settings : List Setting) : List Char :=
  [' '].intercalate (settings.map written)

theorem length_written (setting : Setting) :
    (written setting).length = setting.1.length + (setting.2.length + 1) := by
  rw [written, List.length_append, List.length_cons, String.length_toList, String.length_toList]

theorem writtenAll_singleton (setting : Setting) : writtenAll [setting] = written setting := by
  rw [writtenAll, List.map_singleton, List.intercalate_singleton]

theorem writtenAll_cons_cons (setting second : Setting) (rest : List Setting) :
    writtenAll (setting :: second :: rest) =
      written setting ++ ' ' :: writtenAll (second :: rest) := by
  simp [writtenAll]

/-- The blanks between settings are one less than the settings. -/
theorem room_eq_length {settings : List Setting} (some_setting : settings ≠ []) :
    room settings = (writtenAll settings).length + 1 := by
  induction settings with
  | nil => exact absurd rfl some_setting
  | cons setting later inductionHypothesis =>
    cases later with
    | nil =>
      rw [room_cons, room_nil, writtenAll_singleton, length_written]
      omega
    | cons second rest =>
      rw [room_cons, inductionHypothesis (List.cons_ne_nil second rest), writtenAll_cons_cons,
        List.length_append, List.length_cons, length_written]
      omega

namespace Stage

theorem readFrom_of_step {stage next : Stage} {character : Char} (rest : List Char)
    {ended : List Setting} (stepped : stage.step character = some (next, ended)) :
    stage.readFrom (character :: rest) = (next.readFrom rest).map (ended ++ ·) := by
  rw [readFrom, stepped]
  exact (Option.map_eq_bind).symm

/-- A character that does not end a setting. -/
theorem readFrom_of_step_nil {stage next : Stage} {character : Char} (rest : List Char)
    (stepped : stage.step character = some (next, [])) :
    stage.readFrom (character :: rest) = next.readFrom rest := by
  rw [readFrom_of_step rest stepped]
  exact congrFun Option.map_id _

theorem readFrom_naming (read name rest : List Char)
    (plain : ∀ character ∈ name, Text.isPadding character = false ∧ character ≠ '=') :
    (naming read).readFrom (name ++ '=' :: rest) = (assigned (read ++ name)).readFrom rest := by
  induction name generalizing read with
  | nil =>
    rw [List.append_nil]
    exact readFrom_of_step_nil rest rfl
  | cons character later inductionHypothesis =>
    obtain ⟨⟨visible, ordinary⟩, laterPlain⟩ := List.forall_mem_cons.mp plain
    have stepped : (naming read).step character = some (naming (read ++ [character]), []) := by
      rw [step, if_neg (Bool.eq_false_iff.mp visible), if_neg ordinary]
    rw [List.cons_append, readFrom_of_step_nil _ stepped, inductionHypothesis _ laterPlain,
      List.append_assoc, List.singleton_append]

theorem readFrom_between (name rest : List Char)
    (plain : ∀ character ∈ name, Text.isPadding character = false ∧ character ≠ '=') :
    between.readFrom (name ++ '=' :: rest) = (assigned name).readFrom rest := by
  cases name with
  | nil => exact readFrom_of_step_nil rest rfl
  | cons character later =>
    obtain ⟨⟨visible, ordinary⟩, laterPlain⟩ := List.forall_mem_cons.mp plain
    have stepped : between.step character = some (naming [character], []) := by
      rw [step, if_neg (Bool.eq_false_iff.mp visible), if_neg ordinary]
    rw [List.cons_append, readFrom_of_step_nil _ stepped, readFrom_naming _ _ _ laterPlain,
      List.singleton_append]

theorem readFrom_bare (name read value rest : List Char)
    (no_blank : ∀ character ∈ value, Text.isPadding character = false)
    (no_escape : '\\' ∉ value) :
    (bare name read).readFrom (value ++ rest) = (bare name (read ++ value)).readFrom rest := by
  induction value generalizing read with
  | nil => rw [List.append_nil, List.nil_append]
  | cons character later inductionHypothesis =>
    obtain ⟨visible, laterVisible⟩ := List.forall_mem_cons.mp no_blank
    obtain ⟨unescaped, laterUnescaped⟩ := not_or.mp (mt List.mem_cons.mpr no_escape)
    have stepped : (bare name read).step character =
        some (bare name (read ++ [character]), []) := by
      rw [step, if_neg (Bool.eq_false_iff.mp visible), if_neg (Ne.symm unescaped)]
    rw [List.cons_append, readFrom_of_step_nil _ stepped,
      inductionHypothesis _ laterVisible laterUnescaped, List.append_assoc, List.singleton_append]

/-- A plain value that is not empty is read as it is written. -/
theorem readFrom_assigned (name rest : List Char) {value : List Char} (plain : Plain value)
    (some_character : value ≠ []) :
    (assigned name).readFrom (value ++ rest) = (bare name value).readFrom rest := by
  cases value with
  | nil => exact absurd rfl some_character
  | cons character later =>
    obtain ⟨visible, laterVisible⟩ := List.forall_mem_cons.mp plain.no_blank
    obtain ⟨unescaped, laterUnescaped⟩ := not_or.mp (mt List.mem_cons.mpr plain.no_escape)
    have unquoted : character ≠ '\'' := fun quote => plain.unquoted (congrArg some quote)
    have stepped : (assigned name).step character = some (bare name [character], []) := by
      rw [step, if_neg (Bool.eq_false_iff.mp visible), if_neg unquoted,
        if_neg (Ne.symm unescaped)]
    rw [List.cons_append, readFrom_of_step_nil _ stepped,
      readFrom_bare _ _ _ _ laterVisible laterUnescaped, List.singleton_append]

end Stage

/-- A setting that is read as it is written: its name has neither a blank nor an equals sign, and
its value is plain and not empty. -/
structure ReadsBack (setting : Setting) : Prop where
  name : ∀ character ∈ setting.1.toList, Text.isPadding character = false ∧ character ≠ '='
  value : Plain setting.2.toList
  some_character : setting.2 ≠ ""

theorem readFrom_written {setting : Setting} (readsBack : ReadsBack setting) (rest : List Char) :
    Stage.between.readFrom (written setting ++ rest) =
      (Stage.bare setting.1.toList setting.2.toList).readFrom rest := by
  rw [written, List.append_assoc, List.cons_append, Stage.readFrom_between _ _ readsBack.name]
  exact Stage.readFrom_assigned _ _ readsBack.value
    (mt String.toList_eq_nil_iff.mp readsBack.some_character)

theorem setting_toList (setting : Setting) :
    Stage.setting setting.1.toList setting.2.toList = setting := by
  simp only [Stage.setting, String.ofList_toList]

/-- Settings that are read as they are written, one by one, are so together. -/
theorem readFrom_writtenAll {settings : List Setting}
    (readsBack : ∀ setting ∈ settings, ReadsBack setting) :
    Stage.between.readFrom (writtenAll settings) = some settings := by
  induction settings with
  | nil => rfl
  | cons setting later inductionHypothesis =>
    obtain ⟨own, others⟩ := List.forall_mem_cons.mp readsBack
    cases later with
    | nil =>
      have read := readFrom_written own []
      rw [List.append_nil] at read
      rw [writtenAll_singleton, read]
      exact congrArg some (congrArg ([·]) (setting_toList setting))
    | cons second rest =>
      have ended : (Stage.bare setting.1.toList setting.2.toList).step ' ' =
          some (.between, [Stage.setting setting.1.toList setting.2.toList]) := rfl
      rw [writtenAll_cons_cons, readFrom_written own, Stage.readFrom_of_step _ ended,
        inductionHypothesis others, setting_toList]
      rfl

theorem mem_of_lastValue {settings : List Setting} {name value : String}
    (found : lastValue settings name = some value) : (name, value) ∈ settings := by
  obtain ⟨before, after, reversed, -⟩ := List.lookup_eq_some_iff.mp found
  rw [← List.mem_reverse, reversed]
  exact List.mem_append_right before List.mem_cons_self

/-- Settings that are among what is read from them in writing have plain values. -/
theorem plain_of_subset {settings read : List Setting} (different : settings.Nodup)
    (subset : settings ⊆ read)
    (isRead : Stage.between.readFrom (writtenAll settings) = some read) :
    ∀ setting ∈ settings, Plain setting.2.toList := by
  intro setting member
  have length := room_eq_length (List.ne_nil_of_mem member)
  have least := room_le_of_subset different subset
  obtain ⟨most, plain⟩ := Stage.room_of_readFrom isRead
  -- What is read takes no more room than there is, and the settings alone take all of it.
  have full : room read = Stage.between.held + (writtenAll settings).length + 1 := by
    simp only [Stage.held] at most ⊢
    omega
  exact plain trivial full setting (subset member)

/-- Settings that say of each name what a table of names says give back the table, also when a later
value of a name is the one that counts. -/
theorem lastValue_eq {settings : List Setting} {value : String → Option String}
    (member_iff : ∀ name text, (name, text) ∈ settings ↔ value name = some text) (name : String) :
    lastValue settings name = value name := by
  cases found : lastValue settings name with
  | none =>
    cases set : value name with
    | none => rfl
    | some text =>
      have member := List.mem_reverse.mpr ((member_iff name text).mpr set)
      exact absurd (List.lookup_eq_none_iff.mp found _ member) (by simp)
  | some text =>
    exact ((member_iff name text).mp (mem_of_lastValue found)).symm

end LoadVerifier.ConnectionText

namespace LoadVerifier.Connection

open ConnectionText

/-! ### The settings of a connection -/

/-- The names that a connection may set. -/
def names : List String := ["host", "port", "user", "dbname", "password", "sslmode", "options"]

/-- What a connection sets a name to. -/
def setting (connection : Connection) : String → Option String
  | "host" => givenText connection.host
  | "port" => connection.portText
  | "user" => givenText connection.user
  | "dbname" => givenText connection.dbname
  | "password" => givenText connection.password
  | "sslmode" => givenText connection.sslmode
  | "options" => givenText connection.options
  | _ => none

/-- Whether the text the database is asked with is read as the settings of the connection: each name
that is set has its value, and no other name has one. -/
def IsReadBack (connection : Connection) : Prop :=
  ∃ settings, readSettings connection.target = some settings ∧
    ∀ name, lastValue settings name = connection.setting name

theorem parameters_eq (connection : Connection) :
    connection.parameters =
      names.filterMap fun name => (connection.setting name).map fun value => (name, value) := rfl

theorem mem_names_of_setting {connection : Connection} {name value : String}
    (set : connection.setting name = some value) : name ∈ names := by
  unfold setting at set
  split at set <;> first | decide | cases set

theorem mem_parameters_iff (connection : Connection) (name value : String) :
    (name, value) ∈ connection.parameters ↔ connection.setting name = some value := by
  rw [parameters_eq, List.mem_filterMap]
  constructor
  · rintro ⟨own, -, isOwn⟩
    obtain ⟨text, set, same⟩ := Option.map_eq_some_iff.mp isOwn
    cases same
    exact set
  · intro set
    exact ⟨name, mem_names_of_setting set, by rw [set, Option.map_some]⟩

theorem nodup_parameters (connection : Connection) : connection.parameters.Nodup := by
  rw [parameters_eq]
  refine List.Nodup.filterMap (fun name other parameter isOwn isOther => ?_) (by decide)
  obtain ⟨value, -, rfl⟩ := Option.map_eq_some_iff.mp isOwn
  obtain ⟨_, -, same⟩ := Option.map_eq_some_iff.mp isOther
  exact (congrArg Prod.fst same).symm

theorem ne_empty_of_givenText {text : Option (Given String)} {value : String}
    (given : givenText text = some value) : value ≠ "" := by
  simpa using (Option.filter_eq_some_iff.mp given).2

theorem ne_empty_of_portText {connection : Connection} {value : String}
    (given : connection.portText = some value) : value ≠ "" := by
  obtain ⟨port, -, rfl⟩ := Option.map_eq_some_iff.mp given
  rw [← String.toList_eq_nil_iff.ne, String.toList_ofList, Text.decimal]
  split
  · exact List.cons_ne_nil _ _
  · exact Nat.toDigits_ne_nil

theorem ne_empty_of_setting {connection : Connection} {name value : String}
    (set : connection.setting name = some value) : value ≠ "" := by
  unfold setting at set
  split at set
  all_goals first
    | exact ne_empty_of_givenText set
    | exact ne_empty_of_portText set
    | cases set

theorem target_toList {connection : Connection} (single : givenText connection.dsn = none) :
    connection.target.toList = writtenAll connection.parameters := by
  have written_eq : written = fun parameter => (parameter.1 ++ "=" ++ parameter.2).toList := by
    funext parameter
    simp [written]
  rw [target, single, String.toList_intercalate, List.map_map, writtenAll, written_eq]
  rfl

/-- Without a text that names the server as a whole, the text the database is asked with is read as
the settings of the connection exactly when all of their values are plain. -/
theorem target_is_read_back_iff (connection : Connection)
    (single : givenText connection.dsn = none) :
    connection.IsReadBack ↔
      ∀ name value, connection.setting name = some value → Plain value.toList := by
  constructor
  · rintro ⟨settings, read, same⟩ name value set
    rw [readSettings, target_toList single] at read
    have subset : connection.parameters ⊆ settings := by
      rintro ⟨own, text⟩ member
      rw [mem_parameters_iff, ← same] at member
      exact mem_of_lastValue member
    exact plain_of_subset connection.nodup_parameters subset read (name, value)
      ((mem_parameters_iff connection name value).mpr set)
  · intro plain
    refine ⟨connection.parameters, ?_, lastValue_eq connection.mem_parameters_iff⟩
    rw [readSettings, target_toList single]
    refine readFrom_writtenAll fun parameter member => ?_
    have set := (mem_parameters_iff connection parameter.1 parameter.2).mp member
    have plainName : ∀ name ∈ names,
        name.toList.all (fun character => !Text.isPadding character && character != '=') := by
      decide
    have name := plainName parameter.1 (mem_names_of_setting set)
    exact ⟨by simpa using name, plain _ _ set, ne_empty_of_setting set⟩

/-- A connection with a single quote and an equals sign inside its values. -/
def quoteInside : Connection :=
  { host := some (.value "db"), port := some (.value 5433), user := some (.value "o'neil"),
    dbname := some .blank, password := some (.value "a=b") }

theorem target_is_read_back_of_quote_inside :
    givenText quoteInside.dsn = none ∧ quoteInside.IsReadBack := by
  refine ⟨rfl, (target_is_read_back_iff quoteInside rfl).mpr fun name value set => ?_⟩
  have plain : ∀ parameter ∈ quoteInside.parameters, Plain parameter.2.toList := by decide
  exact plain _ ((mem_parameters_iff quoteInside name value).mpr set)

/-- A connection with options of the form that the help of the flag suggests. -/
def suggestedOptions : Connection :=
  { options := some (.value "-c statement_timeout=0") }

/-- Options with a blank are not read back. What is behind the blank becomes another setting. -/
theorem suggested_options_are_split :
    givenText suggestedOptions.dsn = none ∧
      suggestedOptions.setting "options" = some "-c statement_timeout=0" ∧
      readSettings suggestedOptions.target =
        some [("options", "-c"), ("statement_timeout", "0")] ∧
      ¬ suggestedOptions.IsReadBack := by
  have read : readSettings suggestedOptions.target =
      some [("options", "-c"), ("statement_timeout", "0")] := by
    decide
  refine ⟨rfl, rfl, read, ?_⟩
  rintro ⟨settings, isRead, same⟩
  cases read.symm.trans isRead
  exact absurd (same "options") (by decide)

end LoadVerifier.Connection
