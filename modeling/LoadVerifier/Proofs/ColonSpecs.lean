/-
This file says exactly which specs of a pass are taken. A spec is a text of fields between colons,
and each field spells one number: two averages and perhaps a number of workers for a write pass, two
averages for the data of an earlier one, a percentage and perhaps a number of workers for a read
pass. A spec is taken when its numbers are within their limits, and stands for these numbers;
everything else is refused as a configuration.

Written in decimal form between colons, numbers within their limits are read back.
-/
import LoadVerifier.Proofs.DrawLimits
import LoadVerifier.Proofs.SpelledNumber
import LoadVerifier.Proofs.TableFit

namespace LoadVerifier

/-! ### The fields of a spec -/

/-- The fields between the colons of a text: none of them holds a colon, and joined by colons they
are the text. -/
structure SplitsAtColons (text : List Char) (fields : List (List Char)) : Prop where
  some_field : fields ≠ []
  plain : ∀ field ∈ fields, ':' ∉ field
  joined : [':'].intercalate fields = text

theorem colonFields_eq_splitOn (text : List Char) : colonFields text = text.splitOn ':' := by
  induction text with
  | nil => rfl
  | cons character rest inductionHypothesis =>
    rw [colonFields, inductionHypothesis, List.splitOn_eq_splitOnP, List.splitOn_eq_splitOnP,
      List.splitOnP_cons_eq_if_modifyHead]
    by_cases colon : character = ':'
    · simp [colon]
    · have some_field : rest.splitOnP (· == ':') ≠ [] := List.splitOnP_ne_nil _ _
      obtain ⟨field, others, split⟩ := List.exists_cons_of_ne_nil some_field
      simp [colon, split]

theorem colon_notMem_of_mem_colonFields (text field : List Char)
    (member : field ∈ colonFields text) : ':' ∉ field := by
  induction text generalizing field with
  | nil =>
    cases List.mem_singleton.mp member
    exact List.not_mem_nil
  | cons character rest inductionHypothesis =>
    rw [colonFields] at member
    split at member
    · rcases List.mem_cons.mp member with rfl | later
      · exact List.not_mem_nil
      · exact inductionHypothesis field later
    · rename_i notColon
      have different : ':' ≠ character := fun equal => notColon equal.symm
      cases split : colonFields rest with
      | nil =>
        rw [split] at member
        cases List.mem_singleton.mp member
        simpa using different
      | cons first others =>
        rw [split] at member
        rcases List.mem_cons.mp member with rfl | later
        · have plain := inductionHypothesis first (split ▸ List.mem_cons_self)
          simp [different, plain]
        · exact inductionHypothesis field (split ▸ List.mem_cons_of_mem first later)

/-- A text has one way to be split at its colons, and that is how it is split. -/
theorem splitsAtColons_iff (text : List Char) (fields : List (List Char)) :
    SplitsAtColons text fields ↔ colonFields text = fields := by
  constructor
  · rintro ⟨some_field, plain, rfl⟩
    rw [colonFields_eq_splitOn]
    exact List.splitOn_intercalate ':' plain some_field
  · rintro rfl
    refine ⟨?_, colon_notMem_of_mem_colonFields text, ?_⟩
    · rw [colonFields_eq_splitOn, List.splitOn_eq_splitOnP]
      exact List.splitOnP_ne_nil _ _
    · rw [colonFields_eq_splitOn]
      exact List.intercalate_splitOn ':'

/-- The numbers that a text says between its colons, one in each field. -/
def SaysNumbers (text : String) (numbers : List Int) : Prop :=
  ∃ fields, SplitsAtColons text.toList fields ∧ List.Forall₂ Text.Spells fields numbers

theorem splitFields_eq_ok_iff (option text : String) (atLeast atMost : Int) (texts : List String) :
    splitFields option text atLeast atMost = .ok texts ↔
      ∃ fields, SplitsAtColons text.toList fields ∧ texts = fields.map String.ofList ∧
        atLeast ≤ fields.length ∧ (fields.length : Int) ≤ atMost := by
  simp only [splitsAtColons_iff, exists_eq_left', splitFields, List.length_map]
  split
  · rename_i within
    simp [within, eq_comm]
  · rename_i outside
    simp [outside]

theorem parseInteger_eq_ok_iff (field : List Char) (low high number : Int) (what : String) :
    parseInteger (String.ofList field) low high what = .ok number ↔
      Text.Spells field number ∧ low ≤ number ∧ number ≤ high := by
  have spells_iff := Text.readInteger?_eq_some_iff (String.ofList field) number
  rw [String.toList_ofList] at spells_iff
  constructor
  · intro parsed
    exact ⟨spells_iff.mp (readInteger?_of_parseInteger parsed), parseInteger_eq_ok _ _ _ _ _ parsed⟩
  · rintro ⟨spelled, within⟩
    rw [parseInteger, spells_iff.mpr spelled]
    exact if_pos within

/-! ### Bounds around averages -/

/-- Averages of at least one have bounds around them, with these numbers. -/
theorem exists_ofAverages {columns size : Int} (some_column : 1 ≤ columns) (some_byte : 1 ≤ size) :
    ∃ bounds, Bounds.ofAverages columns size = .ok bounds ∧
      bounds.minColumns = (1 : Int) ∧ bounds.maxColumns = 2 * columns ∧
        bounds.minSize = size / 2 ∧ bounds.maxSize = size * 3 / 2 := by
  obtain ⟨bounds, made⟩ := (exists_make_iff 1 (2 * columns) (size / 2) (size * 3 / 2)).mpr
    (by omega)
  refine ⟨bounds, ?_, Bounds.make_eq_ok made⟩
  rw [Bounds.ofAverages, if_neg (by omega), if_neg (by omega), made]

theorem parseAverages_eq_ok_iff (first second : List Char) (bounds : Bounds) :
    parseAverages (String.ofList first) (String.ofList second) = .ok bounds ↔
      ∃ columns size, Text.Spells first columns ∧ Text.Spells second size ∧
        (1 ≤ columns ∧ columns ≤ maxAverage) ∧ (1 ≤ size ∧ size ≤ maxAverage) ∧
          Bounds.ofAverages columns size = .ok bounds := by
  constructor
  · intro parsed
    obtain ⟨columns, isColumns, parsed⟩ := bind_eq_ok.mp parsed
    obtain ⟨size, isSize, made⟩ := bind_eq_ok.mp parsed
    obtain ⟨spellsColumns, columnsOk⟩ := (parseInteger_eq_ok_iff _ _ _ _ _).mp isColumns
    obtain ⟨spellsSize, sizeOk⟩ := (parseInteger_eq_ok_iff _ _ _ _ _).mp isSize
    exact ⟨columns, size, spellsColumns, spellsSize, columnsOk, sizeOk, made⟩
  · rintro ⟨columns, size, spellsColumns, spellsSize, columnsOk, sizeOk, made⟩
    have isColumns := (parseInteger_eq_ok_iff first 1 maxAverage columns
      "average columns per key").mpr ⟨spellsColumns, columnsOk⟩
    have isSize := (parseInteger_eq_ok_iff second 1 maxAverage size
      "average data size").mpr ⟨spellsSize, sizeOk⟩
    exact bind_eq_ok.mpr ⟨columns, isColumns, bind_eq_ok.mpr ⟨size, isSize, made⟩⟩

/-! ### The number of workers -/

/-- A text says these numbers, and behind them perhaps a number of workers. A text that does not say
how many gets the usual number. -/
def SaysWithThreads (text : String) (numbers : List Int) (threads : Int) : Prop :=
  (SaysNumbers text numbers ∧ threads = defaultThreads) ∨
    (SaysNumbers text (numbers ++ [threads]) ∧ 1 ≤ threads ∧ threads ≤ maxThreads)

theorem saysWithThreads_iff (text : String) (numbers : List Int) (threads : Int) :
    SaysWithThreads text numbers threads ↔
      ∃ front rest, SplitsAtColons text.toList (front ++ rest) ∧
        List.Forall₂ Text.Spells front numbers ∧ rest.length ≤ 1 ∧
          parseOptionalThreads (rest.map String.ofList) = .ok threads := by
  constructor
  · rintro (⟨⟨fields, splits, spelled⟩, rfl⟩ | ⟨⟨fields, splits, spelled⟩, within⟩)
    · exact ⟨fields, [], by rwa [List.append_nil], spelled, Nat.zero_le 1, rfl⟩
    · have front := List.forall₂_take_append fields numbers [threads] spelled
      have last := List.forall₂_drop_append fields numbers [threads] spelled
      rw [← List.take_append_drop numbers.length fields] at splits
      generalize fields.take numbers.length = before at splits front
      generalize fields.drop numbers.length = after at splits last
      refine ⟨before, after, splits, front, last.length_eq.le, ?_⟩
      cases last with
      | cons spells none =>
        cases none
        exact (parseInteger_eq_ok_iff _ _ _ _ _).mpr ⟨spells, within⟩
  · rintro ⟨front, rest, splits, spelled, short, parsed⟩
    cases rest with
    | nil =>
      cases parsed
      rw [List.append_nil] at splits
      exact Or.inl ⟨⟨front, splits, spelled⟩, rfl⟩
    | cons field others =>
      cases List.eq_nil_of_length_eq_zero (Nat.le_zero.mp (Nat.le_of_succ_le_succ short))
      obtain ⟨spells, within⟩ := (parseInteger_eq_ok_iff _ _ _ _ _).mp parsed
      exact Or.inr ⟨⟨front ++ [field], splits,
        List.rel_append spelled (.cons spells .nil)⟩, within⟩

/-! ### The three specs -/

/-- A text has the form of a write spec, and these are its numbers. -/
structure WriteForm (text : String) (columns size threads : Int) : Prop where
  said : SaysWithThreads text [columns, size] threads
  columns : 1 ≤ columns ∧ columns ≤ maxAverage
  size : 1 ≤ size ∧ size ≤ maxAverage

/-- A text has the form of a data spec, and these are its numbers. -/
structure DataForm (text : String) (columns size : Int) : Prop where
  said : SaysNumbers text [columns, size]
  columns : 1 ≤ columns ∧ columns ≤ maxAverage
  size : 1 ≤ size ∧ size ≤ maxAverage

/-- A text has the form of a read spec, and these are its numbers. -/
structure ReadForm (text : String) (percent threads : Int) : Prop where
  said : SaysWithThreads text [percent] threads
  percent : 0 ≤ percent ∧ percent ≤ 100

theorem forall₂_pair_iff {front : List (List Char)} {first second : Int} :
    List.Forall₂ Text.Spells front [first, second] ↔
      ∃ own other, front = [own, other] ∧ Text.Spells own first ∧ Text.Spells other second := by
  constructor
  · rintro (_ | ⟨own, _ | ⟨other, _ | _⟩⟩)
    exact ⟨_, _, rfl, own, other⟩
  · rintro ⟨own, other, rfl, spellsFirst, spellsSecond⟩
    exact .cons spellsFirst (.cons spellsSecond .nil)

theorem forall₂_singleton_iff {front : List (List Char)} {number : Int} :
    List.Forall₂ Text.Spells front [number] ↔ ∃ own, front = [own] ∧ Text.Spells own number := by
  constructor
  · rintro (_ | ⟨own, _ | _⟩)
    exact ⟨_, rfl, own⟩
  · rintro ⟨own, rfl, spells⟩
    exact .cons spells .nil

theorem exists_cons_cons {Item : Type} {items : List Item} (two : 2 ≤ items.length) :
    ∃ first second rest, items = first :: second :: rest := by
  obtain ⟨first, items, rfl⟩ := List.exists_cons_of_length_pos (Nat.lt_of_lt_of_le Nat.two_pos two)
  obtain ⟨second, rest, rfl⟩ := List.exists_cons_of_length_pos (Nat.le_of_succ_le_succ two)
  exact ⟨first, second, rest, rfl⟩

theorem parseWriteSpec_eq_ok_iff (text : String) (multiPut : Bool) (spec : WriteSpec) :
    parseWriteSpec text multiPut = .ok spec ↔
      ∃ columns size, WriteForm text columns size spec.threads ∧
        Bounds.ofAverages columns size = .ok spec.bounds ∧ spec.multiPut = multiPut := by
  constructor
  · intro parsed
    obtain ⟨texts, isFields, parsed⟩ := bind_eq_ok.mp parsed
    obtain ⟨fields, splits, rfl, two, three⟩ := (splitFields_eq_ok_iff _ _ _ _ _).mp isFields
    obtain ⟨first, second, rest, rfl⟩ := exists_cons_cons (Int.ofNat_le.mp two)
    obtain ⟨bounds, isBounds, parsed⟩ := bind_eq_ok.mp parsed
    obtain ⟨threads, isThreads, parsed⟩ := bind_eq_ok.mp parsed
    cases parsed
    obtain ⟨columns, size, spellsColumns, spellsSize, columnsOk, sizeOk, made⟩ :=
      (parseAverages_eq_ok_iff _ _ _).mp isBounds
    have short : rest.length ≤ 1 := Nat.le_of_add_le_add_right (b := 2) (Int.ofNat_le.mp three)
    exact ⟨columns, size, ⟨(saysWithThreads_iff _ _ _).mpr ⟨[first, second], rest, splits,
      .cons spellsColumns (.cons spellsSize .nil), short, isThreads⟩, columnsOk, sizeOk⟩, made, rfl⟩
  · rintro ⟨columns, size, ⟨said, columnsOk, sizeOk⟩, made, rfl⟩
    obtain ⟨front, rest, splits, spelled, short, isThreads⟩ := (saysWithThreads_iff _ _ _).mp said
    obtain ⟨first, second, rfl, spellsColumns, spellsSize⟩ := forall₂_pair_iff.mp spelled
    have isFields : splitFields "write" text 2 3 =
        .ok (String.ofList first :: String.ofList second :: rest.map String.ofList) :=
      (splitFields_eq_ok_iff _ _ _ _ _).mpr ⟨_, splits, rfl, by simp; omega, by simp; omega⟩
    have isBounds := (parseAverages_eq_ok_iff first second spec.bounds).mpr
      ⟨columns, size, spellsColumns, spellsSize, columnsOk, sizeOk, made⟩
    exact bind_eq_ok.mpr ⟨_, isFields, bind_eq_ok.mpr ⟨_, isBounds,
      bind_eq_ok.mpr ⟨_, isThreads, rfl⟩⟩⟩

theorem parseDataSpec_eq_ok_iff (text : String) (bounds : Bounds) :
    parseDataSpec text = .ok bounds ↔
      ∃ columns size, DataForm text columns size ∧ Bounds.ofAverages columns size = .ok bounds := by
  constructor
  · intro parsed
    obtain ⟨texts, isFields, parsed⟩ := bind_eq_ok.mp parsed
    obtain ⟨fields, splits, rfl, two, most⟩ := (splitFields_eq_ok_iff _ _ _ _ _).mp isFields
    obtain ⟨first, second, rest, rfl⟩ := exists_cons_cons (Int.ofNat_le.mp two)
    cases List.eq_nil_of_length_eq_zero (Nat.le_zero.mp
      (Nat.le_of_add_le_add_right (b := 2) (Int.ofNat_le.mp most)))
    obtain ⟨columns, size, spellsColumns, spellsSize, columnsOk, sizeOk, made⟩ :=
      (parseAverages_eq_ok_iff _ _ _).mp parsed
    exact ⟨columns, size, ⟨⟨_, splits, .cons spellsColumns (.cons spellsSize .nil)⟩, columnsOk,
      sizeOk⟩, made⟩
  · rintro ⟨columns, size, ⟨⟨fields, splits, spelled⟩, columnsOk, sizeOk⟩, made⟩
    obtain ⟨first, second, rfl, spellsColumns, spellsSize⟩ := forall₂_pair_iff.mp spelled
    have isFields : splitFields "data" text 2 2 = .ok [String.ofList first, String.ofList second] :=
      (splitFields_eq_ok_iff _ _ _ _ _).mpr ⟨_, splits, rfl, by simp, by simp⟩
    exact bind_eq_ok.mpr ⟨_, isFields, (parseAverages_eq_ok_iff first second bounds).mpr
      ⟨columns, size, spellsColumns, spellsSize, columnsOk, sizeOk, made⟩⟩

theorem parseReadFields_eq_ok_iff (text : String) (percent threads : Int) :
    parseReadFields text = .ok (percent, threads) ↔ ReadForm text percent threads := by
  constructor
  · intro parsed
    obtain ⟨texts, isFields, parsed⟩ := bind_eq_ok.mp parsed
    obtain ⟨fields, splits, rfl, one, two⟩ := (splitFields_eq_ok_iff _ _ _ _ _).mp isFields
    obtain ⟨field, rest, rfl⟩ := List.exists_cons_of_length_pos (Int.ofNat_lt.mp one)
    obtain ⟨number, isPercent, parsed⟩ := bind_eq_ok.mp parsed
    obtain ⟨workers, isThreads, parsed⟩ := bind_eq_ok.mp parsed
    cases parsed
    obtain ⟨spells, percentOk⟩ := (parseInteger_eq_ok_iff _ _ _ _ _).mp isPercent
    have short : rest.length ≤ 1 := Nat.le_of_add_le_add_right (b := 1) (Int.ofNat_le.mp two)
    exact ⟨(saysWithThreads_iff _ _ _).mpr ⟨[field], rest, splits, .cons spells .nil, short,
      isThreads⟩, percentOk⟩
  · rintro ⟨said, percentOk⟩
    obtain ⟨front, rest, splits, spelled, short, isThreads⟩ := (saysWithThreads_iff _ _ _).mp said
    obtain ⟨field, rfl, spells⟩ := forall₂_singleton_iff.mp spelled
    have isFields : splitFields "read" text 1 2 =
        .ok (String.ofList field :: rest.map String.ofList) :=
      (splitFields_eq_ok_iff _ _ _ _ _).mpr ⟨_, splits, rfl, by simp, by simp; omega⟩
    have isPercent := (parseInteger_eq_ok_iff field 0 100 percent "verify percent").mpr
      ⟨spells, percentOk⟩
    exact bind_eq_ok.mpr ⟨_, isFields, bind_eq_ok.mpr ⟨_, isPercent,
      bind_eq_ok.mpr ⟨_, isThreads, rfl⟩⟩⟩

theorem checkMaxErrors_eq_ok_iff (limit maxErrors : Int) :
    checkMaxErrors limit = .ok maxErrors ↔ 0 ≤ limit ∧ maxErrors = limit := by
  rw [checkMaxErrors]
  split
  · rename_i negative
    simp [Int.not_le.mpr negative]
  · rename_i nonneg
    simp [Int.not_lt.mp nonneg, eq_comm]

theorem checkKeyWindow_eq_ok_iff (window keyWindow : Int) :
    checkKeyWindow window = .ok keyWindow ↔ 0 ≤ window ∧ keyWindow = window := by
  rw [checkKeyWindow]
  split
  · rename_i negative
    simp [Int.not_le.mpr negative]
  · rename_i nonneg
    simp [Int.not_lt.mp nonneg, eq_comm]

theorem parseReadSpec_eq_ok_iff (text : String) (limit window : Int) (spec : ReadSpec) :
    parseReadSpec text limit window = .ok spec ↔
      ReadForm text spec.verifyPercent spec.threads ∧ (0 ≤ limit ∧ spec.maxErrors = limit) ∧
        0 ≤ window ∧ spec.keyWindow = window := by
  constructor
  · intro parsed
    obtain ⟨⟨percent, threads⟩, isFields, parsed⟩ := bind_eq_ok.mp parsed
    obtain ⟨maxErrors, isLimit, parsed⟩ := bind_eq_ok.mp parsed
    obtain ⟨keyWindow, isWindow, parsed⟩ := bind_eq_ok.mp parsed
    cases parsed
    exact ⟨(parseReadFields_eq_ok_iff _ _ _).mp isFields, (checkMaxErrors_eq_ok_iff _ _).mp isLimit,
      (checkKeyWindow_eq_ok_iff _ _).mp isWindow⟩
  · rintro ⟨form, isLimit, isWindow⟩
    exact bind_eq_ok.mpr ⟨_, (parseReadFields_eq_ok_iff _ _ _).mpr form,
      bind_eq_ok.mpr ⟨_, (checkMaxErrors_eq_ok_iff _ _).mpr isLimit,
        bind_eq_ok.mpr ⟨_, (checkKeyWindow_eq_ok_iff _ _).mpr isWindow, rfl⟩⟩⟩

theorem reported_parseReadSpec (text : String) (limit window : Int) :
    FailsOnly ConfigError.Reported (parseReadSpec text limit window) :=
  (reported_parseReadFields text).bind fun _ _ => (reported_checkMaxErrors limit).bind fun _ _ =>
    (reported_checkKeyWindow window).bind fun _ _ => failsOnly_ok _

/-! ### Decimal forms between colons -/

/-- Numbers in decimal form, joined by colons. -/
def colonText (numbers : List Int) : String :=
  String.ofList ([':'].intercalate (numbers.map Text.decimal))

/-- Numbers that may be written are what their decimal forms say. -/
theorem saysNumbers_colonText {numbers : List Int} (some_number : numbers ≠ [])
    (writable : ∀ number ∈ numbers, isUnwritable number = false) :
    SaysNumbers (colonText numbers) numbers := by
  refine ⟨numbers.map Text.decimal, ⟨by simpa using some_number, ?_, ?_⟩, ?_⟩
  · intro field member colon
    obtain ⟨number, -, rfl⟩ := List.mem_map.mp member
    exact absurd (isDecimal_of_mem_decimal number ':' colon) (by decide)
  · rw [colonText, String.toList_ofList]
  · rw [List.forall₂_map_left_iff, List.forall₂_same]
    exact fun number member => Text.spells_decimal (writable number member)

/-- The numbers that a spec may hold are short enough to be written. -/
theorem writable_of_le {number : Int} (nonneg : 0 ≤ number) (small : number ≤ maxAverage) :
    isUnwritable number = false := by
  have few : (Nat.toDigits 10 number.natAbs).length ≤ 10 := by
    rw [Nat.length_toDigits_le_iff (by decide) (by decide)]
    unfold maxAverage at small
    omega
  exact decide_eq_false (Nat.not_lt.mpr (Nat.le_trans few (by decide)))

/-- Numbers within their limits are what the text of their decimal forms says, with or without a
number of workers behind them. -/
theorem saysWithThreads_colonText {numbers : List Int} {threads : Int} (some_number : numbers ≠ [])
    (writable : ∀ number ∈ numbers, isUnwritable number = false)
    (threadsOk : 1 ≤ threads ∧ threads ≤ maxThreads) :
    SaysWithThreads (colonText numbers) numbers defaultThreads ∧
      SaysWithThreads (colonText (numbers ++ [threads])) numbers threads := by
  have small : threads ≤ maxAverage := Int.le_trans threadsOk.2 (by decide)
  refine ⟨Or.inl ⟨saysNumbers_colonText some_number writable, rfl⟩,
    Or.inr ⟨saysNumbers_colonText (by simp) ?_, threadsOk⟩⟩
  intro number member
  rcases List.mem_append.mp member with among | last
  · exact writable number among
  · cases List.mem_singleton.mp last
    exact writable_of_le (Int.le_trans (by decide) threadsOk.1) small

/-- A reader takes its text exactly when that has a certain form, gives back exactly what the text
stands for, and refuses everything else as a configuration. -/
structure TakesExactly {Spec : Type} (parsed : Except ConfigError Spec) (form : Prop)
    (stands : Spec → Prop) : Prop where
  taken_iff : (∃ spec, parsed = .ok spec) ↔ form
  ok_iff : ∀ spec, parsed = .ok spec ↔ stands spec
  refused : ∀ error, parsed = .error error → error.kind = "ConfigurationError"

theorem takesExactly_parseWriteSpec (text : String) (multiPut : Bool) :
    TakesExactly (parseWriteSpec text multiPut)
      (∃ columns size threads, WriteForm text columns size threads)
      fun spec => ∃ columns size, WriteForm text columns size spec.threads ∧
        Bounds.ofAverages columns size = .ok spec.bounds ∧ spec.multiPut = multiPut where
  taken_iff := by
    simp only [parseWriteSpec_eq_ok_iff]
    constructor
    · rintro ⟨spec, columns, size, form, -⟩
      exact ⟨columns, size, spec.threads, form⟩
    · rintro ⟨columns, size, threads, form⟩
      obtain ⟨bounds, made, -⟩ := exists_ofAverages form.columns.1 form.size.1
      exact ⟨⟨bounds, threads, multiPut⟩, columns, size, form, made, rfl⟩
  ok_iff := parseWriteSpec_eq_ok_iff text multiPut
  refused := reported_parseWriteSpec text multiPut

theorem takesExactly_parseDataSpec (text : String) :
    TakesExactly (parseDataSpec text) (∃ columns size, DataForm text columns size)
      fun bounds => ∃ columns size, DataForm text columns size ∧
        Bounds.ofAverages columns size = .ok bounds where
  taken_iff := by
    simp only [parseDataSpec_eq_ok_iff]
    constructor
    · rintro ⟨bounds, columns, size, form, -⟩
      exact ⟨columns, size, form⟩
    · rintro ⟨columns, size, form⟩
      obtain ⟨bounds, made, -⟩ := exists_ofAverages form.columns.1 form.size.1
      exact ⟨bounds, columns, size, form, made⟩
  ok_iff := parseDataSpec_eq_ok_iff text
  refused := reported_parseDataSpec text

theorem takesExactly_parseReadSpec (text : String) (limit window : Int) :
    TakesExactly (parseReadSpec text limit window)
      ((∃ percent threads, ReadForm text percent threads) ∧ 0 ≤ limit ∧ 0 ≤ window)
      fun spec => ReadForm text spec.verifyPercent spec.threads ∧
        (0 ≤ limit ∧ spec.maxErrors = limit) ∧ 0 ≤ window ∧ spec.keyWindow = window where
  taken_iff := by
    simp only [parseReadSpec_eq_ok_iff]
    constructor
    · rintro ⟨spec, form, ⟨limitOk, -⟩, windowOk, -⟩
      exact ⟨⟨spec.verifyPercent, spec.threads, form⟩, limitOk, windowOk⟩
    · rintro ⟨⟨percent, threads, form⟩, limitOk, windowOk⟩
      exact ⟨⟨percent, threads, limit, window⟩, form, ⟨limitOk, rfl⟩, windowOk, rfl⟩
  ok_iff := parseReadSpec_eq_ok_iff text limit window
  refused := reported_parseReadSpec text limit window

/-- Each spec is taken exactly when its fields spell as many numbers as it may have, within their
limits, and then stands for these numbers; a spec that does not say how many workers gets the usual
number, and averages stand for the bounds around them. Everything else is refused as a
configuration. Numbers within their limits, written in decimal form between colons, are read
back. -/
theorem specs_are_taken_exactly (text : String) (multiPut : Bool) (limit window : Int) :
    TakesExactly (parseWriteSpec text multiPut)
      (∃ columns size threads, WriteForm text columns size threads)
      (fun spec => ∃ columns size, WriteForm text columns size spec.threads ∧
        Bounds.ofAverages columns size = .ok spec.bounds ∧ spec.multiPut = multiPut) ∧
    TakesExactly (parseDataSpec text) (∃ columns size, DataForm text columns size)
      (fun bounds => ∃ columns size, DataForm text columns size ∧
        Bounds.ofAverages columns size = .ok bounds) ∧
    TakesExactly (parseReadSpec text limit window)
      ((∃ percent threads, ReadForm text percent threads) ∧ 0 ≤ limit ∧ 0 ≤ window)
      (fun spec => ReadForm text spec.verifyPercent spec.threads ∧
        (0 ≤ limit ∧ spec.maxErrors = limit) ∧ 0 ≤ window ∧ spec.keyWindow = window) ∧
    ∀ columns size threads percent : Int, (1 ≤ columns ∧ columns ≤ maxAverage) →
      (1 ≤ size ∧ size ≤ maxAverage) → (1 ≤ threads ∧ threads ≤ maxThreads) →
      (0 ≤ percent ∧ percent ≤ 100) →
        ∃ bounds, Bounds.ofAverages columns size = .ok bounds ∧
          parseDataSpec (colonText [columns, size]) = .ok bounds ∧
          parseWriteSpec (colonText [columns, size]) multiPut =
            .ok ⟨bounds, defaultThreads, multiPut⟩ ∧
          parseWriteSpec (colonText [columns, size, threads]) multiPut =
            .ok ⟨bounds, threads, multiPut⟩ ∧
          (0 ≤ limit → 0 ≤ window →
            parseReadSpec (colonText [percent]) limit window =
              .ok ⟨percent, defaultThreads, limit, window⟩ ∧
            parseReadSpec (colonText [percent, threads]) limit window =
              .ok ⟨percent, threads, limit, window⟩) := by
  refine ⟨takesExactly_parseWriteSpec text multiPut, takesExactly_parseDataSpec text,
    takesExactly_parseReadSpec text limit window, ?_⟩
  intro columns size threads percent columnsOk sizeOk threadsOk percentOk
  obtain ⟨bounds, made, -⟩ := exists_ofAverages columnsOk.1 sizeOk.1
  have writableColumns := writable_of_le (by omega) columnsOk.2
  have writableSize := writable_of_le (by omega) sizeOk.2
  have writablePercent := writable_of_le percentOk.1 (Int.le_trans percentOk.2 (by decide))
  have writable : ∀ number ∈ [columns, size], isUnwritable number = false := by
    simp [writableColumns, writableSize]
  obtain ⟨saidAlone, saidWithThreads⟩ :=
    saysWithThreads_colonText (List.cons_ne_nil columns [size]) writable threadsOk
  obtain ⟨percentAlone, percentWithThreads⟩ :=
    saysWithThreads_colonText (List.cons_ne_nil percent []) (by simp [writablePercent]) threadsOk
  refine ⟨bounds, made, ?_, ?_, ?_, fun limitOk windowOk => ⟨?_, ?_⟩⟩
  · exact (parseDataSpec_eq_ok_iff _ _).mpr ⟨columns, size,
      ⟨saysNumbers_colonText (List.cons_ne_nil columns [size]) writable, columnsOk, sizeOk⟩, made⟩
  · exact (parseWriteSpec_eq_ok_iff _ _ _).mpr
      ⟨columns, size, ⟨saidAlone, columnsOk, sizeOk⟩, made, rfl⟩
  · exact (parseWriteSpec_eq_ok_iff _ _ _).mpr
      ⟨columns, size, ⟨saidWithThreads, columnsOk, sizeOk⟩, made, rfl⟩
  · exact (parseReadSpec_eq_ok_iff _ _ _ _).mpr
      ⟨⟨percentAlone, percentOk⟩, ⟨limitOk, rfl⟩, windowOk, rfl⟩
  · exact (parseReadSpec_eq_ok_iff _ _ _ _).mpr
      ⟨⟨percentWithThreads, percentOk⟩, ⟨limitOk, rfl⟩, windowOk, rfl⟩

/-- A write spec of ten columns, twelve bytes and seven workers. The first number has a blank, a
sign and an underscore, the second a leading zero and digits of another script. -/
def oddSpec : String := "\u00a0+1_0:\u0660\u0661\u0662 :7"

theorem writeForm_oddSpec : WriteForm oddSpec 10 12 7 where
  said := by
    have splits : colonFields oddSpec.toList =
        [['\u00a0', '+', '1', '_', '0'], ['\u0660', '\u0661', '\u0662', ' '], ['7']] := by
      decide
    have bare : ∀ character ∈ [], Text.IsMargin character := nofun
    have hardBlank : ∀ character ∈ ['\u00a0'], Text.IsMargin character := by
      simp [Text.IsMargin, Text.isBlank]
    have blank : ∀ character ∈ [' '], Text.IsMargin character := by simp [Text.IsMargin]
    have oneZero : Text.SpellsDigits ['1', '_', '0'] [1, 0] := .separated rfl (.last rfl)
    have zeroOneTwo : Text.SpellsDigits ['\u0660', '\u0661', '\u0662'] [0, 1, 2] :=
      .next rfl (.next rfl (.last rfl))
    have ten : Text.Spells ['\u00a0', '+', '1', '_', '0'] 10 :=
      .number hardBlank .plus oneZero (by decide) bare
    have twelve : Text.Spells ['\u0660', '\u0661', '\u0662', ' '] 12 :=
      .number bare .unsigned zeroOneTwo (by decide) blank
    have onlySeven : Text.SpellsDigits ['7'] [7] := .last rfl
    have seven : Text.Spells ['7'] 7 := .number bare .unsigned onlySeven (by decide) bare
    exact Or.inr ⟨⟨_, (splitsAtColons_iff _ _).mpr splits,
      .cons ten (.cons twelve (.cons seven .nil))⟩, by decide⟩
  columns := by decide
  size := by decide

theorem specs_are_taken_exactly_of_odd_spec :
    (∃ spec, parseWriteSpec oddSpec true = .ok spec ∧ spec.threads = 7 ∧
        spec.bounds.maxColumns = 20) ∧
      parseReadSpec (colonText [75, 4]) 3 100 = .ok ⟨75, 4, 3, 100⟩ := by
  obtain ⟨written, -, -, readBack⟩ := specs_are_taken_exactly oddSpec true 3 100
  obtain ⟨bounds, made, -, maxColumns, -⟩ :=
    exists_ofAverages (show (1 : Int) ≤ 10 by decide) (show (1 : Int) ≤ 12 by decide)
  obtain ⟨-, -, -, -, -, reads⟩ :=
    readBack 10 12 4 75 (by decide) (by decide) (by decide) (by decide)
  exact ⟨⟨⟨bounds, 7, true⟩,
    (written.ok_iff ⟨bounds, 7, true⟩).mpr ⟨10, 12, writeForm_oddSpec, made, rfl⟩, rfl,
      Int.ofNat_inj.mp maxColumns⟩, (reads (by decide) (by decide)).2⟩

end LoadVerifier
