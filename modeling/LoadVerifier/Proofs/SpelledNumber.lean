/-
This file says which texts are read as whole numbers, and as which. A number is spelled by an
optional sign and by digits of any script, of which two neighbours may have one underscore between
them; blanks may stand around the whole. There may be no more than 4300 digits, and leading zeros
count. The reader takes exactly the texts of this grammar, and gives back the number they spell.

The decimal form of a number is one of its spellings, so whatever may be written can be read back.
-/
import LoadVerifier.Error
import LoadVerifier.Proofs.DecimalText
import LoadVerifier.Text.Integer
import Mathlib.Data.List.Basic
import Mathlib.Data.List.DropRight
import Mathlib.Data.List.Induction
import Mathlib.Data.Nat.Digits.Defs
import Mathlib.Tactic.IntervalCases

namespace LoadVerifier.Text

/-! ### The grammar -/

/-- A character that may stand around a number: the blanks of ASCII from the tab to the carriage
return, the space, and every blank beyond ASCII. -/
def IsMargin (character : Char) : Prop :=
  character = ' ' ∨ (0x9 ≤ character.toNat ∧ character.toNat ≤ 0xd) ∨
    (127 ≤ character.toNat ∧ isBlank character = true)

/-- How a sign may be spelled, and the factor it stands for. -/
inductive SpellsSign : List Char → Int → Prop
  | unsigned : SpellsSign [] 1
  | plus : SpellsSign ['+'] 1
  | minus : SpellsSign ['-'] (-1)

/-- Characters that spell digits: digits of any script, of which two neighbours may have one
underscore between them. -/
inductive SpellsDigits : List Char → List Nat → Prop
  | last {character : Char} {digit : Nat} (found : digitValue? character = some digit) :
    SpellsDigits [character] [digit]
  | next {character : Char} {digit : Nat} {run : List Char} {digits : List Nat}
    (found : digitValue? character = some digit) (rest : SpellsDigits run digits) :
    SpellsDigits (character :: run) (digit :: digits)
  | separated {character : Char} {digit : Nat} {run : List Char} {digits : List Nat}
    (found : digitValue? character = some digit) (rest : SpellsDigits run digits) :
    SpellsDigits (character :: '_' :: run) (digit :: digits)

/-- Characters that spell a whole number. -/
inductive Spells : List Char → Int → Prop
  | number {before sign run after : List Char} {factor : Int} {digits : List Nat}
    (before_margin : ∀ character ∈ before, IsMargin character)
    (signed : SpellsSign sign factor) (spelled : SpellsDigits run digits)
    (few : digits.length ≤ maxDigits)
    (after_margin : ∀ character ∈ after, IsMargin character) :
    Spells (before ++ (sign ++ run) ++ after) (factor * (Nat.ofDigits 10 digits.reverse : Nat))

/-! ### What becomes of one character -/

/-- A digit stands some places behind the zero of its script. -/
theorem exists_start_of_digitValue? {character : Char} {digit : Nat}
    (found : digitValue? character = some digit) :
    ∃ start ∈ digitZeros, character.toNat = start + digit ∧ digit < 10 := by
  have small := digitValue?_lt character digit found
  obtain ⟨start, isStart, rfl⟩ := Option.map_eq_some_iff.mp found
  have bounds := List.find?_some isStart
  simp only [Bool.and_eq_true, decide_eq_true_eq] at bounds
  exact ⟨start, List.mem_of_find?_eq_some isStart, by omega, small⟩

/-- No digit of any script is a blank. -/
theorem isBlank_of_digitValue? {character : Char} {digit : Nat}
    (found : digitValue? character = some digit) : isBlank character = false := by
  have visible : ∀ start ∈ digitZeros, ∀ place < 10,
      isBlank (Char.ofNat (start + place)) = false := by
    decide +kernel
  obtain ⟨start, member, code, small⟩ := exists_start_of_digitValue? found
  rw [← Char.ofNat_toNat character, code]
  exact visible start member digit small

/-- Below the end of ASCII there are no digits but those of ASCII. -/
theorem digitChar_of_digitValue?_of_lt {character : Char} {digit : Nat}
    (ascii : character.toNat < 127) (found : digitValue? character = some digit) :
    Nat.digitChar digit = character := by
  have high : ∀ start ∈ digitZeros, start = 48 ∨ 127 ≤ start := by decide
  obtain ⟨start, member, code, small⟩ := exists_start_of_digitValue? found
  have first : start = 48 := by
    rcases high start member with first | above
    · exact first
    · omega
  refine Char.toNat_inj.mp ?_
  rw [Nat.toNat_digitChar_of_lt_ten small, code, first]

theorem digitValue?_of_isDigit {character : Char} (isDigit : character.isDigit = true) :
    digitValue? character = some (character.toNat - 48) := by
  simp only [Char.isDigit, Bool.and_eq_true, decide_eq_true_eq, ge_iff_le,
    UInt32.le_iff_toNat_le] at isDigit
  have within : 48 ≤ character.toNat ∧ character.toNat < 48 + 10 :=
    ⟨isDigit.1, Nat.lt_succ_of_le isDigit.2⟩
  rw [digitValue?, digitZeros, List.find?_cons_of_pos (by simpa using within)]
  rfl

theorem toPlainCharacter_of_digitValue? {character : Char} {digit : Nat}
    (found : digitValue? character = some digit) :
    toPlainCharacter character = Nat.digitChar digit := by
  unfold toPlainCharacter
  split
  · exact (digitChar_of_digitValue?_of_lt ‹_› found).symm
  · rw [if_neg (by simp [isBlank_of_digitValue? found]), found]

theorem isDigit_digitChar {digit : Nat} (small : digit < 10) :
    (Nat.digitChar digit).isDigit = true := by
  interval_cases digit <;> rfl

/-- What becomes a digit of ASCII is a digit. -/
theorem exists_digitValue?_of_isDigit {character : Char}
    (isDigit : (toPlainCharacter character).isDigit = true) :
    ∃ digit, digitValue? character = some digit := by
  unfold toPlainCharacter at isDigit
  split at isDigit
  · exact ⟨_, digitValue?_of_isDigit isDigit⟩
  · split at isDigit
    · cases isDigit
    · split at isDigit
      · exact ⟨_, ‹_›⟩
      · exact ⟨_, digitValue?_of_isDigit isDigit⟩

/-- A mark of ASCII, neither a space nor a digit, comes from itself alone. -/
theorem toPlainCharacter_eq_iff {mark character : Char} (ascii : mark.toNat < 127)
    (solid : mark ≠ ' ') (symbol : mark.isDigit = false) :
    toPlainCharacter character = mark ↔ character = mark := by
  constructor
  · intro equal
    unfold toPlainCharacter at equal
    split at equal
    · exact equal
    · split at equal
      · exact absurd equal.symm solid
      · split at equal
        · rename_i digit found
          rw [← equal, isDigit_digitChar (digitValue?_lt _ _ found)] at symbol
          cases symbol
        · exact equal
  · rintro rfl
    exact if_pos ascii

theorem isPadding_iff (character : Char) : isPadding character = true ↔
    character = ' ' ∨ (0x9 ≤ character.toNat ∧ character.toNat ≤ 0xd) := by
  simp [isPadding]

theorem isPadding_of_digitValue? {character : Char} {digit : Nat}
    (found : digitValue? character = some digit) :
    isPadding (toPlainCharacter character) = false := by
  have code := Nat.toNat_digitChar_of_lt_ten (digitValue?_lt character digit found)
  rw [toPlainCharacter_of_digitValue? found, Bool.eq_false_iff, Ne, isPadding_iff]
  rintro (space | low)
  · rw [space] at code
    exact absurd code (by simp; omega)
  · omega

/-- What may stand around a number is what becomes padding. -/
theorem isPadding_toPlainCharacter_iff (character : Char) :
    isPadding (toPlainCharacter character) = true ↔ IsMargin character := by
  by_cases ascii : character.toNat < 127
  · have inside : ¬127 ≤ character.toNat := Nat.not_le.mpr ascii
    rw [toPlainCharacter, if_pos ascii, isPadding_iff, IsMargin]
    simp [inside]
  have beyond : 127 ≤ character.toNat := Nat.not_lt.mp ascii
  have notPadding : isPadding character = false := by
    rw [Bool.eq_false_iff, Ne, isPadding_iff]
    rintro (rfl | low)
    · exact ascii (by decide)
    · omega
  by_cases blank : isBlank character = true
  · rw [toPlainCharacter, if_neg ascii, if_pos blank]
    exact ⟨fun _ => Or.inr (Or.inr ⟨beyond, blank⟩), fun _ => rfl⟩
  have notMargin : ¬IsMargin character := by
    rintro (space | low | high)
    · exact absurd ((isPadding_iff character).mpr (Or.inl space)) (by simp [notPadding])
    · omega
    · exact blank high.2
  refine iff_of_false ?_ notMargin
  cases found : digitValue? character with
  | none => simp [toPlainCharacter, ascii, blank, found, notPadding]
  | some digit => simp [isPadding_of_digitValue? found]

/-! ### What becomes of a text -/

theorem SpellsDigits.small {run : List Char} {digits : List Nat}
    (spelled : SpellsDigits run digits) : ∀ digit ∈ digits, digit < 10 := by
  induction spelled with
  | last found =>
    intro digit member
    rw [List.mem_singleton.mp member]
    exact digitValue?_lt _ _ found
  | next found _ inductionHypothesis | separated found _ inductionHypothesis =>
    intro digit member
    rcases List.mem_cons.mp member with rfl | later
    · exact digitValue?_lt _ _ found
    · exact inductionHypothesis digit later

/-- A spelling of digits begins and ends with a digit. -/
theorem SpellsDigits.ends {run : List Char} {digits : List Nat}
    (spelled : SpellsDigits run digits) :
    (∃ first rest digit, run = first :: rest ∧ digitValue? first = some digit) ∧
      ∃ front last digit, run = front ++ [last] ∧ digitValue? last = some digit := by
  induction spelled with
  | last found => exact ⟨⟨_, [], _, rfl, found⟩, [], _, _, rfl, found⟩
  | @next character digit run digits found _ inductionHypothesis =>
    obtain ⟨_, front, last, digit, rfl, isLast⟩ := inductionHypothesis
    exact ⟨⟨_, _, _, rfl, found⟩, character :: front, last, digit, rfl, isLast⟩
  | @separated character digit run digits found _ inductionHypothesis =>
    obtain ⟨_, front, last, digit, rfl, isLast⟩ := inductionHypothesis
    exact ⟨⟨_, _, _, rfl, found⟩, character :: '_' :: front, last, digit, rfl, isLast⟩

theorem digitRun?_cons_cons (first second : Char) (rest : List Char) :
    digitRun? (first :: second :: rest) =
      if first.isDigit then
        (if second = '_' then digitRun? rest else digitRun? (second :: rest)).map (first :: ·)
      else none := by
  by_cases separated : second = '_'
  · subst separated
    rw [if_pos rfl, digitRun?]
  · rw [if_neg separated, digitRun?]
    exact fun equal => absurd equal separated

theorem toPlainCharacter_eq_underscore_iff (character : Char) :
    toPlainCharacter character = '_' ↔ character = '_' :=
  toPlainCharacter_eq_iff (by decide) (by decide) rfl

theorem exists_digits_of_digitRun? (run plain : List Char)
    (read : digitRun? (run.map toPlainCharacter) = some plain) :
    ∃ digits, SpellsDigits run digits ∧ plain = digits.map Nat.digitChar := by
  -- An underscore is dropped with the digit before it, so the reader may take two at once.
  induction run using List.twoStepInduction generalizing plain with
  | nil => cases read
  | singleton character =>
    rw [List.map_singleton, digitRun?] at read
    split at read
    · rename_i isDigit
      obtain ⟨digit, found⟩ := exists_digitValue?_of_isDigit isDigit
      cases read
      exact ⟨[digit], .last found, by rw [toPlainCharacter_of_digitValue? found]; rfl⟩
    · cases read
  | cons_cons character second rest afterSeparator afterDigit =>
    rw [List.map_cons, List.map_cons, digitRun?_cons_cons] at read
    split at read
    · rename_i isDigit
      obtain ⟨digit, found⟩ := exists_digitValue?_of_isDigit isDigit
      obtain ⟨later, readLater, rfl⟩ := Option.map_eq_some_iff.mp read
      rw [toPlainCharacter_of_digitValue? found]
      split at readLater
      · rename_i isMark
        obtain ⟨digits, spelled, rfl⟩ := afterSeparator later readLater
        cases (toPlainCharacter_eq_underscore_iff second).mp isMark
        exact ⟨digit :: digits, .separated found spelled, rfl⟩
      · obtain ⟨digits, spelled, rfl⟩ := afterDigit second later readLater
        exact ⟨digit :: digits, .next found spelled, rfl⟩
    · cases read

theorem SpellsDigits.digitRun? {run : List Char} {digits : List Nat}
    (spelled : SpellsDigits run digits) :
    digitRun? (run.map toPlainCharacter) = some (digits.map Nat.digitChar) := by
  have isDigit : ∀ {character digit}, digitValue? character = some digit →
      (Nat.digitChar digit).isDigit = true :=
    fun found => isDigit_digitChar (digitValue?_lt _ _ found)
  induction spelled with
  | last found =>
    rw [List.map_singleton, toPlainCharacter_of_digitValue? found, Text.digitRun?,
      if_pos (isDigit found)]
    rfl
  | next found spelled inductionHypothesis =>
    obtain ⟨⟨first, rest, digit, rfl, isFirst⟩, -⟩ := spelled.ends
    have solid : toPlainCharacter first ≠ '_' := by
      rw [Ne, toPlainCharacter_eq_underscore_iff]
      rintro rfl
      cases isFirst
    rw [List.map_cons, List.map_cons, digitRun?_cons_cons, if_neg solid, ← List.map_cons,
      inductionHypothesis, toPlainCharacter_of_digitValue? found, if_pos (isDigit found)]
    rfl
  | separated found _ inductionHypothesis =>
    rw [List.map_cons, List.map_cons, digitRun?_cons_cons,
      if_pos ((toPlainCharacter_eq_underscore_iff '_').mpr rfl), inductionHypothesis,
      toPlainCharacter_of_digitValue? found, if_pos (isDigit found)]
    rfl

theorem ofDigitChars_eq_ofDigits (characters : List Char) :
    Nat.ofDigitChars 10 characters 0 = Nat.ofDigits 10 (characters.map fun character =>
      character.toNat - '0'.toNat).reverse := by
  rw [Nat.ofDigitChars, Nat.ofDigits_eq_foldr, List.foldr_reverse, List.foldl_map]
  exact List.foldl_ext _ _ _ fun sofar _ _ => Nat.add_comm _ _

/-- The value of plain digits is that of the digits they are written for. -/
theorem ofDigitChars_map_digitChar (digits : List Nat) (small : ∀ digit ∈ digits, digit < 10) :
    Nat.ofDigitChars 10 (digits.map Nat.digitChar) 0 = Nat.ofDigits 10 digits.reverse := by
  have read : ∀ digit ∈ digits, (Nat.digitChar digit).toNat - '0'.toNat = digit := by
    intro digit member
    rw [Nat.toNat_digitChar_of_lt_ten (small digit member)]
    exact Nat.add_sub_cancel_left 48 digit
  rw [ofDigitChars_eq_ofDigits, List.map_map]
  exact congrArg (fun values => Nat.ofDigits 10 values.reverse)
    ((List.map_congr_left read).trans (List.map_id digits))

/-! ### The padding and the sign -/

/-- Stripping drops the padding around a text that neither begins nor ends with padding. -/
theorem strip_append {before core after rest front : List Char} {first last : Char}
    (before_padding : ∀ character ∈ before, isPadding character = true)
    (starts : core = first :: rest) (first_solid : isPadding first = false)
    (ends : core = front ++ [last]) (last_solid : isPadding last = false)
    (after_padding : ∀ character ∈ after, isPadding character = true) :
    strip (before ++ core ++ after) = core := by
  have dropsBefore : (before ++ core ++ after).dropWhile isPadding = core ++ after := by
    rw [List.append_assoc, List.dropWhile_append_of_pos before_padding, starts, List.cons_append,
      List.dropWhile_cons_of_neg (by simp [first_solid])]
  have dropsAfter : (core ++ after).reverse.dropWhile isPadding = core.reverse := by
    rw [List.reverse_append, List.dropWhile_append_of_pos (by simpa using after_padding), ends,
      List.reverse_concat, List.dropWhile_cons_of_neg (by simp [last_solid])]
  rw [strip, dropsBefore, dropsAfter, List.reverse_reverse]

/-- Whatever is stripped off a text is padding. -/
theorem exists_padding (text : List Char) :
    ∃ before after, text = before ++ strip text ++ after ∧
      (∀ character ∈ before, isPadding character = true) ∧
        ∀ character ∈ after, isPadding character = true := by
  refine ⟨text.takeWhile isPadding, (text.dropWhile isPadding).rtakeWhile isPadding, ?_,
    fun character => List.mem_takeWhile_imp, fun character => List.mem_rtakeWhile_imp⟩
  have stripped : strip text = (text.dropWhile isPadding).rdropWhile isPadding := rfl
  rw [stripped, List.append_assoc, List.rdropWhile_append_rtakeWhile,
    List.takeWhile_append_dropWhile]

theorem splitSign_of_unsigned {text : List Char} (notMinus : text.head? ≠ some '-')
    (notPlus : text.head? ≠ some '+') : splitSign text = (false, text) := by
  unfold splitSign
  split
  · exact absurd rfl notMinus
  · exact absurd rfl notPlus
  · rfl

theorem toPlainCharacter_eq_minus_iff (character : Char) :
    toPlainCharacter character = '-' ↔ character = '-' :=
  toPlainCharacter_eq_iff (by decide) (by decide) rfl

theorem toPlainCharacter_eq_plus_iff (character : Char) :
    toPlainCharacter character = '+' ↔ character = '+' :=
  toPlainCharacter_eq_iff (by decide) (by decide) rfl

/-- The sign that is split off a text is spelled in front of the rest. -/
theorem exists_sign (core : List Char) :
    ∃ sign run factor, core = sign ++ run ∧ SpellsSign sign factor ∧
      splitSign (core.map toPlainCharacter) = (decide (factor < 0), run.map toPlainCharacter) := by
  cases core with
  | nil => exact ⟨[], [], 1, rfl, .unsigned, rfl⟩
  | cons character rest =>
    by_cases minus : character = '-'
    · subst minus
      exact ⟨['-'], rest, -1, rfl, .minus, rfl⟩
    by_cases plus : character = '+'
    · subst plus
      exact ⟨['+'], rest, 1, rfl, .plus, rfl⟩
    refine ⟨[], character :: rest, 1, rfl, .unsigned, splitSign_of_unsigned ?_ ?_⟩
    · simpa [toPlainCharacter_eq_minus_iff] using minus
    · simpa [toPlainCharacter_eq_plus_iff] using plus

theorem splitSign_map_append {sign run : List Char} {factor : Int} {digits : List Nat}
    (signed : SpellsSign sign factor) (spelled : SpellsDigits run digits) :
    splitSign ((sign ++ run).map toPlainCharacter) =
      (decide (factor < 0), run.map toPlainCharacter) := by
  cases signed with
  | plus => rfl
  | minus => rfl
  | unsigned =>
    obtain ⟨⟨first, rest, digit, rfl, isFirst⟩, -⟩ := spelled.ends
    refine splitSign_of_unsigned ?_ ?_
    · rw [List.nil_append, List.map_cons, List.head?_cons, Ne, Option.some_inj,
        toPlainCharacter_eq_minus_iff]
      rintro rfl
      cases isFirst
    · rw [List.nil_append, List.map_cons, List.head?_cons, Ne, Option.some_inj,
        toPlainCharacter_eq_plus_iff]
      rintro rfl
      cases isFirst

theorem SpellsSign.ite_neg {sign : List Char} {factor : Int} (signed : SpellsSign sign factor)
    (magnitude : Nat) :
    (if decide (factor < 0) = true then -(magnitude : Int) else magnitude) =
      factor * magnitude := by
  cases signed <;> simp

/-! ### What is read -/

/-- A number is read from the digits behind its sign. -/
theorem readInteger?_eq (text : String) :
    readInteger? text =
      ((digitRun? (splitSign (plainNumber text)).2).bind digitsValue?).map fun value : Nat =>
        if (splitSign (plainNumber text)).1 = true then -(value : Int) else value := by
  unfold readInteger?
  dsimp only
  cases (digitRun? (splitSign (plainNumber text)).2).bind digitsValue? <;> rfl

theorem isPadding_of_isMargin {margin : List Char}
    (marginal : ∀ character ∈ margin, IsMargin character) :
    ∀ character ∈ margin.map toPlainCharacter, isPadding character = true := by
  intro plain member
  obtain ⟨character, among, rfl⟩ := List.mem_map.mp member
  exact (isPadding_toPlainCharacter_iff character).mpr (marginal character among)

theorem isMargin_of_isPadding {margin : List Char}
    (padding : ∀ character ∈ margin.map toPlainCharacter, isPadding character = true) :
    ∀ character ∈ margin, IsMargin character := fun character member =>
  (isPadding_toPlainCharacter_iff character).mp (padding _ (List.mem_map_of_mem member))

/-- A spelled number neither begins nor ends with padding, signed or not. -/
theorem strip_spelled {before sign run after : List Char} {factor : Int} {digits : List Nat}
    (before_margin : ∀ character ∈ before, IsMargin character)
    (signed : SpellsSign sign factor) (spelled : SpellsDigits run digits)
    (after_margin : ∀ character ∈ after, IsMargin character) :
    strip ((before ++ (sign ++ run) ++ after).map toPlainCharacter) =
      (sign ++ run).map toPlainCharacter := by
  obtain ⟨⟨first, rest, _, starts, isFirst⟩, front, last, _, ends, isLast⟩ := spelled.ends
  have runEnds : (sign ++ run).map toPlainCharacter =
      (sign ++ front).map toPlainCharacter ++ [toPlainCharacter last] := by
    rw [ends, ← List.append_assoc, List.map_append, List.map_singleton]
  rw [List.map_append, List.map_append]
  cases signed with
  | unsigned =>
    exact strip_append (isPadding_of_isMargin before_margin)
      (congrArg (List.map toPlainCharacter) starts) (isPadding_of_digitValue? isFirst)
      runEnds (isPadding_of_digitValue? isLast) (isPadding_of_isMargin after_margin)
  | plus | minus =>
    exact strip_append (isPadding_of_isMargin before_margin) rfl rfl
      runEnds (isPadding_of_digitValue? isLast) (isPadding_of_isMargin after_margin)

theorem Spells.readInteger? {text : String} {number : Int} (spelled : Spells text.toList number) :
    readInteger? text = some number := by
  generalize characters_eq : text.toList = characters at spelled
  cases spelled with
  | number before_margin signed spelled few after_margin =>
    rw [readInteger?_eq, plainNumber, characters_eq,
      strip_spelled before_margin signed spelled after_margin, splitSign_map_append signed spelled,
      spelled.digitRun?, Option.bind_some, digitsValue?, List.length_map, if_pos few,
      ofDigitChars_map_digitChar _ spelled.small, Option.map_some, signed.ite_neg]

theorem spells_of_readInteger? {text : String} {number : Int}
    (read : readInteger? text = some number) : Spells text.toList number := by
  obtain ⟨padBefore, padAfter, padded, before_padding, after_padding⟩ :=
    exists_padding (text.toList.map toPlainCharacter)
  obtain ⟨padded, after, text_eq, padded_eq, rfl⟩ := List.map_eq_append_iff.mp padded
  obtain ⟨before, core, rfl, rfl, core_eq⟩ := List.map_eq_append_iff.mp padded_eq
  obtain ⟨sign, run, factor, rfl, signed, split⟩ := exists_sign core
  rw [readInteger?_eq, plainNumber, ← core_eq, split] at read
  obtain ⟨value, valued, rfl⟩ := Option.map_eq_some_iff.mp read
  obtain ⟨plain, isRun, isValue⟩ := Option.bind_eq_some_iff.mp valued
  obtain ⟨digits, spelled, rfl⟩ := exists_digits_of_digitRun? run plain isRun
  rw [digitsValue?, List.length_map, ofDigitChars_map_digitChar _ spelled.small] at isValue
  split at isValue
  · rename_i few
    cases isValue
    rw [signed.ite_neg, text_eq]
    exact .number (isMargin_of_isPadding before_padding) signed spelled few
      (isMargin_of_isPadding after_padding)
  · cases isValue

/-- A text is read as a number exactly when it spells that number. -/
theorem readInteger?_eq_some_iff (text : String) (number : Int) :
    readInteger? text = some number ↔ Spells text.toList number :=
  ⟨spells_of_readInteger?, Spells.readInteger?⟩

/-- A text spells one number at most. -/
theorem Spells.unique {text : List Char} {number other : Int} (spelled : Spells text number)
    (alsoSpelled : Spells text other) : number = other := by
  rw [← String.toList_ofList (l := text)] at spelled alsoSpelled
  exact Option.some.inj (spelled.readInteger?.symm.trans alsoSpelled.readInteger?)

/-! ### Decimal forms -/

theorem spellsDigits_of_isDigit {run : List Char} (some_digit : run ≠ [])
    (all : ∀ character ∈ run, character.isDigit = true) :
    SpellsDigits run (run.map fun character => character.toNat - '0'.toNat) := by
  induction run with
  | nil => exact absurd rfl some_digit
  | cons character rest inductionHypothesis =>
    have found := digitValue?_of_isDigit (all character List.mem_cons_self)
    cases rest with
    | nil => exact .last found
    | cons second later =>
      exact .next found (inductionHypothesis nofun fun other member =>
        all other (List.mem_cons_of_mem character member))

/-- A number that may be written is spelled by its decimal form. -/
theorem spells_decimal {number : Int} (writable : isUnwritable number = false) :
    Spells (decimal number) number := by
  have few : (Nat.toDigits 10 number.natAbs).length ≤ maxDigits := by
    simpa [isUnwritable] using writable
  have spelled := spellsDigits_of_isDigit (Nat.toDigits_ne_nil (b := 10) (n := number.natAbs))
    fun character member => Nat.isDigit_of_mem_toDigits (by decide) (by decide) member
  have spells : ∀ {sign factor}, SpellsSign sign factor →
      Spells (sign ++ Nat.toDigits 10 number.natAbs) (factor * number.natAbs) := by
    intro sign factor signed
    have bare : ∀ character ∈ [], IsMargin character := nofun
    have whole := Spells.number bare signed spelled (by simpa using few) bare
    rwa [← ofDigitChars_eq_ofDigits, Nat.ofDigitChars_toDigits (by decide) (by decide),
      List.nil_append, List.append_nil] at whole
  rw [decimal]
  split
  · have whole := spells .minus
    rwa [show -1 * (number.natAbs : Int) = number by omega] at whole
  · have whole := spells .unsigned
    rwa [show 1 * (number.natAbs : Int) = number by omega] at whole

end LoadVerifier.Text
