/-
This file reads numbers back from texts that hold their decimal form. The form tells the number, and
where it is followed by a character that is neither a digit nor a minus sign, it also tells where it
ends: two texts that start with a number and such a character agree only if the numbers, the
characters and what follows them agree.
-/
import LoadVerifier.Text.Digits

namespace LoadVerifier

/-- Whether a character occurs in decimal forms. -/
def isDecimal (character : Char) : Bool := character.isDigit || character == '-'

theorem isDecimal_of_mem_decimal (number : Int) (character : Char)
    (member : character ∈ Text.decimal number) : isDecimal character = true := by
  have digits : ∀ digit ∈ Nat.toDigits 10 number.natAbs, isDecimal digit = true := by
    intro digit among
    rw [isDecimal, Nat.isDigit_of_mem_toDigits (by decide) (by decide) among, Bool.true_or]
  rw [Text.decimal] at member
  split at member
  · rcases List.mem_cons.mp member with rfl | among
    · rfl
    · exact digits character among
  · exact digits character member

/-- Decimal digits and the minus sign fit into a byte. -/
theorem toNat_lt_of_mem_decimal (number : Int) (character : Char)
    (member : character ∈ Text.decimal number) : character.toNat < 256 := by
  have decimal := isDecimal_of_mem_decimal number character member
  rw [isDecimal, Bool.or_eq_true, beq_iff_eq] at decimal
  rcases decimal with isDigit | rfl
  · simp only [Char.isDigit, Bool.and_eq_true, decide_eq_true_eq] at isDigit
    exact Nat.lt_of_le_of_lt (UInt32.le_iff_toNat_le.mp isDigit.2) (by decide)
  · decide

theorem ofList_decimal (number : Int) : String.ofList (Text.decimal number) = toString number := by
  cases number with
  | ofNat magnitude => rfl
  | negSucc magnitude =>
    rw [Text.decimal, if_pos (Int.negSucc_lt_zero magnitude), ← List.singleton_append,
      String.ofList_append]
    rfl

theorem toList_repr (number : Int) : number.repr.toList = Text.decimal number := by
  have form := congrArg String.toList (ofList_decimal number)
  rw [String.toList_ofList] at form
  exact form.symm

theorem toDigits_injective {first second : Nat}
    (equal : Nat.toDigits 10 first = Nat.toDigits 10 second) : first = second := by
  have read := congrArg (fun digits => Nat.ofDigitChars 10 digits 0) equal
  simpa using read

/-- A decimal form without a minus sign is none with one. -/
theorem cons_minus_ne_toDigits (digits : List Char) (number : Nat) :
    '-' :: digits ≠ Nat.toDigits 10 number := by
  intro equal
  have member : '-' ∈ Nat.toDigits 10 number := equal ▸ List.mem_cons_self
  exact absurd (Nat.isDigit_of_mem_toDigits (by decide) (by decide) member) (by decide)

/-- A decimal form tells its number. -/
theorem decimal_injective {first second : Int}
    (equal : Text.decimal first = Text.decimal second) : first = second := by
  rw [Text.decimal, Text.decimal] at equal
  split at equal
  · split at equal
    · have magnitudes := toDigits_injective (List.cons.inj equal).2
      omega
    · exact absurd equal (cons_minus_ne_toDigits _ _)
  · split at equal
    · exact absurd equal.symm (cons_minus_ne_toDigits _ _)
    · have magnitudes := toDigits_injective equal
      omega

theorem takeWhile_decimal_append (number : Int) (stop : Char) (rest : List Char)
    (stops : isDecimal stop = false) :
    (Text.decimal number ++ stop :: rest).takeWhile isDecimal = Text.decimal number := by
  rw [List.takeWhile_append_of_pos (isDecimal_of_mem_decimal number),
    List.takeWhile_cons_of_neg (by simp [stops]), List.append_nil]

/-- A number at the start of a text, and what follows the character that ends it, can be read
off. -/
theorem decimal_append_inj {first second : Int} {firstStop secondStop : Char}
    {firstRest secondRest : List Char} (firstStops : isDecimal firstStop = false)
    (secondStops : isDecimal secondStop = false)
    (equal : Text.decimal first ++ firstStop :: firstRest =
      Text.decimal second ++ secondStop :: secondRest) :
    first = second ∧ firstStop = secondStop ∧ firstRest = secondRest := by
  have forms := congrArg (List.takeWhile isDecimal) equal
  rw [takeWhile_decimal_append first firstStop firstRest firstStops,
    takeWhile_decimal_append second secondStop secondRest secondStops] at forms
  rw [forms] at equal
  exact ⟨decimal_injective forms, List.cons.inj (List.append_cancel_left equal)⟩

end LoadVerifier
