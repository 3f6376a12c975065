/-
This file says what draws give and when they succeed. A draw stays within its span, so a number
drawn between two others is one of those between them. A draw fails only when it would have to reach
beyond the largest number, and a stream only when it is seeded with a negative one. So the record of
a key can be generated unless the key is negative or the bounds are too wide to draw from.
-/
import LoadVerifier.Record.Generate

namespace LoadVerifier

open LoadVerifier.Random

/-! ### Draws within their span -/

theorem scaledDraw_lt (modulus count : Nat) (word : Stream → Nat × Stream)
    (small : ∀ stream, (word stream).1 < modulus) (some_choice : 0 < count) (fuel : Nat)
    (stream : Stream) : (scaledDraw modulus count word fuel stream).1 < count := by
  have scaled : ∀ other, (word other).1 * count / modulus < count := by
    intro other
    refine Nat.div_lt_of_lt_mul ?_
    exact (Nat.mul_lt_mul_right some_choice).mpr (small other)
  induction fuel generalizing stream with
  | zero => exact scaled stream
  | succ fuel inductionHypothesis =>
    unfold scaledDraw
    dsimp only
    split
    · exact inductionHypothesis _
    · exact scaled stream

/-- A draw stays within its span. -/
theorem upTo_le (stream : Stream) (span : Nat) : (stream.upTo span).1 ≤ span := by
  have narrow : ∀ other : Stream, other.number32.1 < 0x100000000 :=
    fun other => other.word32.1.toNat_lt
  have wide : ∀ other : Stream, other.number64.1 < 0x10000000000000000 :=
    fun other => other.word64.1.toNat_lt
  rw [Stream.upTo]
  split
  · exact Nat.zero_le span
  · split
    · rename_i full
      have drawn := narrow stream
      omega
    · split
      · exact Nat.lt_succ_iff.mp
          (scaledDraw_lt _ _ _ narrow (Nat.succ_pos span) period stream)
      · exact Nat.lt_succ_iff.mp
          (scaledDraw_lt _ _ _ wide (Nat.succ_pos span) period stream)

theorem drawn_of_between? (stream rest : Stream) (low high drawn : Nat)
    (found : stream.between? low high = some (drawn, rest)) :
    drawn = low + (stream.upTo (high - low)).1 := by
  rw [Stream.between?] at found
  split at found
  · cases found
  · exact (congrArg Prod.fst (Option.some.inj found)).symm

/-- A number drawn between two others is one of those between them. -/
theorem between?_bounds (stream rest : Stream) (low high drawn : Nat)
    (found : stream.between? low high = some (drawn, rest)) :
    low ≤ drawn ∧ (low ≤ high → drawn ≤ high) := by
  have offset := upTo_le stream (high - low)
  have equal := drawn_of_between? stream rest low high drawn found
  omega

/-! ### What was drawn -/

/-- A column count was drawn from the stream of its key. -/
theorem drawn_of_generateColumnCount (key : Int) (bounds : Bounds) (count : Nat)
    (generated : generateColumnCount key bounds = .ok count) :
    ∃ stream rest, Stream.seeded? [key] = some stream ∧
      stream.between? bounds.minColumns bounds.maxColumns = some (count, rest) := by
  rw [generateColumnCount] at generated
  split at generated
  · cases generated
  · rename_i stream seeded
    split at generated
    · cases generated
    · rename_i drawn rest found
      cases generated
      exact ⟨stream, rest, seeded, found⟩

theorem columnCount_bounds (key : Int) (bounds : Bounds) (count : Nat)
    (generated : generateColumnCount key bounds = .ok count) :
    bounds.minColumns ≤ count ∧ count ≤ bounds.maxColumns := by
  obtain ⟨stream, rest, -, drawn⟩ := drawn_of_generateColumnCount key bounds count generated
  have within := between?_bounds _ _ _ _ _ drawn
  exact ⟨within.1, within.2 bounds.minColumns_le⟩

/-- The size of a value was drawn from the stream of its cell, and what its header leaves open was
drawn after it. -/
theorem drawn_of_generateValue (key column : Int) (bounds : Bounds) (value : Bytes)
    (generated : generateValue key column bounds = .ok value) :
    ∃ stream size rest, Stream.seeded? [key, column] = some stream ∧
      stream.between? bounds.minSize bounds.maxSize = some (size, rest) ∧
        value = cellContent (cellHeader key column) size rest := by
  rw [generateValue] at generated
  split at generated
  · cases generated
  · rename_i stream seeded
    split at generated
    · cases generated
    · rename_i size rest found
      cases generated
      exact ⟨stream, size, rest, seeded, found, rfl⟩

/-! ### Draws that succeed -/

theorem between?_isSome (stream : Stream) (low high : Nat) (small : high ≤ maxDraw) :
    ∃ drawn rest, stream.between? low high = some (drawn, rest) := by
  rw [Stream.between?, if_neg (Nat.not_lt.mpr small)]
  exact ⟨_, _, rfl⟩

/-- Numbers that are not negative seed a stream. -/
theorem seeded?_isSome (numbers : List Int) (nonneg : ∀ number ∈ numbers, 0 ≤ number) :
    ∃ stream, Stream.seeded? numbers = some stream := by
  suffices some_words : ∃ words, entropyOf numbers = some words by
    obtain ⟨words, equal⟩ := some_words
    exact ⟨Stream.ofWords words, by rw [Stream.seeded?, equal, Option.map_some]⟩
  induction numbers with
  | nil => exact ⟨[], rfl⟩
  | cons number rest inductionHypothesis =>
    obtain ⟨words, equal⟩ :=
      inductionHypothesis fun other member => nonneg other (List.mem_cons_of_mem _ member)
    rw [entropyOf, if_neg (Int.not_lt.mpr (nonneg number List.mem_cons_self)), equal]
    exact ⟨_, rfl⟩

/-! ### Bounds and their numbers -/

/-- Bounds hold the numbers they were made from. -/
theorem Bounds.make_eq_ok {minColumns maxColumns minSize maxSize : Int} {bounds : Bounds}
    (made : Bounds.make minColumns maxColumns minSize maxSize = .ok bounds) :
    bounds.minColumns = minColumns ∧ bounds.maxColumns = maxColumns ∧
      bounds.minSize = minSize ∧ bounds.maxSize = maxSize := by
  unfold Bounds.make at made
  split at made
  · cases made
  split at made
  · cases made
  split at made
  · cases made
  split at made
  · cases made
  cases made
  dsimp only
  omega

/-- The numbers of some bounds are bounds. -/
theorem Bounds.make_self (bounds : Bounds) :
    make bounds.minColumns bounds.maxColumns bounds.minSize bounds.maxSize = .ok bounds := by
  have some_column := bounds.one_le_minColumns
  have columns := bounds.minColumns_le
  have sizes := bounds.minSize_le
  rw [make, dif_neg (by omega), dif_neg (by omega), dif_neg (by omega), dif_neg (by omega)]
  rfl

/-! ### Records that can be generated -/

/-- Bounds that are not too wide to draw from. -/
def Bounds.Drawable (bounds : Bounds) : Prop :=
  bounds.maxColumns ≤ maxDraw ∧ bounds.maxSize ≤ maxDraw

theorem generateColumnCount_eq_ok (key : Int) (bounds : Bounds) (nonneg : 0 ≤ key)
    (narrow : bounds.maxColumns ≤ maxDraw) :
    ∃ count, generateColumnCount key bounds = .ok count ∧
      bounds.minColumns ≤ count ∧ count ≤ bounds.maxColumns := by
  obtain ⟨stream, seeded⟩ := seeded?_isSome [key] (by simp [nonneg])
  obtain ⟨count, rest, drawn⟩ := between?_isSome stream bounds.minColumns bounds.maxColumns narrow
  have generated : generateColumnCount key bounds = .ok count := by
    rw [generateColumnCount, seeded]
    simp only [drawn]
  exact ⟨count, generated, columnCount_bounds key bounds count generated⟩

theorem exists_generateValue (key column : Int) (bounds : Bounds) (nonneg : 0 ≤ key)
    (columnNonneg : 0 ≤ column) (narrow : bounds.maxSize ≤ maxDraw) :
    ∃ size stream,
      generateValue key column bounds = .ok (cellContent (cellHeader key column) size stream) ∧
        bounds.minSize ≤ size ∧ size ≤ bounds.maxSize := by
  obtain ⟨stream, seeded⟩ := seeded?_isSome [key, column] (by simp [nonneg, columnNonneg])
  obtain ⟨size, rest, drawn⟩ := between?_isSome stream bounds.minSize bounds.maxSize narrow
  have within := between?_bounds _ _ _ _ _ drawn
  rw [generateValue, seeded]
  simp only [drawn]
  exact ⟨size, rest, rfl, within.1, within.2 bounds.minSize_le⟩

theorem generateCell_eq_ok (key : Int) (bounds : Bounds) (nonneg : 0 ≤ key)
    (drawable : bounds.Drawable) (column : Nat) :
    ∃ cell, generateCell key bounds column = .ok cell := by
  obtain ⟨size, stream, generated, -⟩ :=
    exists_generateValue key column bounds nonneg (Int.natCast_nonneg column) drawable.2
  rw [generateCell, generated]
  exact ⟨_, rfl⟩

theorem mapM_generateCell_eq_ok (key : Int) (bounds : Bounds) (nonneg : 0 ≤ key)
    (drawable : bounds.Drawable) (columns : List Nat) :
    ∃ cells, columns.mapM (generateCell key bounds) = .ok cells := by
  induction columns with
  | nil => exact ⟨[], rfl⟩
  | cons column rest inductionHypothesis =>
    obtain ⟨cell, first⟩ := generateCell_eq_ok key bounds nonneg drawable column
    obtain ⟨cells, others⟩ := inductionHypothesis
    rw [List.mapM_cons, first, others]
    exact ⟨_, rfl⟩

/-- A key that is not negative has a record within bounds that are not too wide. -/
theorem generate_of_drawable (key : Int) (bounds : Bounds) (nonneg : 0 ≤ key)
    (drawable : bounds.Drawable) : ∃ record, generate key bounds = .ok record := by
  obtain ⟨count, counted, -⟩ := generateColumnCount_eq_ok key bounds nonneg drawable.1
  obtain ⟨cells, drawn⟩ := mapM_generateCell_eq_ok key bounds nonneg drawable (List.range count)
  rw [generate, if_neg (Int.not_lt.mpr nonneg), counted]
  dsimp only
  split
  · rename_i error failed
    cases failed.symm.trans drawn
  · exact ⟨_, rfl⟩

end LoadVerifier
