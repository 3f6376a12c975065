/-
This file says which bounds are refused when they are made, and which of the others fail later. The
numbers of some bounds are checked against each other and against the least values they may have,
but not against the largest number a draw may reach. So bounds that reach further are made, and then
every draw between them fails, whatever the key. Nothing else makes a draw fail: a key that is not
negative has a column count, values and a record within all bounds that are not too wide.
-/
import LoadVerifier.Proofs.RecordShape

namespace LoadVerifier

open LoadVerifier.Random

/-! ### Bounds that are made -/

/-- Bounds are made from numbers that are in order and not too small, and only from these. -/
theorem exists_make_iff (minColumns maxColumns minSize maxSize : Int) :
    (∃ bounds, Bounds.make minColumns maxColumns minSize maxSize = .ok bounds) ↔
      1 ≤ minColumns ∧ minColumns ≤ maxColumns ∧ 0 ≤ minSize ∧ minSize ≤ maxSize := by
  constructor
  · rintro ⟨bounds, made⟩
    obtain ⟨rfl, rfl, rfl, rfl⟩ := Bounds.make_eq_ok made
    have some_column := bounds.one_le_minColumns
    have columns := bounds.minColumns_le
    have sizes := bounds.minSize_le
    omega
  · rintro ⟨some_column, columns, nonneg, sizes⟩
    rw [Bounds.make, dif_neg (by omega), dif_neg (by omega), dif_neg (by omega), dif_neg (by omega)]
    exact ⟨_, rfl⟩

/-! ### Draws between bounds -/

/-- What comes of drawing a number between two others: an error when the greater one is beyond the
largest number a draw may reach, and otherwise something of a size between the two. -/
structure DrawsBetween {Value : Type} (low high : Int) (size : Value → Nat)
    (outcome : Except GenerationError Value) : Prop where
  wide : maxDraw < high → outcome = .error .drawTooWide
  narrow : high ≤ maxDraw → ∃ value, outcome = .ok value ∧ low ≤ size value ∧ size value ≤ high

theorem between?_of_wide (stream : Stream) (low high : Nat) (wide : maxDraw < high) :
    stream.between? low high = none := by
  rw [Stream.between?, if_pos wide]

theorem drawsBetween_columns (key : Int) (bounds : Bounds) (nonneg : 0 ≤ key) :
    DrawsBetween bounds.minColumns bounds.maxColumns id (generateColumnCount key bounds) where
  wide beyond := by
    obtain ⟨stream, seeded⟩ := seeded?_isSome [key] (by simp [nonneg])
    rw [generateColumnCount, seeded]
    simp only [between?_of_wide stream _ _ (Int.ofNat_lt.mp beyond)]
  narrow within := by
    obtain ⟨count, counted, least, most⟩ :=
      generateColumnCount_eq_ok key bounds nonneg (Int.ofNat_le.mp within)
    exact ⟨count, counted, Int.ofNat_le.mpr least, Int.ofNat_le.mpr most⟩

theorem drawsBetween_sizes (key column : Int) (bounds : Bounds) (nonneg : 0 ≤ key)
    (columnNonneg : 0 ≤ column) :
    DrawsBetween bounds.minSize bounds.maxSize List.length
      (generateValue key column bounds) where
  wide beyond := by
    obtain ⟨stream, seeded⟩ := seeded?_isSome [key, column] (by simp [nonneg, columnNonneg])
    rw [generateValue, seeded]
    simp only [between?_of_wide stream _ _ (Int.ofNat_lt.mp beyond)]
  narrow within := by
    obtain ⟨size, stream, generated, least, most⟩ :=
      exists_generateValue key column bounds nonneg columnNonneg (Int.ofNat_le.mp within)
    refine ⟨_, generated, ?_⟩
    rw [length_cellContent]
    exact ⟨Int.ofNat_le.mpr least, Int.ofNat_le.mpr most⟩

/-- Within bounds that are too wide to draw from no key has a record. -/
theorem generate_of_wide (key : Int) (bounds : Bounds) (nonneg : 0 ≤ key)
    (wide : ¬bounds.Drawable) : generate key bounds = .error .drawTooWide := by
  have columns := drawsBetween_columns key bounds nonneg
  rw [generate, if_neg (Int.not_lt.mpr nonneg)]
  by_cases wideColumns : (maxDraw : Int) < bounds.maxColumns
  · rw [columns.wide wideColumns]
  · obtain ⟨count, counted, least, -⟩ := columns.narrow (Int.not_lt.mp wideColumns)
    have wideSizes : (maxDraw : Int) < bounds.maxSize := by
      rw [Bounds.Drawable] at wide
      omega
    have unsized := (drawsBetween_sizes key 0 bounds nonneg (Int.le_refl 0)).wide wideSizes
    have firstFails : generateCell key bounds 0 = .error .drawTooWide := by
      rw [generateCell, Int.natCast_zero, unsized]
      rfl
    -- There is a first cell to draw, as no row is without columns.
    have cellsFail : (List.range count).mapM (generateCell key bounds) = .error .drawTooWide := by
      have some_column := bounds.one_le_minColumns
      obtain ⟨others, rfl⟩ : ∃ others, count = others + 1 := ⟨count - 1, by rw [id] at least; omega⟩
      rw [List.range_succ_eq_map, List.mapM_cons, firstFails]
      rfl
    rw [counted]
    dsimp only
    split
    · rename_i error failed
      cases failed.symm.trans cellsFail
      rfl
    · rename_i drawn
      cases drawn.symm.trans cellsFail

/-- Bounds are made exactly from numbers that are in order and not too small. A draw between the
numbers of bounds that were made fails when the greater one is beyond the largest number a draw may
reach, for whatever key and column; otherwise the key has a column count, and its columns have
values, with a number and sizes between those of the bounds. -/
theorem draws_fail_only_when_wide (minColumns maxColumns minSize maxSize : Int) :
    ((∃ bounds, Bounds.make minColumns maxColumns minSize maxSize = .ok bounds) ↔
      1 ≤ minColumns ∧ minColumns ≤ maxColumns ∧ 0 ≤ minSize ∧ minSize ≤ maxSize) ∧
    ∀ bounds, Bounds.make minColumns maxColumns minSize maxSize = .ok bounds →
      ∀ key : Int, 0 ≤ key →
        DrawsBetween minColumns maxColumns id (generateColumnCount key bounds) ∧
        ∀ column : Int, 0 ≤ column →
          DrawsBetween minSize maxSize List.length (generateValue key column bounds) := by
  refine ⟨exists_make_iff minColumns maxColumns minSize maxSize, ?_⟩
  intro bounds made key nonneg
  obtain ⟨rfl, rfl, rfl, rfl⟩ := Bounds.make_eq_ok made
  exact ⟨drawsBetween_columns key bounds nonneg,
    fun column columnNonneg => drawsBetween_sizes key column bounds nonneg columnNonneg⟩

theorem draws_fail_only_when_wide_of_many_columns :
    ∃ bounds, Bounds.make 1 0x8000000000000000 0 4 = .ok bounds ∧
      generateColumnCount 5 bounds = .error .drawTooWide ∧
      ∃ value, generateValue 5 0 bounds = .ok value ∧ value.length ≤ 4 := by
  obtain ⟨accepted, draws⟩ := draws_fail_only_when_wide 1 0x8000000000000000 0 4
  obtain ⟨bounds, made⟩ := accepted.mpr (by decide)
  obtain ⟨count, sizes⟩ := draws bounds made 5 (by decide)
  obtain ⟨value, valued, -, most⟩ := (sizes 0 (by decide)).narrow (by decide)
  exact ⟨bounds, made, count.wide (by decide), value, valued, Int.ofNat_le.mp most⟩

/-- Bounds are made although the draw of a column count fails within the first, and the draw of a
value within the second. -/
theorem made_bounds_fail_at_draw :
    (∃ bounds, Bounds.make 1 0x8000000000000000 1 1 = .ok bounds ∧
      generateColumnCount 0 bounds = .error .drawTooWide) ∧
    ∃ bounds, Bounds.make 1 1 0 0x8000000000000000 = .ok bounds ∧
      generateValue 0 0 bounds = .error .drawTooWide := by
  refine ⟨⟨⟨1, 0x8000000000000000, 1, 1, by decide, by decide, by decide⟩, rfl, ?_⟩,
    ⟨⟨1, 1, 0, 0x8000000000000000, by decide, by decide, by decide⟩, rfl, ?_⟩⟩
  · exact (drawsBetween_columns 0 _ (by decide)).wide (by decide)
  · exact (drawsBetween_sizes 0 0 _ (by decide) (by decide)).wide (by decide)

end LoadVerifier
