/-
This file proves when the data spec of a run agrees with its write spec: exactly when their first
two fields say the same two numbers, in whatever spelling. The sizes are compared as bounds, and the
bounds around two averages determine the averages, although both of the size limits are rounded
down. So no two different pairs of sizes are taken for one, and a later run that only reads, with a
data spec of the same numbers, expects the very bounds that the records were written with.
-/
import LoadVerifier.Proofs.ColonSpecs

namespace LoadVerifier

/-! ### Averages and the bounds around them -/

/-- Bounds have these averages within them, and allow a single column. -/
structure Bounds.Surrounds (bounds : Bounds) (columns size : Int) : Prop where
  minColumns : bounds.minColumns = (1 : Int)
  minColumns_le : bounds.minColumns ≤ columns
  le_maxColumns : columns ≤ bounds.maxColumns
  minSize_nonneg : 0 ≤ (bounds.minSize : Int)
  minSize_le : bounds.minSize ≤ size
  le_maxSize : size ≤ bounds.maxSize

theorem exists_surrounding_ofAverages {columns size : Int} (some_column : 1 ≤ columns)
    (some_byte : 1 ≤ size) :
    ∃ bounds, Bounds.ofAverages columns size = .ok bounds ∧ bounds.Surrounds columns size := by
  obtain ⟨bounds, made, minColumns, maxColumns, minSize, maxSize⟩ :=
    exists_ofAverages some_column some_byte
  refine ⟨bounds, made, minColumns, ?_, ?_, Int.natCast_nonneg _, ?_, ?_⟩
  · rwa [minColumns]
  · rw [maxColumns]
    omega
  · rw [minSize]
    omega
  · rw [maxSize]
    omega

theorem some_of_ofAverages {columns size : Int} {bounds : Bounds}
    (made : Bounds.ofAverages columns size = .ok bounds) : 1 ≤ columns ∧ 1 ≤ size := by
  unfold Bounds.ofAverages at made
  split at made
  · cases made
  split at made
  · cases made
  omega

/-- Both limits of the size lose the same when they are rounded down, so what is between them is
the average. -/
theorem three_halves_sub_half (size : Int) : size * 3 / 2 - size / 2 = size := by
  omega

/-- Bounds have only one pair of averages that they are made around. -/
theorem ofAverages_injective {columns size otherColumns otherSize : Int} {bounds : Bounds}
    (made : Bounds.ofAverages columns size = .ok bounds)
    (alsoMade : Bounds.ofAverages otherColumns otherSize = .ok bounds) :
    columns = otherColumns ∧ size = otherSize := by
  obtain ⟨some_column, some_byte⟩ := some_of_ofAverages made
  obtain ⟨other_column, other_byte⟩ := some_of_ofAverages alsoMade
  obtain ⟨own, ownMade, -, maxColumns, minSize, maxSize⟩ := exists_ofAverages some_column some_byte
  cases made.symm.trans ownMade
  obtain ⟨same, sameMade, -, otherMaxColumns, otherMinSize, otherMaxSize⟩ :=
    exists_ofAverages other_column other_byte
  cases alsoMade.symm.trans sameMade
  constructor
  · exact Int.eq_of_mul_eq_mul_left two_ne_zero (maxColumns.symm.trans otherMaxColumns)
  · rw [← three_halves_sub_half size, ← three_halves_sub_half otherSize, ← maxSize, ← minSize,
      otherMaxSize, otherMinSize]

/-! ### Texts that say the same sizes -/

/-- The first two fields of a text say these two numbers. -/
def SaysFirst (text : String) (columns size : Int) : Prop :=
  ∃ first second rest, SplitsAtColons text.toList (first :: second :: rest) ∧
    Text.Spells first columns ∧ Text.Spells second size

/-- The first two fields of two texts say the same two numbers. -/
def SaySameSizes (text other : String) : Prop :=
  ∃ columns size, SaysFirst text columns size ∧ SaysFirst other columns size

/-- A text is split in one way, and a field says one number at most. -/
theorem SaysFirst.unique {text : String} {columns size otherColumns otherSize : Int}
    (said : SaysFirst text columns size) (alsoSaid : SaysFirst text otherColumns otherSize) :
    columns = otherColumns ∧ size = otherSize := by
  obtain ⟨first, second, rest, splits, spellsColumns, spellsSize⟩ := said
  obtain ⟨first', second', rest', splits', spellsColumns', spellsSize'⟩ := alsoSaid
  have same := ((splitsAtColons_iff _ _).mp splits).symm.trans ((splitsAtColons_iff _ _).mp splits')
  cases same
  exact ⟨spellsColumns.unique spellsColumns', spellsSize.unique spellsSize'⟩

theorem SaysNumbers.first {text : String} {columns size : Int} {rest : List Int}
    (said : SaysNumbers text (columns :: size :: rest)) : SaysFirst text columns size := by
  obtain ⟨fields, splits, spelled⟩ := said
  cases spelled with
  | cons spellsColumns spelled =>
    cases spelled with
    | cons spellsSize _ => exact ⟨_, _, _, splits, spellsColumns, spellsSize⟩

theorem SaysWithThreads.first {text : String} {columns size threads : Int}
    (said : SaysWithThreads text [columns, size] threads) : SaysFirst text columns size := by
  rcases said with ⟨said, -⟩ | ⟨said, -⟩
  · exact said.first
  · exact said.first

/-- The texts of two specs say the same sizes exactly when the specs have the same bounds. -/
theorem saySameSizes_iff {write data : String} {multiPut : Bool} {spec : WriteSpec}
    {bounds : Bounds} (written : parseWriteSpec write multiPut = .ok spec)
    (given : parseDataSpec data = .ok bounds) :
    SaySameSizes write data ↔ bounds = spec.bounds := by
  obtain ⟨columns, size, writeForm, writeMade, -⟩ := (parseWriteSpec_eq_ok_iff _ _ _).mp written
  obtain ⟨dataColumns, dataSize, dataForm, dataMade⟩ := (parseDataSpec_eq_ok_iff _ _).mp given
  constructor
  · rintro ⟨sameColumns, sameSize, writeSaid, dataSaid⟩
    obtain ⟨rfl, rfl⟩ := writeForm.said.first.unique writeSaid
    obtain ⟨rfl, rfl⟩ := dataForm.said.first.unique dataSaid
    exact Except.ok.inj (dataMade.symm.trans writeMade)
  · rintro rfl
    obtain ⟨rfl, rfl⟩ := ofAverages_injective writeMade dataMade
    exact ⟨columns, size, writeForm.said.first, dataForm.said.first⟩

/-! ### Agreement -/

/-- What a run makes of a write spec and a data spec depends on whether their texts say the same
sizes. If they do, then together they stand for the bounds of the write pass, and so does the data
spec in a run that only reads. If not, then the run is refused, and a run that only reads expects
other bounds. -/
structure AgreeOnSizes (write data : String) (spec : WriteSpec) (bounds : Bounds) : Prop where
  together_iff : (∃ resolved, resolveBounds (some spec) (some bounds) = .ok resolved) ↔
    SaySameSizes write data
  resolved_eq : ∀ resolved, resolveBounds (some spec) (some bounds) = .ok resolved →
    resolved = spec.bounds
  refused : ¬ SaySameSizes write data →
    resolveBounds (some spec) (some bounds) = .error .dataDisagrees
  later_iff : resolveBounds none (some bounds) = .ok spec.bounds ↔ SaySameSizes write data

theorem agreeOnSizes {write data : String} {multiPut : Bool} {spec : WriteSpec} {bounds : Bounds}
    (written : parseWriteSpec write multiPut = .ok spec)
    (given : parseDataSpec data = .ok bounds) : AgreeOnSizes write data spec bounds := by
  have same_iff := saySameSizes_iff written given
  by_cases same : bounds = spec.bounds
  · have resolved : resolveBounds (some spec) (some bounds) = .ok spec.bounds := if_pos same
    exact ⟨iff_of_true ⟨spec.bounds, resolved⟩ (same_iff.mpr same),
      fun other isOther => Except.ok.inj (isOther.symm.trans resolved),
      fun different => absurd (same_iff.mpr same) different,
      iff_of_true (congrArg Except.ok same) (same_iff.mpr same)⟩
  · have refused : resolveBounds (some spec) (some bounds) = .error .dataDisagrees := if_neg same
    have different : ¬ SaySameSizes write data := fun said => same (same_iff.mp said)
    have notOk : ∀ resolved, resolveBounds (some spec) (some bounds) ≠ .ok resolved := by
      intro resolved isResolved
      cases refused.symm.trans isResolved
    exact ⟨iff_of_false (fun ⟨resolved, isResolved⟩ => notOk resolved isResolved) different,
      fun resolved isResolved => absurd isResolved (notOk resolved), fun _ => refused,
      iff_of_false (fun resolved => same (Except.ok.inj resolved)) different⟩

/-- Averages of at least one have bounds around them, and different averages have different bounds.
So a write spec and a data spec agree exactly when their first two fields say the same two numbers,
and a run that only reads expects the bounds of the write pass in exactly that case. -/
theorem specs_agree_exactly_on_same_sizes :
    (∀ columns size : Int, 1 ≤ columns → 1 ≤ size →
      ∃ bounds, Bounds.ofAverages columns size = .ok bounds ∧ bounds.Surrounds columns size) ∧
    (∀ (columns size otherColumns otherSize : Int) (bounds : Bounds),
      Bounds.ofAverages columns size = .ok bounds →
        Bounds.ofAverages otherColumns otherSize = .ok bounds →
          columns = otherColumns ∧ size = otherSize) ∧
    ∀ (write data : String) (multiPut : Bool) (spec : WriteSpec) (bounds : Bounds),
      parseWriteSpec write multiPut = .ok spec → parseDataSpec data = .ok bounds →
        AgreeOnSizes write data spec bounds :=
  ⟨fun _ _ => exists_surrounding_ofAverages, fun _ _ _ _ _ => ofAverages_injective,
    fun _ _ _ _ _ => agreeOnSizes⟩

/-- The sizes of the write spec of ten columns, twelve bytes and seven workers, in plain digits. -/
theorem specs_agree_exactly_on_odd_spec :
    ∃ spec bounds, parseWriteSpec oddSpec true = .ok spec ∧
      parseDataSpec (colonText [10, 12]) = .ok bounds ∧
      resolveBounds none (some bounds) = .ok spec.bounds ∧
      parseDataSpec (colonText [10, 13]) ≠ .ok bounds := by
  obtain ⟨surrounded, injective, agree⟩ := specs_agree_exactly_on_same_sizes
  obtain ⟨bounds, made, -⟩ := surrounded 10 12 (by decide) (by decide)
  have written : parseWriteSpec oddSpec true = .ok ⟨bounds, 7, true⟩ :=
    (parseWriteSpec_eq_ok_iff _ _ _).mpr ⟨10, 12, writeForm_oddSpec, made, rfl⟩
  have saidTwelve : DataForm (colonText [10, 12]) 10 12 :=
    ⟨saysNumbers_colonText (by simp) (by decide), by decide, by decide⟩
  have saidThirteen : DataForm (colonText [10, 13]) 10 13 :=
    ⟨saysNumbers_colonText (by simp) (by decide), by decide, by decide⟩
  have given := (parseDataSpec_eq_ok_iff _ _).mpr ⟨10, 12, saidTwelve, made⟩
  refine ⟨_, bounds, written, given, ?_, fun alsoGiven => ?_⟩
  · exact (agree _ _ _ _ _ written given).later_iff.mpr
      ⟨10, 12, writeForm_oddSpec.said.first, saidTwelve.said.first⟩
  · obtain ⟨columns, size, form, alsoMade⟩ := (parseDataSpec_eq_ok_iff _ _).mp alsoGiven
    obtain ⟨rfl, rfl⟩ := saidThirteen.said.first.unique form.said.first
    exact absurd (injective 10 12 10 13 bounds made alsoMade).2 (by decide)

end LoadVerifier
