/-
This file says what a generated record looks like. Its columns are numbered from zero on, in order,
and there are as many of them as the bounds allow. Each of its cells is as long as a draw between
the least and the greatest size says, and agrees with the header of the cell as far as both go: a
header that is longer than the cell is cut off, and a shorter one is filled up with bytes of the
stream.
-/
import LoadVerifier.Proofs.DecimalText
import LoadVerifier.Proofs.Draws
import LoadVerifier.Proofs.RowContents
import Mathlib.Algebra.GroupWithZero.Nat

namespace LoadVerifier

open LoadVerifier.Random

/-! ### Drawn bytes -/

theorem length_wordBytes (word : UInt32) : (wordBytes word).length = 4 := rfl

theorem length_wordsOnto (drawn : List UInt32) (count : Nat) (stream : Stream) :
    (Stream.wordsOnto drawn count stream).1.length = drawn.length + count := by
  induction count generalizing drawn stream with
  | zero => rfl
  | succ count inductionHypothesis =>
    rw [Stream.wordsOnto]
    dsimp only
    rw [inductionHypothesis, List.length_cons]
    omega

theorem length_flatMap_wordBytes (words : List UInt32) :
    (words.flatMap wordBytes).length = 4 * words.length := by
  induction words with
  | nil => rfl
  | cons word rest inductionHypothesis =>
    rw [List.flatMap_cons, List.length_append, length_wordBytes, inductionHypothesis,
      List.length_cons]
    omega

/-- A stream gives as many bytes as it is asked for. -/
theorem length_bytes (stream : Stream) (count : Nat) : (stream.bytes count).1.length = count := by
  have words := length_wordsOnto [] ((count + 3) / 4) stream
  rw [Stream.bytes]
  dsimp only
  rw [List.length_take, length_flatMap_wordBytes, List.length_reverse, words, List.length_nil]
  omega

/-! ### Headers -/

/-- Bytes read as text, one character for each. -/
def asText (bytes : Bytes) : String :=
  String.ofList (bytes.map fun byte => Char.ofNat byte.toNat)

/-- A character that fits into a byte is read back from it. -/
theorem ofNat_toNat_byte (character : Char) (fits : character.toNat < 256) :
    Char.ofNat (UInt8.ofNat character.toNat).toNat = character := by
  rw [UInt8.toNat_ofNat_of_lt' fits, Char.ofNat_toNat]

/-- The characters of a header: its key and its column, each followed by a colon. -/
theorem characters_cellHeader (key column : Int) :
    (cellHeader key column).map (fun byte => Char.ofNat byte.toNat) =
      Text.decimal key ++ ':' :: (Text.decimal column ++ [':']) := by
  rw [cellHeader, List.append_assoc, List.cons_append, List.map_map]
  refine (List.map_congr_left fun character member => ?_).trans (List.map_id _)
  refine ofNat_toNat_byte character ?_
  simp only [List.mem_append, List.mem_cons, List.not_mem_nil, or_false] at member
  rcases member with among | rfl | among | rfl
  · exact toNat_lt_of_mem_decimal key character among
  · decide
  · exact toNat_lt_of_mem_decimal column character among
  · decide

/-- The header of a cell is the text of its key and its column, each followed by a colon. -/
theorem asText_cellHeader (key column : Int) :
    asText (cellHeader key column) = toString key ++ ":" ++ toString column ++ ":" := by
  rw [asText, characters_cellHeader, ← List.singleton_append, String.ofList_append,
    String.ofList_append, String.ofList_append, ofList_decimal, ofList_decimal,
    String.append_assoc, String.append_assoc]

/-! ### Cells -/

/-- A cell has the size that was drawn for it. -/
theorem length_cellContent (header : Bytes) (size : Nat) (stream : Stream) :
    (cellContent header size stream).length = size := by
  rw [cellContent]
  split
  · rename_i short
    rw [List.length_take, Nat.min_eq_left short]
  · rename_i long
    rw [List.length_append, length_bytes]
    omega

/-- A cell agrees with its header as far as both go. -/
theorem take_cellContent (header : Bytes) (size : Nat) (stream : Stream) :
    (cellContent header size stream).take (min size header.length) =
      header.take (min size header.length) := by
  rw [cellContent]
  split
  · rw [List.take_take, Nat.min_eq_left (Nat.min_le_left _ _)]
  · rw [List.take_append_of_le_length (Nat.min_le_right _ _)]

/-- The content of a cell is its header filled up or cut off at a size within the bounds. -/
theorem generateValue_eq_ok (key column : Int) (bounds : Bounds) (value : Bytes)
    (generated : generateValue key column bounds = .ok value) :
    ∃ size stream, (bounds.minSize ≤ size ∧ size ≤ bounds.maxSize) ∧
      value = cellContent (cellHeader key column) size stream := by
  obtain ⟨stream, size, rest, -, drawn, content⟩ :=
    drawn_of_generateValue key column bounds value generated
  obtain ⟨least, most⟩ := between?_bounds _ _ _ _ _ drawn
  exact ⟨size, rest, ⟨least, most bounds.minSize_le⟩, content⟩

/-- What a list was turned into came from one of its items. -/
theorem exists_of_mem_mapM {Problem Item Result : Type} (turn : Item → Except Problem Result)
    (items : List Item) (results : List Result) (turned : items.mapM turn = .ok results)
    (result : Result) (member : result ∈ results) : ∃ item ∈ items, turn item = .ok result := by
  induction items generalizing results with
  | nil =>
    rw [List.mapM_nil] at turned
    cases turned
    cases member
  | cons item rest inductionHypothesis =>
    rw [List.mapM_cons] at turned
    cases first : turn item with
    | error problem => rw [first] at turned; cases turned
    | ok own =>
      cases others : rest.mapM turn with
      | error problem => rw [first, others] at turned; cases turned
      | ok tail =>
        rw [first, others] at turned
        cases turned
        rcases List.mem_cons.mp member with rfl | later
        · exact ⟨item, List.mem_cons_self, first⟩
        · obtain ⟨other, known, made⟩ := inductionHypothesis tail others later
          exact ⟨other, List.mem_cons_of_mem _ known, made⟩

theorem generateCell_eq_ok_iff (key : Int) (bounds : Bounds) (column : Nat)
    (cell : Int × Bytes) :
    generateCell key bounds column = .ok cell ↔
      cell.1 = (column : Int) ∧ generateValue key column bounds = .ok cell.2 := by
  rw [generateCell]
  cases generateValue key column bounds with
  | error error =>
    constructor
    · intro impossible
      cases impossible
    · rintro ⟨_, impossible⟩
      cases impossible
  | ok value =>
    constructor
    · intro made
      cases made
      exact ⟨rfl, rfl⟩
    · rintro ⟨number, made⟩
      cases made
      exact congrArg Except.ok (Prod.ext number.symm rfl)

/-! ### Records -/

/-- A record has as many columns as the bounds allow. -/
theorem numColumns_bounds (key : Int) (bounds : Bounds) (record : Record)
    (generated : generate key bounds = .ok record) :
    bounds.minColumns ≤ record.numColumns ∧ record.numColumns ≤ bounds.maxColumns :=
  columnCount_bounds key bounds record.numColumns
    (generateColumnCount_eq_numColumns key bounds record generated)

/-- The columns of a record are numbered from zero on, in order. -/
theorem numbers_of_generate (key : Int) (bounds : Bounds) (record : Record)
    (generated : generate key bounds = .ok record) :
    record.columns.numbers = (List.range record.numColumns).map Int.ofNat := by
  obtain ⟨_, count, counted, drawn⟩ := generate_eq_ok key bounds record generated
  have same := counted.symm.trans (generateColumnCount_eq_numColumns key bounds record generated)
  cases same
  exact mapM_generateCell_fst key bounds _ _ drawn

/-- Each cell of a record has the content that is generated for its column. -/
theorem value_of_mem_cells (key : Int) (bounds : Bounds) (record : Record)
    (generated : generate key bounds = .ok record) (cell : Int × Bytes)
    (member : cell ∈ record.columns.cells) :
    generateValue key cell.1 bounds = .ok cell.2 := by
  obtain ⟨_, count, _, drawn⟩ := generate_eq_ok key bounds record generated
  obtain ⟨column, _, made⟩ := exists_of_mem_mapM _ _ _ drawn cell member
  obtain ⟨number, valued⟩ := (generateCell_eq_ok_iff key bounds column cell).mp made
  rw [number]
  exact valued

/-- The columns of a record are below the greatest number of columns, and its cells are no longer
than the greatest size. -/
theorem cell_bounds_of_generate (key : Int) (bounds : Bounds) (record : Record)
    (generated : generate key bounds = .ok record) (cell : Int × Bytes)
    (member : cell ∈ record.columns.cells) :
    0 ≤ cell.1 ∧ cell.1 < bounds.maxColumns ∧ cell.2.length ≤ bounds.maxSize := by
  have numbered : cell.1 ∈ record.columns.numbers := List.mem_map_of_mem member
  rw [numbers_of_generate key bounds record generated] at numbered
  obtain ⟨column, known, equal⟩ := List.mem_map.mp numbered
  have below : column < record.numColumns := List.mem_range.mp known
  have most := (numColumns_bounds key bounds record generated).2
  obtain ⟨size, stream, sized, content⟩ := generateValue_eq_ok key cell.1 bounds cell.2
    (value_of_mem_cells key bounds record generated cell member)
  refine ⟨?_, ?_, ?_⟩
  · rw [← equal]
    exact Int.natCast_nonneg column
  · rw [← equal]
    exact Int.ofNat_lt.mpr (Nat.lt_of_lt_of_le below most)
  · rw [content, length_cellContent]
    exact sized.2

/-- Only keys that are not negative have records. -/
theorem nonneg_of_generate (key : Int) (bounds : Bounds) (record : Record)
    (generated : generate key bounds = .ok record) : 0 ≤ key := by
  rw [generate] at generated
  split at generated
  · cases generated
  · rename_i nonneg
    exact Int.not_lt.mp nonneg

/-! ### The shape of a record -/

theorem numBytes_eq_sum (record : Record) :
    record.numBytes = (record.columns.cells.map fun cell => cell.2.length).sum := by
  rw [Record.numBytes, List.sum_eq_foldl, List.foldl_map]

/-- The record of a key has this shape: its columns are numbered from zero on, in order, and as many
as the bounds allow; every cell has a size within the bounds, and agrees with the text of its key
and its column as far as both go; and its bytes are those of its cells. -/
structure Record.Shaped (key : Int) (bounds : Bounds) (record : Record) : Prop where
  key_eq : record.key = key
  minColumns_le : bounds.minColumns ≤ record.numColumns
  le_maxColumns : record.numColumns ≤ bounds.maxColumns
  numbers_eq : record.columns.numbers = (List.range record.numColumns).map Int.ofNat
  sized : ∀ column value, (column, value) ∈ record.columns.cells →
    bounds.minSize ≤ value.length ∧ value.length ≤ bounds.maxSize
  headed : ∀ column value, (column, value) ∈ record.columns.cells →
    ∃ header, asText header = toString key ++ ":" ++ toString column ++ ":" ∧
      value.take (min value.length header.length) = header.take (min value.length header.length)
  numBytes_eq : record.numBytes = (record.columns.cells.map fun cell => cell.2.length).sum

/-- Whenever there is a record for a key, it has the shape of one, whatever the bounds. -/
theorem shape_of_generate (key : Int) (bounds : Bounds) (record : Record)
    (generated : generate key bounds = .ok record) : record.Shaped key bounds where
  key_eq := generate_key key bounds record generated
  minColumns_le := (numColumns_bounds key bounds record generated).1
  le_maxColumns := (numColumns_bounds key bounds record generated).2
  numbers_eq := numbers_of_generate key bounds record generated
  sized column value member := by
    obtain ⟨size, stream, sized, rfl⟩ := generateValue_eq_ok key column bounds value
      (value_of_mem_cells key bounds record generated _ member)
    rw [length_cellContent]
    exact sized
  headed column value member := by
    obtain ⟨size, stream, _, rfl⟩ := generateValue_eq_ok key column bounds value
      (value_of_mem_cells key bounds record generated _ member)
    refine ⟨cellHeader key column, asText_cellHeader key column, ?_⟩
    rw [length_cellContent]
    exact take_cellContent _ size stream
  numBytes_eq := numBytes_eq_sum record

/-- The three cells of this record are longer than their header, just as long, and shorter. -/
theorem shape_of_generate_around_header :
    ∃ record, generate 9 .aroundHeader = .ok record ∧
      record.columns.cells.map Prod.snd = [[57, 58, 48, 58, 222], [57, 58, 49, 58], [57, 58, 50]] ∧
      record.Shaped 9 .aroundHeader := by
  have known : (generate 9 .aroundHeader).toOption.map
      (fun record => record.columns.cells.map Prod.snd) =
        some [[57, 58, 48, 58, 222], [57, 58, 49, 58], [57, 58, 50]] := by
    decide +kernel
  cases generated : generate 9 .aroundHeader with
  | error error => rw [generated] at known; cases known
  | ok record =>
    rw [generated] at known
    exact ⟨record, rfl, Option.some.inj known, shape_of_generate 9 _ record generated⟩

end LoadVerifier
