/-
This file proves that whatever an accepted run writes fits its table. The key column holds signed
numbers of 64 bits and the column number one of 32 bits. The largest average of columns that a write
spec may give is 2 ^ 30, a record has less than twice as many columns, and a range ends before the
largest key; so both types are used up to their last numbers, and never left.

The averages are followed from the text of the spec to the bounds, from there to the record of every
key that a worker claims, and from the record to every store call that was done. The store may do
what it likes, and the run may be interrupted at any moment.
-/
import LoadVerifier.Proofs.AcceptedSettings
import LoadVerifier.Proofs.RecordShape
import LoadVerifier.Proofs.WriterCutShort

namespace LoadVerifier

variable {Storage : Type} {options : Options}

/-! ### From the spec to the bounds -/

/-- The averages that a spec begins with: the number of columns, and the size of a cell. -/
def BeginsWithAverages (text : String) (averageColumns averageSize : Int) : Prop :=
  ∃ columns size rest, (colonFields text.toList).map String.ofList = columns :: size :: rest ∧
    Text.readInteger? columns = some averageColumns ∧ Text.readInteger? size = some averageSize

theorem readInteger?_of_parseInteger {text : String} {low high value : Int} {what : String}
    (parsed : parseInteger text low high what = .ok value) :
    Text.readInteger? text = some value := by
  unfold parseInteger at parsed
  split at parsed
  · cases parsed
  · rename_i read
    split at parsed
    · cases parsed
      exact read
    · cases parsed

/-- Bounds around averages allow twice the average number of columns, and one and a half times the
average size. -/
theorem maxima_of_ofAverages {averageColumns averageSize : Int} {bounds : Bounds}
    (made : Bounds.ofAverages averageColumns averageSize = .ok bounds) :
    bounds.maxColumns = 2 * averageColumns ∧ bounds.maxSize = 3 * averageSize / 2 := by
  unfold Bounds.ofAverages at made
  split at made
  · cases made
  split at made
  · cases made
  obtain ⟨_, columns, _, size⟩ := Bounds.make_eq_ok made
  exact ⟨columns, by rw [size, Int.mul_comm]⟩

/-- The bounds of a write spec are made around the averages that it begins with, which are within
their limit. -/
theorem maxima_of_parseWriteSpec {text : String} {multiPut : Bool} {spec : WriteSpec}
    (parsed : parseWriteSpec text multiPut = .ok spec) :
    ∃ averageColumns averageSize, BeginsWithAverages text averageColumns averageSize ∧
      averageColumns ≤ maxAverage ∧ spec.bounds.maxColumns = 2 * averageColumns ∧
        spec.bounds.maxSize = 3 * averageSize / 2 := by
  obtain ⟨fields, isFields, parsed⟩ := bind_eq_ok.mp parsed
  split at parsed
  · rename_i columns size rest
    obtain ⟨bounds, isBounds, parsed⟩ := bind_eq_ok.mp parsed
    obtain ⟨threads, _, parsed⟩ := bind_eq_ok.mp parsed
    cases parsed
    obtain ⟨averageColumns, isColumns, isBounds⟩ := bind_eq_ok.mp isBounds
    obtain ⟨averageSize, isSize, made⟩ := bind_eq_ok.mp isBounds
    obtain ⟨maxColumns, maxSize⟩ := maxima_of_ofAverages made
    have split : (colonFields text.toList).map String.ofList = columns :: size :: rest := by
      unfold splitFields at isFields
      dsimp only at isFields
      split at isFields
      · exact Except.ok.inj isFields
      · cases isFields
    exact ⟨averageColumns, averageSize,
      ⟨columns, size, rest, split, readInteger?_of_parseInteger isColumns,
        readInteger?_of_parseInteger isSize⟩,
      (parseInteger_eq_ok _ _ _ _ _ isColumns).2, maxColumns, maxSize⟩
  · cases parsed

/-- The bounds of a run that writes are those of its write spec. -/
theorem Arguments.Grants.maxima {arguments : Arguments} (grants : arguments.Grants options)
    (text : String) (given : givenText arguments.write = some text) :
    ∃ averageColumns averageSize, BeginsWithAverages text averageColumns averageSize ∧
      averageColumns ≤ maxAverage ∧ options.bounds.maxColumns = 2 * averageColumns ∧
        options.bounds.maxSize = 3 * averageSize / 2 := by
  have asked := isSome_of_mapM_eq_ok grants.write
  rw [given] at asked
  obtain ⟨spec, isSpec⟩ := Option.isSome_iff_exists.mp asked
  obtain ⟨other, same, parsed⟩ := mapM_eq_ok grants.write spec isSpec
  cases given.symm.trans same
  obtain ⟨data, _, resolved⟩ := grants.bounds
  have bounds_eq : options.bounds = spec.bounds := by
    rw [isSpec] at resolved
    unfold resolveBounds at resolved
    split at resolved
    · rename_i own _ first _
      cases first
      split at resolved
      · exact (Except.ok.inj resolved).symm
      · cases resolved
    · rename_i own first _
      cases first
      exact (Except.ok.inj resolved).symm
    · rename_i impossible _
      cases impossible
    · rename_i impossible _
      cases impossible
  rw [bounds_eq]
  exact maxima_of_parseWriteSpec (mapError_eq_ok.mp parsed)

/-! ### From the bounds to the store calls -/

/-- A cell of a key fits its table: the key and the number of the column are in the range of their
types, and the value is not longer than allowed. -/
structure FitsTable (longest : Int) (key : Int) (cell : Int × Bytes) : Prop where
  key_nonneg : 0 ≤ key
  key_le : key ≤ 2 ^ 63 - 2
  column_nonneg : 0 ≤ cell.1
  column_le : cell.1 ≤ 2 ^ 31 - 1
  length_le : cell.2.length ≤ longest

/-- A store call for a record writes cells of the record. -/
theorem mem_cells_of_mem_callsFor (multiPut : Bool) (record : Record) (call : Columns)
    (member : call ∈ Writer.callsFor multiPut record) (cell : Int × Bytes)
    (written : cell ∈ call.cells) : cell ∈ record.columns.cells := by
  rw [Writer.callsFor] at member
  split at member
  · rw [List.mem_singleton.mp member] at written
    exact written
  · obtain ⟨other, among, rfl⟩ := List.mem_map.mp member
    rw [List.mem_singleton.mp written]
    exact among

/-- The keys of the range of a run, and the cells of their records, fit the table. -/
theorem fitsTable_of_generate {averageColumns averageSize : Int}
    (few : averageColumns ≤ maxAverage)
    (maxColumns : options.bounds.maxColumns = 2 * averageColumns)
    (maxSize : options.bounds.maxSize = 3 * averageSize / 2) (key : Int) (record : Record)
    (high : key < options.range.limit) (generated : generate key options.bounds = .ok record)
    (cell : Int × Bytes) (member : cell ∈ record.columns.cells) :
    FitsTable (3 * averageSize / 2) key cell := by
  have nonneg := nonneg_of_generate key options.bounds record generated
  obtain ⟨column_nonneg, column_lt, length_le⟩ :=
    cell_bounds_of_generate key options.bounds record generated cell member
  have most := options.range.limit_le_maxKey
  unfold maxKey at most
  unfold maxAverage at few
  refine ⟨nonneg, ?_, column_nonneg, ?_, ?_⟩
  · omega
  · omega
  · omega

/-! ### The keys of a run -/

/-- Anything may happen to the store, and the store calls of the writer belong to the records of
their keys. -/
def Conduct.admitting (Storage : Type) (options : Options) : Conduct Storage :=
  { Conduct.any Storage options True with
    writing := fun life =>
      life.Kept options.writePlan ∧ options.writePlan.Admits life.ledger }

theorem Conduct.admitting_kept [Store Storage] :
    (Conduct.admitting Storage options).Kept options :=
  { @Conduct.any_kept Storage options True _ with
    writer_starts := fun threads writer store starts _ =>
      ⟨WriterLife.kept_of_starts threads writer starts store, nofun⟩
    writer_works := fun life worker next admits _ worked =>
      ⟨⟨admits.1.work worked, (WriterLife.change_of_work life next worker worked).admits
        admits.1.faithful admits.2⟩, trivial⟩
    writer_stops := fun _ _ admits => ⟨admits.1.stop, admits.2⟩
    writer_outside := fun _ store admits => ⟨admits.1.outside store, admits.2⟩
    writer_faithful := fun _ admits => admits.1.faithful
    writer_counted := fun _ admits => admits.1.counted
    writer_staffed := fun _ admits => admits.1.some_worker }

namespace RunLife

/-- The keys that the pools of a run have handed out to their workers. -/
def handedOut (life : RunLife Storage) : List Int :=
  life.ledger.claimed ++ life.account.claims.map Prod.snd

variable {life : RunLife Storage}

theorem Underway.mem_range_of_handedOut
    (underway : Underway (.admitting Storage options) options life)
    (key : Int) (handed : key ∈ life.handedOut) :
    options.range.start ≤ key ∧ key < options.range.limit := by
  rcases List.mem_append.mp handed with claimed | claimed
  · rcases underway.writer.untouched_or_goes with untouched | ⟨writer, _, kept, _⟩
    · rw [show life.ledger = {} from untouched] at claimed
      cases claimed
    · obtain ⟨cursor, _, ranged, keys⟩ := kept.faithful.accounted.claimed
      have most := cursor.next_le_limit
      rw [show life.ledger.claimed = _ from keys] at claimed
      obtain ⟨low, high⟩ := Int.mem_range_iff.mp claimed
      rw [ranged] at most
      exact ⟨low, high.trans_le most⟩
  · rcases underway.reader.untouched_or_goes with untouched | ⟨reader, _, kept, _⟩
    · rw [show life.account = {} from untouched] at claimed
      cases claimed
    · obtain ⟨cursor, _, ranged, keys⟩ := kept.claimed
      have most := cursor.next_le_limit
      rw [show life.account.claims.map Prod.snd = _ from keys] at claimed
      obtain ⟨low, high⟩ := Int.mem_range_iff.mp claimed
      rw [ranged] at most
      exact ⟨low, high.trans_le most⟩

/-- A store call that was done is one for the record of a key that was handed out. -/
theorem Underway.record_of_stored (underway : Underway (.admitting Storage options) options life)
    (call : Int × Columns) (stored : call ∈ life.ledger.stored) :
    call.1 ∈ life.handedOut ∧ ∃ record, generate call.1 options.bounds = .ok record ∧
      call.2 ∈ Writer.callsFor options.writePlan.multiPut record := by
  have found : call.2 ∈ life.ledger.storedFor call.1 :=
    List.mem_map_of_mem (List.mem_filter.mpr ⟨stored, decide_eq_true rfl⟩)
  rcases underway.writer.untouched_or_goes with untouched | ⟨writer, _, kept, admits⟩
  · rw [show life.ledger = {} from untouched] at stored
    cases stored
  · refine ⟨List.mem_append_left _ ?_, admits call.1 call.2 found⟩
    by_contra unclaimed
    rw [show life.ledger.storedFor call.1 = [] from
      kept.faithful.unclaimed call.1 unclaimed] at found
    cases found

end RunLife

/-- Whatever an accepted run writes fits its table. Every key that is handed out to a worker is a
number of 64 bits and has a record; the columns of the record have numbers of 32 bits, and its
values are at most one and a half times as long as the average that was asked for. The same holds of
every cell that was ever written. -/
theorem accepted_run_fits_table [Store Storage] (arguments : Arguments) (options : Options)
    (accepted : arguments.runOptions = .ok options) (text : String)
    (given : givenText arguments.write = some text) :
    ∃ averageColumns averageSize, BeginsWithAverages text averageColumns averageSize ∧
      ∀ store : Storage, ∃ run lines, Run.prepare options store = .ok (run, lines) ∧
        ∀ schedule life, replay RunLife.step { run } schedule = some life →
          (∀ key ∈ life.handedOut, (0 ≤ key ∧ key ≤ 2 ^ 63 - 2) ∧
            ∃ record, generate key options.bounds = .ok record ∧
              ∀ cell ∈ record.columns.cells, FitsTable (3 * averageSize / 2) key cell) ∧
          ∀ call ∈ life.ledger.stored, ∀ cell ∈ call.2.cells,
            FitsTable (3 * averageSize / 2) call.1 cell := by
  obtain ⟨possible, drawable, _⟩ := arguments.runOptions_eq_ok options accepted
  obtain ⟨averageColumns, averageSize, begins, few, maxColumns, maxSize⟩ :=
    (Arguments.grants_of_accepted accepted).maxima text given
  refine ⟨averageColumns, averageSize, begins, fun store => ?_⟩
  obtain ⟨lines, prepared⟩ := Run.prepare_eq_ok options possible store
  refine ⟨Run.ready options store, lines, prepared, fun schedule life ran => ?_⟩
  have underway : RunLife.Underway (.admitting Storage options) options life :=
    (RunLife.underway_ready (.admitting Storage options) store trivial).of_replay
      Conduct.admitting_kept possible schedule (fun _ _ _ => trivial) ran
  constructor
  · intro key handed
    obtain ⟨low, high⟩ := underway.mem_range_of_handedOut key handed
    obtain ⟨record, generated⟩ := Options.generates_of_drawable drawable key low high
    have nonneg := nonneg_of_generate key options.bounds record generated
    have most := options.range.limit_le_maxKey
    unfold maxKey at most
    exact ⟨⟨nonneg, by omega⟩, record, generated,
      fitsTable_of_generate few maxColumns maxSize key record high generated⟩
  · intro call stored cell written
    obtain ⟨handed, record, generated, among⟩ := underway.record_of_stored call stored
    exact fitsTable_of_generate few maxColumns maxSize call.1 record
      (underway.mem_range_of_handedOut call.1 handed).2 generated cell
        (mem_cells_of_mem_callsFor _ record call.2 among cell written)

/-- The main thread starts the writer, and its first worker claims a key and writes its record. -/
def oneKeyWritten : List RunEvent :=
  ([.main, .main] ++ List.replicate 6 (.writer 0) : List Actor).map fun actor => (actor, 0.0)

theorem accepted_run_fits_table_of_dry_run :
    ∃ options run lines life, dryRun.runOptions = .ok options ∧
      Run.prepare options ({} : MemoryStore) = .ok (run, lines) ∧
        replay RunLife.step { run } oneKeyWritten = some life ∧ life.handedOut = [0] ∧
          life.ledger.stored ≠ [] ∧
            ∀ call ∈ life.ledger.stored, ∀ cell ∈ call.2.cells, FitsTable 13 call.1 cell := by
  have known : (dryRun.runOptions.toOption.bind fun options =>
      (Run.prepare options ({} : MemoryStore)).toOption.bind fun prepared =>
        (replay RunLife.step { run := prepared.1 } oneKeyWritten).map fun life =>
          (life.handedOut, life.ledger.stored.isEmpty)) = some ([0], false) := by
    decide +kernel
  obtain ⟨options, isAccepted, known⟩ := Option.bind_eq_some_iff.mp known
  obtain ⟨⟨run, lines⟩, isPrepared, known⟩ := Option.bind_eq_some_iff.mp known
  obtain ⟨life, ran, seen⟩ := Option.map_eq_some_iff.mp known
  obtain ⟨handedOut, written⟩ := Prod.mk.inj seen
  have accepted := eq_ok_of_toOption isAccepted
  have given : givenText dryRun.write = some "2:9:2" := by decide +kernel
  obtain ⟨averageColumns, averageSize, ⟨columns, size, rest, fields, _, isSize⟩, fits⟩ :=
    @accepted_run_fits_table MemoryStore _ dryRun options accepted "2:9:2" given
  have same : averageSize = 9 := by
    have split : (colonFields "2:9:2".toList).map String.ofList = ["2", "9", "2"] := by
      decide +kernel
    have read : Text.readInteger? "9" = some 9 := by decide +kernel
    cases split.symm.trans fields
    exact Option.some.inj (isSize.symm.trans read)
  subst same
  obtain ⟨other, _, prepared, holds⟩ := fits ({} : MemoryStore)
  cases (eq_ok_of_toOption isPrepared).symm.trans prepared
  refine ⟨options, run, lines, life, accepted, prepared, ran, handedOut, fun empty => ?_,
    (holds oneKeyWritten life ran).2⟩
  rw [empty] at written
  cases written

end LoadVerifier
