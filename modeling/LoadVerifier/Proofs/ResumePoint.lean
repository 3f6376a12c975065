/-
This file proves that the watermark is a valid point to resume at. Let a writer start on keys that
have no rows, and end in any way. Let another writer with the same bounds go from the key after the
watermark to the end of the range, in either write mode, and report that it went well. Then every
key of the range has the row of its record, and a full read pass over the range finds no error.

The second writer touches no key up to the watermark, and there the rows are those of the records
already. The rows above are covered by the records, and the second writer lays the records over
them.
-/
import LoadVerifier.Proofs.FullVerification
import LoadVerifier.Proofs.WriterReport

namespace LoadVerifier

/-! ### Reading the rows of the records -/

/-- The rows of a range are those of the records. -/
def HoldsRecords (bounds : Bounds) (range : KeyRange) (rows : Contents) : Prop :=
  ∀ key, range.start ≤ key → key < range.limit → ∃ record,
    generate key bounds = .ok record ∧ rows key = some record.columns.find?

/-- A read plan that compares every row of a range. -/
structure ReadPlan.ComparesAll (plan : ReadPlan) (bounds : Bounds) (range : KeyRange) : Prop where
  bounds_eq : plan.bounds = bounds
  range_eq : plan.range = range
  verifyPercent_eq : plan.verifyPercent = 100
  seed_eq : ∃ seed, plan.seed = .value seed ∧ 0 ≤ seed

section Reading

variable {Storage : Type} [Store Storage] {contents : Storage → Contents}
  {regular : Storage → Prop}

/-- A store that keeps rows shows those that it holds. -/
theorem KeepsRows.exists_shows (keeps : KeepsRows Storage contents regular) (store : Storage)
    (isRegular : regular store) :
    ∃ rows : Int → Option Columns,
      (∀ key, (rows key).map ColumnMap.find? = contents store key) ∧
        Shows Storage (fun key => some (rows key)) fun other =>
          regular other ∧ contents other = contents store := by
  have held : ∀ key, ∃ row : Option Columns, row.map ColumnMap.find? = contents store key := by
    intro key
    obtain ⟨_, _, row, _, same⟩ := keeps.read store ⟨.reader, 0⟩ key isRegular
    exact ⟨row, same⟩
  choose rows same using held
  refine ⟨rows, same, fun other caller key ⟨otherRegular, otherSame⟩ => ?_⟩
  obtain ⟨stillRegular, unchanged, row, read, equal⟩ := keeps.read other caller key otherRegular
  refine ⟨⟨stillRegular, unchanged.trans otherSame⟩, ?_⟩
  rw [read]
  exact ⟨rows key, rfl, by rw [equal, otherSame, same]⟩

/-- Keys whose rows are those of their records are not bad. -/
theorem HoldsRecords.badKeys_eq_nil (plan : ReadPlan) (rows : Int → Option Columns)
    (holds : HoldsRecords plan.bounds plan.range fun key => (rows key).map ColumnMap.find?) :
    plan.badKeys (fun key => some (rows key)) = [] := by
  refine List.filter_eq_nil_iff.mpr fun key inside bad => ?_
  obtain ⟨low, high⟩ := Int.mem_range_iff.mp inside
  obtain ⟨record, generated, held⟩ := holds key low high
  obtain ⟨columns, shown, equal⟩ := Option.map_eq_some_iff.mp held
  rcases of_decide_eq_true bad with refused | missing | ⟨_, other, alike, regenerated, wrong⟩
  · cases refused
  · cases shown.symm.trans (Option.some.inj missing)
  · cases shown.symm.trans (Option.some.inj alike)
    cases generated.symm.trans regenerated
    exact wrong equal

/-- A full read pass over rows that are those of the records comes to its end without an error. -/
theorem HoldsRecords.clean_pass {Source : Type} [WatermarkSource Source] {bounds : Bounds}
    {range : KeyRange} (store : Storage) (holds : HoldsRecords bounds range (contents store))
    (keeps : KeepsRows Storage contents regular) (isRegular : regular store) (plan : ReadPlan)
    (comparesAll : plan.ComparesAll bounds range) (threads : Int) (reader : Reader)
    (starts : plan.Starts threads reader) (schedule : List Nat)
    (audit : ReaderAudit Storage Source)
    (ran : replay ReaderAudit.work ⟨reader, ⟨store, none⟩, {}⟩ schedule = some audit) :
    schedule.length ≤ 8 * range.size + 4 * threads.toNat ∧
      (Pool.finished audit.reader = false → ∃ worker, (audit.work worker).isSome) ∧
      (Pool.finished audit.reader = true →
        audit.reader.wait = some (.ok ⟨.completed, range.size, range.size, 0, 0, []⟩)) := by
  obtain ⟨rfl, rfl, percent, seed, seeded, nonneg⟩ := comparesAll
  obtain ⟨rows, same, shows⟩ := keeps.exists_shows store isRegular
  have generates : plan.Generates := fun key low high => (holds key low high).imp fun _ => And.left
  obtain ⟨verifying, bounded⟩ := ReaderAudit.verifying_of_replay shows plan percent seed seeded
    nonneg generates threads reader starts store ⟨isRegular, rfl⟩ schedule audit ran
  have clean : plan.badKeys (fun key => some (rows key)) = [] :=
    HoldsRecords.badKeys_eq_nil plan rows (funext same ▸ holds)
  have readable : plan.refusedKeys (fun key => some (rows key)) = [] :=
    List.filter_eq_nil_iff.mpr fun key _ refused => nomatch of_decide_eq_true refused
  have tolerant := (plan.eq_spawn_of_starts threads reader starts).1.maxErrors_nonneg
  refine ⟨bounded, fun unfinished => ReaderAudit.exists_work audit verifying.kept.counted
    verifying.kept.some_worker unfinished, fun finished => ?_⟩
  rw [verifying.wait_eq finished,
    verifying.result_of_tolerated finished generates (by rw [clean]; exact tolerant), clean,
    readable]
  simp only [List.length_nil, Int.natCast_zero, sub_zero]

end Reading

/-! ### Resuming -/

namespace WriterLife

variable {Storage Source : Type} [Store Storage] [WatermarkSource Source]
  {contents : Storage → Contents} {regular readable : Storage → Prop}

/-- The watermark is a valid point to resume at. A first writer starts on keys without rows, and at
some moment it ends, whatever has happened to it by then: calls were refused or broke without
effect, workers died, somebody asked it to stop. Then the keys above its watermark are a range, and
a second writer may go through it with the same bounds, in either write mode. If only its workers
take steps, no call is refused and no key is lost, it reports well when it is finished. And if it
reports well, every key of the whole range has the row of its record; so a full read pass over the
whole range comes to its end, has verified all keys, and has found no error. -/
theorem watermark_resumes (atomic : AtomicWrites Storage contents regular)
    (keeps : KeepsRows Storage contents readable) (store : Storage) (isRegular : regular store)
    (past : List (WriterEvent Storage)) (own : ∀ event ∈ past, event.own = true)
    (first : WriterLife Storage) (ran : LoadVerifier.replay step (new store) past = some first)
    (range : KeyRange) (ranged : first.writer.range? = some range) (bounds : Bounds)
    (bounded : first.writer.state.bounds = some bounds)
    (rowless : ∀ key, range.start ≤ key → key < range.limit → contents store key = none)
    (generates : ∀ key, range.start ≤ key → key < range.limit →
      ∃ record, generate key bounds = .ok record) :
    ∃ rest, KeyRange.make (first.writer.watermark + 1) range.limit = .ok rest ∧
      ∀ multiPut threads writer, WritePlan.Starts ⟨bounds, multiPut, rest⟩ threads writer →
      ∀ resumed, regular resumed → contents resumed = contents first.store →
      ∀ future, (∀ event ∈ future, event.own = true) →
      ∀ second, LoadVerifier.replay step ⟨writer, resumed, {}⟩ future = some second →
        ((∀ event ∈ future, ∃ worker, event = .work worker) → second.ledger.refused = [] →
            second.ledger.lost = [] → Pool.finished second.writer = true →
            ∃ result, second.writer.wait = some (.ok result) ∧ result.ok = true) ∧
          ∀ result, second.writer.wait = some (.ok result) → result.ok = true →
            HoldsRecords bounds range (contents second.store) ∧
              ∀ plan : ReadPlan, plan.ComparesAll bounds range →
              ∀ threads reader, plan.Starts threads reader →
              ∀ settled, readable settled → contents settled = contents second.store →
              ∀ schedule, ∀ audit : ReaderAudit Storage Source,
                LoadVerifier.replay ReaderAudit.work ⟨reader, ⟨settled, none⟩, {}⟩ schedule =
                    some audit →
                  schedule.length ≤ 8 * range.size + 4 * threads.toNat ∧
                    (Pool.finished audit.reader = false → ∃ worker, (audit.work worker).isSome) ∧
                    (Pool.finished audit.reader = true → audit.reader.wait =
                      some (.ok ⟨.completed, range.size, range.size, 0, 0, []⟩)) := by
  have traced : first.Traced contents regular (contents store) :=
    (traced_new store isRegular).replay atomic past own first ran
  obtain ⟨rest, made, start, limit, within⟩ := traced.stage.exists_rest range ranged
  refine ⟨rest, made, fun multiPut threads writer starts resumed isResumed same future ownFuture
    second continued => ?_⟩
  obtain ⟨begun, unhindered⟩ :
      Alone contents regular _ (contents resumed) ⟨writer, resumed, {}⟩ ∧ _ :=
    alone_of_starts threads writer starts resumed isResumed
  have alone := begun.replay atomic future ownFuture second continued
  refine ⟨fun working => alone.reports_well
    (begun.unhindered atomic unhindered future working second continued),
    fun result waited well => ?_⟩
  have holds : HoldsRecords bounds range (contents second.store) := by
    intro key low high
    obtain ⟨record, generated⟩ := generates key low high
    obtain ⟨laid, untouched⟩ := alone.contents_of_ok result waited well key
    refine ⟨record, generated, ?_⟩
    by_cases above : rest.start ≤ key
    · rw [laid record above (limit ▸ high) generated, same]
      exact congrArg some (traced.covers bounds bounded key (rowless key low high) record generated)
    · rw [untouched (not_le.mp above), same]
      exact traced.row_of_le_watermark range ranged bounds bounded key low (by omega)
        (rowless key low high) record generated
  exact ⟨holds, fun plan comparesAll readThreads reader readStarts settled isReadable unchanged
    schedule audit audited => HoldsRecords.clean_pass settled (unchanged ▸ holds) keeps isReadable
      plan comparesAll readThreads reader readStarts schedule audit audited⟩

/-- A store that breaks at key 1 and refuses the second cell of key 2. -/
def breaking : FaultyStore := { faults := { broken := [1], failingCells := [(2, 1)] } }

/-- One worker writes key 0 and half of key 2, and the other one crashes at key 1. -/
def cutShort : List (WriterEvent FaultyStore) :=
  [.configure false 1 2 1 4, .begin .three 2, .track, .spawn 2 0.0] ++
    [0, 0, 1, 1, 0, 0, 0, 0, 0, 0, 1, 1, 0, 0, 0, 0, 0, 1].map .work

/-- Keys 1 and 2 once more, each row in one call. -/
def resumption : WritePlan where
  bounds := .small
  multiPut := true
  range := .oneAndTwo

/-- Two workers take turns until both have left. -/
def inTurns : List (WriterEvent FaultyStore) := (List.replicate 8 [.work 0, .work 1]).flatten

/-- All rows are compared, and no error is allowed. -/
def checking : ReadPlan where
  bounds := .small
  seed := .value 7
  verifyPercent := 100
  maxErrors := 0
  keyWindow := 0
  range := .three

/-- Two readers take turns until both have left. -/
def readingTurns : List Nat := (List.replicate 10 [0, 1]).flatten ++ List.replicate 6 0

theorem watermark_resumes_after_crash_and_refusal :
    ∃ (first second : WriterLife FaultyStore) (audit : ReaderAudit FaultyStore ScriptedSource),
      LoadVerifier.replay step (new breaking) cutShort = some first ∧
        LoadVerifier.replay step ⟨resumption.idle.spawn .checkStop 2 0.0,
          { memory := first.store.memory }, {}⟩ inTurns = some second ∧
        LoadVerifier.replay ReaderAudit.work ⟨checking.idle.spawn .seed 2 0.0,
          ⟨{ memory := second.store.memory }, none⟩, {}⟩ readingTurns = some audit ∧
        first.writer.watermark = 0 ∧ first.ledger.lost = [1] ∧ first.ledger.failed = [2] ∧
        audit.reader.wait = some (.ok ⟨.completed, 3, 3, 0, 0, []⟩) := by
  have known : ((LoadVerifier.replay step (new breaking) cutShort).bind fun first =>
      (LoadVerifier.replay step ⟨resumption.idle.spawn .checkStop 2 0.0,
          { memory := first.store.memory }, {}⟩ inTurns).bind fun second =>
        (LoadVerifier.replay ReaderAudit.work (⟨checking.idle.spawn .seed 2 0.0,
            ⟨{ memory := second.store.memory }, none⟩, {}⟩ :
            ReaderAudit FaultyStore ScriptedSource) readingTurns).map fun audit =>
          ((first.writer.watermark, first.ledger.lost, first.ledger.failed),
            (first.writer.range?, first.writer.state.bounds),
            (second.writer.wait.bind Except.toOption).map WriteResult.ok,
            Pool.finished audit.reader)) =
        some ((0, [1], [2]), (some .three, some .small), some true, true) := by
    decide +kernel
  obtain ⟨first, ran, known⟩ := Option.bind_eq_some_iff.mp known
  obtain ⟨second, continued, known⟩ := Option.bind_eq_some_iff.mp known
  obtain ⟨audit, audited, seen⟩ := Option.map_eq_some_iff.mp known
  simp only [Prod.mk.injEq] at seen
  obtain ⟨⟨mark, lost, failed⟩, ⟨ranged, bounded⟩, reported, finished⟩ := seen
  obtain ⟨result, found, well⟩ := Option.map_eq_some_iff.mp reported
  obtain ⟨outcome, waited, returned⟩ := Option.bind_eq_some_iff.mp found
  cases outcome with
  | error failure => cases returned
  | ok report =>
    cases returned
    obtain ⟨rest, made, resumes⟩ := @watermark_resumes FaultyStore ScriptedSource _ _ _ _ _
      faultyStore_atomicWrites (faultyStore_keepsRows {}) breaking trivial cutShort (by decide)
      first ran .three ranged .small bounded (fun _ _ _ => rfl)
      (generates_of_isSome .three .small (by decide +kernel))
    rw [mark] at made
    cases made
    have clean := ((resumes true 2 _ ⟨1, 2, 1, 4, _, 0.0, rfl, rfl, rfl⟩
      { memory := first.store.memory } trivial rfl inTurns (by decide) second continued).2
        _ waited well).2 checking ⟨rfl, rfl, rfl, 7, rfl, by decide⟩ 2 _
          ⟨checking.ready, 0.0, rfl, rfl⟩ { memory := second.store.memory } ⟨rfl, rfl, rfl⟩ rfl
          readingTurns audit audited
    exact ⟨first, second, audit, ran, continued, audited, mark, lost, failed, clean.2.2 finished⟩

end WriterLife

end LoadVerifier
