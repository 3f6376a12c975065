/-
This file proves that the result of a write pass does not depend on the schedule. A store refuses a
write exactly when one of the columns written belongs to a failing cell. Then the keys that fail are
those whose record has a failing cell, all others are written and counted, and the store ends as if
one worker had gone through the range in order.

The store calls that returned are good ones and the refused ones are bad, so the calls of a key
split in one way only. What the workers still have to count is balanced like the keys they hold.
-/
import LoadVerifier.Proofs.Schedule
import LoadVerifier.Proofs.WriterUndisturbed
import Mathlib

namespace LoadVerifier

/-! ### Failing cells -/

/-- Whether one of the columns belongs to a failing cell of a key. -/
def hits (failing : Int → Int → Bool) (key : Int) (columns : Columns) : Bool :=
  columns.numbers.any (failing key)

/-- A store refuses a write exactly when it hits a failing cell. -/
def Refuses (Storage : Type) [Store Storage] (regular : Storage → Prop)
    (failing : Int → Int → Bool) : Prop :=
  ∀ store caller key columns, regular store →
    ((∃ failure, (Store.write store caller key columns).1 = .failed failure) ↔
      hits failing key columns = true)

/-- A store with failing cells and no other faults of writes refuses as it should. -/
theorem refuses_of_failingCells (faults : Faults) (whole : faults.failingWrites = []) :
    Refuses FaultyStore (FaultyStore.Serves faults) fun key number =>
      faults.failingCells.contains (key, number) := by
  intro store caller key columns serves
  have hits_eq : hits (fun key number => faults.failingCells.contains (key, number)) key columns =
      FaultyStore.refusesWrite faults key columns := by
    rw [hits, FaultyStore.refusesWrite, whole, List.contains_nil, Bool.false_or,
      Bool.eq_iff_iff, List.any_eq_true, List.any_eq_true]
    constructor
    · rintro ⟨number, member, failing⟩
      exact ⟨(key, number), List.contains_iff_mem.mp failing, by simpa using member⟩
    · rintro ⟨⟨other, number⟩, failing, both⟩
      obtain ⟨same, member⟩ := (Bool.and_eq_true_iff).mp both
      cases eq_of_beq same
      exact ⟨number, List.contains_iff_mem.mp member, List.contains_iff_mem.mpr failing⟩
  rw [hits_eq, store.write_eq faults serves]
  split
  · rename_i refused
    exact iff_of_true ⟨_, rfl⟩ refused
  · rename_i accepted
    exact iff_of_false (fun ⟨failure, failed⟩ => nomatch failed) accepted

/-- A record has a failing cell if and only if one of its calls hits it, in both write modes. -/
theorem any_callsFor (failing : Int → Int → Bool) (multiPut : Bool) (record : Record) :
    (Writer.callsFor multiPut record).any (hits failing record.key) =
      hits failing record.key record.columns := by
  rw [Writer.callsFor]
  split
  · rw [List.any_cons, List.any_nil, Bool.or_false]
  · rw [List.any_map, hits, ColumnMap.numbers, List.any_map]
    refine congrArg _ (funext fun cell => ?_)
    simp [hits, ColumnMap.numbers, ColumnMap.single]

/-- The calls of a key up to the first one that hits a failing cell. -/
def goodCalls (failing : Int → Int → Bool) (key : Int) (calls : List Columns) : List Columns :=
  calls.takeWhile fun call => !hits failing key call

/-! ### One worker in order -/

section Sequential

variable {Storage : Type} [Store Storage]

/-- Makes the calls of a key one after another, up to the first one that does not return. -/
def writeCalls (store : Storage) (key : Int) : List Columns → Storage
  | [] => store
  | call :: rest =>
    match Store.write store ⟨.writer, 0⟩ key call with
    | (.done _, store) => writeCalls store key rest
    | (.failed _, store) | (.crashed _, store) => store

/-- Goes through keys in order and makes the calls of each. -/
def writeInOrder (plan : WritePlan) (store : Storage) : List Int → Storage
  | [] => store
  | key :: rest =>
    match generate key plan.bounds with
    | .error _ => store
    | .ok record =>
      writeInOrder plan (writeCalls store key (Writer.callsFor plan.multiPut record)) rest

variable {contents : Storage → Contents} {regular : Storage → Prop} {failing : Int → Int → Bool}

/-- What a store with failing cells does at a write. -/
theorem write_cases (merges : MergesWrites Storage contents regular)
    (refuses : Refuses Storage regular failing) (store : Storage) (isRegular : regular store)
    (caller : Caller) (key : Int) (columns : Columns) :
    regular (Store.write store caller key columns).2 ∧
      (hits failing key columns = false ∧
          (Store.write store caller key columns).1 = .done () ∧
          contents (Store.write store caller key columns).2 =
            (contents store).merge key columns ∨
        hits failing key columns = true ∧
          (∃ failure, (Store.write store caller key columns).1 = .failed failure) ∧
          contents (Store.write store caller key columns).2 = contents store) := by
  obtain ⟨stillRegular, ⟨done, merged⟩ | ⟨failed, unchanged⟩⟩ :=
    merges.write store caller key columns isRegular
  · refine ⟨stillRegular, Or.inl ⟨Bool.eq_false_iff.mpr fun hit => ?_, done, merged⟩⟩
    obtain ⟨failure, failed⟩ := (refuses store caller key columns isRegular).mpr hit
    cases done.symm.trans failed
  · exact ⟨stillRegular, Or.inr
      ⟨(refuses store caller key columns isRegular).mp failed, failed, unchanged⟩⟩

/-- Calls for a key change the row of the key only, and as far as they are good. -/
theorem contents_writeCalls (merges : MergesWrites Storage contents regular)
    (refuses : Refuses Storage regular failing) (store : Storage) (isRegular : regular store)
    (key : Int) (calls : List Columns) :
    regular (writeCalls store key calls) ∧
      contents (writeCalls store key calls) = Function.update (contents store) key
        (afterCalls (contents store key) (goodCalls failing key calls)) := by
  induction calls generalizing store with
  | nil => exact ⟨isRegular, (Function.update_eq_self key _).symm⟩
  | cons call rest inductionHypothesis =>
    obtain ⟨stillRegular, ⟨good, done, merged⟩ | ⟨bad, ⟨failure, failed⟩, unchanged⟩⟩ :=
      write_cases merges refuses store isRegular ⟨.writer, 0⟩ key call
    · have split : Store.write store ⟨.writer, 0⟩ key call =
          (.done (), (Store.write store ⟨.writer, 0⟩ key call).2) := Prod.ext done rfl
      obtain ⟨restRegular, rest⟩ := inductionHypothesis _ stillRegular
      rw [writeCalls, split]
      refine ⟨restRegular, rest.trans ?_⟩
      rw [merged, Contents.merge, Function.update_self, Function.update_idem, goodCalls, goodCalls,
        List.takeWhile_cons_of_pos (by rw [good]; rfl)]
      rfl
    · have split : Store.write store ⟨.writer, 0⟩ key call =
          (.failed failure, (Store.write store ⟨.writer, 0⟩ key call).2) := Prod.ext failed rfl
      rw [writeCalls, split, goodCalls, List.takeWhile_cons_of_neg (by rw [bad]; decide)]
      exact ⟨stillRegular, unchanged.trans (Function.update_eq_self key _).symm⟩

/-- After one worker went through keys in order, each of them has what its good calls make. -/
theorem contents_writeInOrder (merges : MergesWrites Storage contents regular)
    (refuses : Refuses Storage regular failing) (plan : WritePlan)
    (store : Storage) (isRegular : regular store) (keys : List Int) (distinct : keys.Nodup)
    (generated : ∀ key ∈ keys, generate key plan.bounds = .ok (plan.recordOf key)) (key : Int) :
    contents (writeInOrder plan store keys) key =
      if key ∈ keys then afterCalls (contents store key)
        (goodCalls failing key (Writer.callsFor plan.multiPut (plan.recordOf key)))
      else contents store key := by
  induction keys generalizing store with
  | nil => rfl
  | cons first rest inductionHypothesis =>
    rw [List.nodup_cons] at distinct
    obtain ⟨stillRegular, changed⟩ := contents_writeCalls merges refuses store isRegular first
      (Writer.callsFor plan.multiPut (plan.recordOf first))
    rw [writeInOrder, generated first List.mem_cons_self]
    refine (inductionHypothesis _ stillRegular distinct.2
      fun key member => generated key (List.mem_cons_of_mem _ member)).trans ?_
    by_cases same : key = first
    · subst same
      rw [if_neg distinct.1, if_pos List.mem_cons_self, changed, Function.update_self]
    · rw [changed, Function.update_of_ne same]
      by_cases member : key ∈ rest
      · rw [if_pos member, if_pos (List.mem_cons_of_mem _ member)]
      · rw [if_neg member, if_neg (fun either => (List.mem_cons.mp either).elim same member)]

end Sequential

/-! ### Good calls and bad calls -/

namespace WriterLife

open Pool (Moved)

variable {Storage : Type} [Store Storage] {contents : Storage → Contents}
  {regular : Storage → Prop} {failing : Int → Int → Bool} {plan : WritePlan} {initial : Contents}
  {life next : WriterLife Storage} {worker : Nat}

/-- The calls that returned are good, and the calls that were refused are bad. -/
structure Judged (failing : Int → Int → Bool) (ledger : WriteLedger) : Prop where
  stored : ∀ call ∈ ledger.stored, hits failing call.1 call.2 = false
  refused : ∀ call ∈ ledger.refused, hits failing call.1 call.2 = true

theorem Change.judged (change : Change life worker next)
    (merges : MergesWrites Storage contents regular) (refuses : Refuses Storage regular failing)
    (isRegular : regular life.store) (judged : Judged failing life.ledger) :
    Judged failing next.ledger := by
  cases change with
  | stored writer record call rest moved done shared state =>
    refine ⟨List.forall_mem_append.mpr ⟨judged.stored, ?_⟩, judged.refused⟩
    rw [List.forall_mem_singleton]
    obtain ⟨_, ⟨good, _⟩ | ⟨_, ⟨failure, failed⟩, _⟩⟩ :=
      write_cases merges refuses life.store isRegular ⟨.writer, worker⟩ record.key call
    · exact good
    · cases done.symm.trans failed
  | refused writer record call rest failure moved failed shared state =>
    refine ⟨judged.stored, List.forall_mem_append.mpr ⟨judged.refused, ?_⟩⟩
    rw [List.forall_mem_singleton]
    exact (refuses life.store ⟨.writer, worker⟩ record.key call isRegular).mp ⟨failure, failed⟩
  | _ => exact ⟨judged.stored, judged.refused⟩

omit [Store Storage] in
theorem Judged.not_hits (judged : Judged failing life.ledger) (key : Int) (call : Columns)
    (stored : call ∈ life.ledger.storedFor key) : (!hits failing key call) = true := by
  rw [judged.stored (key, call) ((life.ledger.mem_storedFor_iff key call).mp stored)]
  rfl

omit [Store Storage] in
/-- All calls of a completed key are good. -/
theorem Judged.of_wrote (judged : Judged failing life.ledger) (key : Int) (record : Record)
    (generated : generate key plan.bounds = .ok record) (wrote : plan.Wrote life.ledger key) :
    hits failing key record.columns = false ∧
      life.ledger.storedFor key =
        goodCalls failing key (Writer.callsFor plan.multiPut record) := by
  obtain ⟨other, otherGenerated, stored⟩ := wrote
  cases generated.symm.trans otherGenerated
  have good : ∀ call ∈ Writer.callsFor plan.multiPut record, (!hits failing key call) = true :=
    fun call member => judged.not_hits key call (stored ▸ member)
  refine ⟨?_, stored.trans (List.takeWhile_eq_self_iff.mpr good).symm⟩
  rw [← generate_key _ _ _ generated] at good ⊢
  rw [← any_callsFor failing plan.multiPut record, List.any_eq_false]
  exact fun call member hit => by simpa [hit] using good call member

omit [Store Storage] in
/-- A failed key has a bad call, and those before it were made. -/
theorem Judged.of_refused (judged : Judged failing life.ledger) (key : Int) (record : Record)
    (generated : generate key plan.bounds = .ok record) (refused : plan.Refused life.ledger key) :
    hits failing key record.columns = true ∧
      life.ledger.storedFor key =
        goodCalls failing key (Writer.callsFor plan.multiPut record) := by
  obtain ⟨other, call, rest, otherGenerated, split, refusedCall⟩ := refused
  cases generated.symm.trans otherGenerated
  have bad : hits failing key call = true := judged.refused (key, call) refusedCall
  refine ⟨?_, ?_⟩
  · rw [← generate_key _ _ _ generated] at bad ⊢
    rw [← any_callsFor failing plan.multiPut record, List.any_eq_true, ← split]
    exact ⟨call, List.mem_append_right _ List.mem_cons_self, bad⟩
  · rw [goodCalls, ← split, List.takeWhile_append_of_pos (judged.not_hits key),
      List.takeWhile_cons_of_neg (by rw [bad]; decide), List.append_nil]

/-! ### Counting -/

/-- The key that a worker has completed and not counted yet. -/
def uncountedAt : Position WriterTask → Multiset Int
  | .working (.count record) => {record.key}
  | .working .checkStop | .working .claim | .working (.write _ _) | .working (.fail _ _)
  | .working (.complete _) | .crashed _ | .leaving _ | .left _ => 0

/-- The counters agree with the ledger, and every completed key is counted or about to be. -/
structure Tallied (plan : WritePlan) (life : WriterLife Storage) : Prop where
  numKeys_eq : life.writer.shared.numKeys = life.ledger.counted.length
  numColumns_eq :
    life.writer.shared.numColumns = (life.ledger.counted.map Record.numColumns).sum
  conserved : (life.ledger.completed : Multiset Int) =
    ↑(life.ledger.counted.map Record.key) + life.writer.total uncountedAt
  generated : ∀ record ∈ life.ledger.counted, generate record.key plan.bounds = .ok record

omit [Store Storage] in
/-- A writer that was just started has nothing to count. -/
theorem tallied_of_starts (threads : Int) (writer : Writer) (starts : plan.Starts threads writer)
    (store : Storage) : (⟨writer, store, {}⟩ : WriterLife Storage).Tallied plan := by
  obtain ⟨_, now, rfl⟩ := eq_spawn_of_starts threads writer starts
  refine ⟨rfl, rfl, ?_, fun _ member => absurd member List.not_mem_nil⟩
  show (0 : Multiset Int) = 0 + Pool.total uncountedAt _
  rw [Pool.total_spawn, uncountedAt, nsmul_zero]
  rfl

omit [Store Storage] in
theorem uncountedAt_afterCall (record : Record) (rest : List Columns) :
    uncountedAt (.working (afterCall record rest)) = 0 := by
  rw [afterCall]
  split <;> rfl

omit [Store Storage] in
theorem uncountedAt_eq_of_pass {shared after : Shared} {before position : Position WriterTask}
    (pass : Pass shared before position after) :
    uncountedAt before = 0 ∧ uncountedAt position = 0 := by
  cases pass <;> exact ⟨rfl, rfl⟩

/-- A worker has to count after a step what it had to before and what it completed, but for what it
counted. -/
theorem Change.count_balance (change : Change life worker next) :
    ∃ before after completed counted, Moved life.writer next.writer worker before after ∧
      (next.ledger.completed : Multiset Int) = life.ledger.completed + completed ∧
      (next.ledger.counted.map Record.key : Multiset Int) =
        ↑(life.ledger.counted.map Record.key) + counted ∧
      uncountedAt before + completed = uncountedAt after + counted := by
  cases change with
  | passed writer before after moved pass state =>
    refine ⟨before, after, 0, 0, moved, (add_zero _).symm, (add_zero _).symm, ?_⟩
    rw [(uncountedAt_eq_of_pass pass).1, (uncountedAt_eq_of_pass pass).2]
  | stored writer record call rest moved done shared state =>
    refine ⟨_, _, 0, 0, moved, (add_zero _).symm, (add_zero _).symm, ?_⟩
    rw [uncountedAt_afterCall, uncountedAt]
  | completed writer record written after mark moved known accepted shared state =>
    exact ⟨_, _, {record.key}, 0, moved, (Multiset.coe_add _ _).symm, (add_zero _).symm,
      add_comm _ _⟩
  | counted writer record moved shared state =>
    refine ⟨_, _, 0, {record.key}, moved, (add_zero _).symm, ?_, add_comm _ _⟩
    rw [List.map_append, ← Multiset.coe_add]
    rfl
  | claimed writer cursor bounds record moved =>
    exact ⟨_, _, 0, 0, moved, (add_zero _).symm, (add_zero _).symm, rfl⟩
  | barren writer cursor crash moved =>
    exact ⟨_, _, 0, 0, moved, (add_zero _).symm, (add_zero _).symm, rfl⟩
  | refused writer record call rest failure moved =>
    exact ⟨_, _, 0, 0, moved, (add_zero _).symm, (add_zero _).symm, rfl⟩
  | broken writer record call rest crash moved =>
    exact ⟨_, _, 0, 0, moved, (add_zero _).symm, (add_zero _).symm, rfl⟩
  | failed writer key reason moved =>
    exact ⟨_, _, 0, 0, moved, (add_zero _).symm, (add_zero _).symm, rfl⟩
  | rejected writer record crash moved =>
    exact ⟨_, _, 0, 0, moved, (add_zero _).symm, (add_zero _).symm, rfl⟩

omit [Store Storage] in
theorem counters_eq_of_pass {shared after : Shared} {before position : Position WriterTask}
    (pass : Pass shared before position after) :
    after.numKeys = shared.numKeys ∧ after.numColumns = shared.numColumns := by
  cases pass <;> exact ⟨rfl, rfl⟩

/-- Every step of a worker keeps the counters in agreement with the ledger. -/
theorem Change.tallied (change : Change life worker next) (faithful : life.Faithful plan)
    (tallied : life.Tallied plan) : next.Tallied plan := by
  have conserved : (next.ledger.completed : Multiset Int) =
      ↑(next.ledger.counted.map Record.key) + next.writer.total uncountedAt := by
    obtain ⟨before, after, completed, counted, moved, completedEq, countedEq, balance⟩ :=
      change.count_balance
    rw [completedEq, countedEq]
    exact moved.conserved _ _ _ _ tallied.conserved balance
  cases change with
  | counted writer record moved shared state =>
    have fits := faithful.fits worker _ moved.position_eq
    refine ⟨?_, ?_, conserved, List.forall_mem_append.mpr ⟨tallied.generated, ?_⟩⟩
    · rw [shared, List.length_append, List.length_singleton, ← tallied.numKeys_eq]
    · rw [shared, List.map_append, List.sum_append, ← tallied.numColumns_eq]
      rfl
    · rw [List.forall_mem_singleton]
      exact fits.1
  | passed writer before after moved pass state =>
    exact ⟨(counters_eq_of_pass pass).1.trans tallied.numKeys_eq,
      (counters_eq_of_pass pass).2.trans tallied.numColumns_eq, conserved, tallied.generated⟩
  | _ =>
    rename_i shared state
    exact ⟨by rw [shared]; exact tallied.numKeys_eq, by rw [shared]; exact tallied.numColumns_eq,
      conserved, tallied.generated⟩

end WriterLife

/-! ### The result -/

namespace WritePlan

/-- The keys whose record has a failing cell, in ascending order. -/
def failingKeys (plan : WritePlan) (failing : Int → Int → Bool) :
    List Int :=
  (Int.range plan.range.start plan.range.limit).filter fun key =>
    hits failing key (plan.recordOf key).columns

/-- The keys whose record has no failing cell, in ascending order. -/
def goodKeys (plan : WritePlan) (failing : Int → Int → Bool) :
    List Int :=
  (Int.range plan.range.start plan.range.limit).filter fun key =>
    !hits failing key (plan.recordOf key).columns

/-- The result of a write pass with failing cells. -/
def result (plan : WritePlan) (failing : Int → Int → Bool) :
    WriteResult where
  keysWritten := plan.range.limit - plan.range.start - (plan.failingKeys failing).length
  columnsWritten := ((plan.goodKeys failing).map fun key => (plan.recordOf key).numColumns).sum
  failedKeys := plan.failingKeys failing
  watermark := (plan.failingKeys failing).min?.getD plan.range.limit - 1

/-- A key of the range has a failing cell or has none. -/
theorem length_goodKeys (plan : WritePlan) (failing : Int → Int → Bool) :
    ((plan.goodKeys failing).length : Int) =
      plan.range.limit - plan.range.start - (plan.failingKeys failing).length := by
  have ordered := plan.range.start_le_limit
  have split := List.length_eq_length_filter_add (l := Int.range plan.range.start plan.range.limit)
    fun key => hits failing key (plan.recordOf key).columns
  rw [length_range] at split
  rw [goodKeys, failingKeys]
  omega

end WritePlan

namespace WriterLife

variable {Storage : Type} {contents : Storage → Contents} {regular : Storage → Prop}
  {failing : Int → Int → Bool} {plan : WritePlan} {initial : Contents}
  {life next : WriterLife Storage}

/-- All that stays so during a write pass with failing cells. -/
structure Orderly (contents : Storage → Contents) (regular : Storage → Prop)
    (failing : Int → Int → Bool) (plan : WritePlan) (initial : Contents)
    (life : WriterLife Storage) : Prop where
  undisturbed : life.Undisturbed contents regular plan initial
  judged : Judged failing life.ledger
  tallied : life.Tallied plan
  counted : Pool.Counted life.writer
  some_worker : 0 < Pool.workerCount life.writer

theorem orderly_of_starts (threads : Int) (writer : Writer) (store : Storage)
    (starts : plan.Starts threads writer) (isRegular : regular store) :
    (⟨writer, store, {}⟩ : WriterLife Storage).Orderly contents regular failing plan
      (contents store) := by
  have start : (⟨writer, store, {}⟩ : WriterLife Storage).Undisturbed contents regular plan
      (contents store) ∧ Pool.Counted writer ∧ 0 < Pool.workerCount writer :=
    undisturbed_of_starts threads writer store starts isRegular
  exact ⟨start.1, ⟨fun _ member => absurd member List.not_mem_nil,
    fun _ member => absurd member List.not_mem_nil⟩,
    tallied_of_starts threads writer starts store, start.2.1, start.2.2⟩

/-- Every step of a worker keeps all this. -/
theorem Orderly.work [Store Storage] (orderly : life.Orderly contents regular failing plan initial)
    (merges : MergesWrites Storage contents regular) (refuses : Refuses Storage regular failing)
    (generates : plan.Generates) (worker : Nat) (worked : life.work worker = some next) :
    next.Orderly contents regular failing plan initial := by
  have change := change_of_work life next worker worked
  obtain ⟨before, after, moved⟩ := change.moved
  exact ⟨change.undisturbed merges generates orderly.undisturbed,
    change.judged merges refuses orderly.undisturbed.regular orderly.judged,
    change.tallied orderly.undisturbed.faithful orderly.tallied,
    counted_of_work worked orderly.counted,
    moved.workerCount_eq.symm ▸ orderly.some_worker⟩

/-- So it stays so whatever steps the workers of a started writer take. -/
theorem orderly_of_run [Store Storage] (merges : MergesWrites Storage contents regular)
    (refuses : Refuses Storage regular failing) (generates : plan.Generates) (threads : Int)
    (writer : Writer) (starts : plan.Starts threads writer) (store : Storage)
    (isRegular : regular store) (schedule : List Nat)
    (ran : replay WriterLife.work ⟨writer, store, {}⟩ schedule = some life) :
    life.Orderly contents regular failing plan (contents store) :=
  replay_invariant _ (fun _ worker _ orderly worked =>
      orderly.work merges refuses generates worker worked)
    _ life schedule (orderly_of_starts threads writer store starts isRegular) ran

/-- Nothing of this changes when others leave the rows as they are. -/
theorem Orderly.outside (orderly : life.Orderly contents regular failing plan initial)
    (store : Storage) (isRegular : regular store)
    (same : contents store = contents life.store) :
    { life with store }.Orderly contents regular failing plan initial := by
  obtain ⟨⟨faithful, _, contentsEq, lost, running, inOrder⟩, ⟨refused, stored⟩,
    ⟨numKeys, numColumns, conserved, generated⟩, counted, some_worker⟩ := orderly
  refine ⟨⟨faithful.outside store, isRegular, fun key => ?_, lost, running, inOrder⟩,
    ⟨refused, stored⟩, ⟨numKeys, numColumns, conserved, generated⟩, counted, some_worker⟩
  rw [same]
  exact contentsEq key

/-! ### The end -/

section Finished

variable (orderly : life.Orderly contents regular failing plan initial)
  (finished : Pool.finished life.writer = true)
  (generates : plan.Generates)

include orderly finished in
theorem Orderly.mem_range_iff (key : Int) :
    (plan.range.start ≤ key ∧ key < plan.range.limit) ↔
      key ∈ life.ledger.failed ∨ key ∈ life.ledger.completed := by
  obtain ⟨claimed, accounts⟩ :=
    orderly.undisturbed.accounts_of_finished orderly.counted orderly.some_worker finished
  rw [← Int.mem_range_iff, ← claimed, ← Multiset.mem_coe, accounts, Multiset.mem_add]
  rfl

include orderly finished generates in
/-- In the end the failed keys are those with a failing cell. -/
theorem Orderly.mem_failed_iff (key : Int) :
    key ∈ life.ledger.failed ↔ key ∈ plan.failingKeys failing := by
  rw [WritePlan.failingKeys, List.mem_filter, Int.mem_range_iff, orderly.mem_range_iff finished]
  have keyGenerated := fun inside : key ∈ life.ledger.failed ∨ key ∈ life.ledger.completed =>
    let bounds := (orderly.mem_range_iff finished key).mpr inside
    generates.recordOf key bounds.1 bounds.2
  constructor
  · intro failed
    have refused := orderly.undisturbed.faithful.failed key failed
    exact ⟨Or.inl failed,
      (orderly.judged.of_refused key _ (keyGenerated (Or.inl failed)) refused).1⟩
  · rintro ⟨failed | completed, bad⟩
    · exact failed
    · have wrote := orderly.undisturbed.faithful.completed key completed
      have good := (orderly.judged.of_wrote key _ (keyGenerated (Or.inr completed)) wrote).1
      rw [bad] at good
      cases good

include orderly finished generates in
/-- In the end the completed keys are those without a failing cell. -/
theorem Orderly.mem_completed_iff (key : Int) :
    key ∈ life.ledger.completed ↔ key ∈ plan.goodKeys failing := by
  have failed_iff := orderly.mem_failed_iff finished generates key
  have disjoint := orderly.undisturbed.faithful.accounted.not_completed_of_failed key
  rw [WritePlan.failingKeys, List.mem_filter, Int.mem_range_iff,
    orderly.mem_range_iff finished] at failed_iff
  rw [WritePlan.goodKeys, List.mem_filter, Int.mem_range_iff, orderly.mem_range_iff finished,
    Bool.not_eq_true']
  constructor
  · intro completed
    refine ⟨Or.inr completed, Bool.eq_false_iff.mpr fun bad => ?_⟩
    exact disjoint (failed_iff.mpr ⟨Or.inr completed, bad⟩) completed
  · rintro ⟨failed | completed, good⟩
    · rw [(failed_iff.mp failed).2] at good
      cases good
    · exact completed

include orderly finished generates in
theorem Orderly.failedKeys_eq :
    life.writer.state.failedKeys.toList = plan.failingKeys failing := by
  have ascending : life.writer.state.failedKeys.toList.Pairwise (· < ·) :=
    Std.TreeSet.ordered_toList.imp fun less => Std.compare_eq_lt.mp less
  refine ascending.eq_of_mem_iff ((ascending_range _ _).filter _) fun key => ?_
  rw [Std.TreeSet.mem_toList, orderly.undisturbed.faithful.accounted.mem_failedKeys,
    orderly.mem_failed_iff finished generates]

include orderly finished generates in
theorem Orderly.completed_perm :
    life.ledger.completed.Perm (plan.goodKeys failing) := by
  obtain ⟨_, _, tracks⟩ := orderly.undisturbed.faithful.accounted.tracked
  have distinct : (plan.goodKeys failing).Nodup := (nodup_range _ _).filter _
  rw [List.perm_ext_iff_of_nodup tracks.nodup distinct]
  exact orderly.mem_completed_iff finished generates

include orderly finished generates in
/-- In the end the watermark is just below the first failed key, or at the end of the range. -/
theorem Orderly.watermark_eq :
    life.writer.watermark = (plan.failingKeys failing).min?.getD plan.range.limit - 1 := by
  rw [← orderly.failedKeys_eq finished generates]
  exact orderly.undisturbed.faithful.accounted.watermark_eq_of_settled plan.range.limit
    plan.range.start_le_limit (orderly.mem_range_iff finished)

include orderly finished generates in
/-- In the end the counters are those of the keys without a failing cell. -/
theorem Orderly.counters_eq :
    life.writer.shared.numKeys = (plan.goodKeys failing).length ∧
      life.writer.shared.numColumns =
        ((plan.goodKeys failing).map fun key => (plan.recordOf key).numColumns).sum := by
  have tallied := orderly.tallied
  have conserved := tallied.conserved
  rw [orderly.counted.total_of_finished finished uncountedAt fun _ => rfl, add_zero,
    Multiset.coe_eq_coe] at conserved
  have perm := conserved.symm.trans (orderly.completed_perm finished generates)
  refine ⟨?_, ?_⟩
  · rw [tallied.numKeys_eq, ← perm.length_eq, List.length_map]
  · have own : ∀ record ∈ life.ledger.counted, plan.recordOf record.key = record := by
      intro record member
      have good : record.key ∈ plan.goodKeys failing :=
        perm.mem_iff.mp (List.mem_map_of_mem member)
      have inside := Int.mem_range_iff.mp (List.mem_filter.mp good).1
      exact Except.ok.inj ((generates.recordOf _ inside.1 inside.2).symm.trans
        (tallied.generated record member))
    rw [tallied.numColumns_eq, ← (perm.map _).sum_nat, List.map_map]
    refine congrArg List.sum (List.map_congr_left fun record member => ?_)
    rw [Function.comp_apply, own record member]

include orderly finished generates in
/-- In the end the result is the one given by the failing cells. -/
theorem Orderly.result_eq : life.writer.result = plan.result failing := by
  obtain ⟨numKeys, numColumns⟩ := orderly.counters_eq finished generates
  rw [Writer.result, numKeys, numColumns, orderly.failedKeys_eq finished generates,
    orderly.watermark_eq finished generates, orderly.undisturbed.running, WritePlan.result,
    plan.length_goodKeys]

include orderly finished generates in
/-- In the end every key of the range has what its good calls make. -/
theorem Orderly.contents_eq (key : Int) :
    contents life.store key =
      if key ∈ Int.range plan.range.start plan.range.limit then afterCalls (initial key)
        (goodCalls failing key (Writer.callsFor plan.multiPut (plan.recordOf key)))
      else initial key := by
  have faithful := orderly.undisturbed.faithful
  have range_iff : key ∈ Int.range plan.range.start plan.range.limit ↔
      plan.range.start ≤ key ∧ key < plan.range.limit := Int.mem_range_iff
  rw [orderly.undisturbed.contents_eq]
  by_cases inside : plan.range.start ≤ key ∧ key < plan.range.limit
  · rw [if_pos (range_iff.mpr inside)]
    have keyGenerated := generates.recordOf key inside.1 inside.2
    rcases (orderly.mem_range_iff finished key).mp inside with failed | completed
    · rw [(orderly.judged.of_refused key _ keyGenerated (faithful.failed key failed)).2]
    · rw [(orderly.judged.of_wrote key _ keyGenerated (faithful.completed key completed)).2]
  · obtain ⟨claimed, _⟩ :=
      orderly.undisturbed.accounts_of_finished orderly.counted orderly.some_worker finished
    have outside : key ∉ Int.range plan.range.start plan.range.limit :=
      fun member => inside (range_iff.mp member)
    rw [if_neg outside, faithful.unclaimed key (claimed ▸ outside)]
    rfl

include orderly finished generates in
/-- In the end a key that did not fail has its record laid over its row. -/
theorem Orderly.contents_of_not_failed (key : Int) (unfailed : key ∉ plan.failingKeys failing) :
    contents life.store key = if key ∈ Int.range plan.range.start plan.range.limit then
      some (overlay (initial key) (plan.recordOf key).columns) else initial key := by
  rw [orderly.contents_eq finished generates]
  split
  · rename_i member
    obtain ⟨low, high⟩ := Int.mem_range_iff.mp member
    have generated := generates.recordOf key low high
    have unhit : hits failing key (plan.recordOf key).columns = false :=
      Bool.eq_false_iff.mpr fun hit => unfailed (List.mem_filter.mpr ⟨member, hit⟩)
    have all : ∀ call ∈ Writer.callsFor plan.multiPut (plan.recordOf key),
        (!hits failing key call) = true := by
      intro call among
      have none := any_callsFor failing plan.multiPut (plan.recordOf key)
      rw [generate_key key plan.bounds _ generated, unhit, List.any_eq_false] at none
      rw [Bool.eq_false_iff.mpr (none call among)]
      rfl
    rw [goodCalls, List.takeWhile_eq_self_iff.mpr all,
      afterCalls_callsFor _ _ _ (generate_cells_ne_nil key plan.bounds _ generated)]
  · rfl

end Finished

/-- The result of a write pass does not depend on the schedule or the number of workers. The store
refuses a write exactly when it hits a failing cell, and every key of the range has a record. Then,
whatever workers have taken their steps in whatever order, no completion is ever rejected; and when
the workers have left, each key of the range was claimed once, the result is the one given by the
failing cells, and the content of the store is the same as after one worker in order. -/
theorem result_of_any_schedule [Store Storage] (merges : MergesWrites Storage contents regular)
    (refuses : Refuses Storage regular failing) (plan : WritePlan)
    (generates : plan.Generates) (threads : Int) (writer : Writer)
    (starts : plan.Starts threads writer) (store : Storage)
    (isRegular : regular store) (schedule : List Nat) (life : WriterLife Storage)
    (ran : replay WriterLife.work ⟨writer, store, {}⟩ schedule = some life) :
    (∀ worker record, life.writer.position? worker = some (.working (.complete record)) →
        ∃ written mark after, life.writer.state.written = some written ∧
          written.complete record.key = (.ok mark, after)) ∧
      (Pool.finished life.writer = true →
        life.ledger.claimed = Int.range plan.range.start plan.range.limit ∧
          life.writer.wait = some (.ok (plan.result failing)) ∧
          contents life.store = contents
            (writeInOrder plan store (Int.range plan.range.start plan.range.limit))) := by
  have orderly : life.Orderly contents regular failing plan (contents store) :=
    replay_invariant _ (fun _ worker _ orderly worked => orderly.work merges refuses
      generates worker worked) _ life schedule
      (orderly_of_starts threads writer store starts isRegular) ran
  refine ⟨fun worker record => orderly.undisturbed.faithful.accepts worker record,
    fun finished => ⟨?_, ?_, ?_⟩⟩
  · exact (orderly.undisturbed.accounts_of_finished orderly.counted orderly.some_worker finished).1
  · rw [orderly.undisturbed.wait_eq orderly.counted finished,
      orderly.result_eq finished generates]
  · funext key
    rw [orderly.contents_eq finished generates, contents_writeInOrder merges refuses plan
      store isRegular _ (nodup_range _ _) fun other member => by
        have inside := Int.mem_range_iff.mp member
        exact generates.recordOf other inside.1 inside.2]

/-- Three keys with one or two columns each, written column by column. -/
def threeKeys : WritePlan where
  bounds := .small
  multiPut := false
  range := .three

theorem threeKeys_generates : threeKeys.Generates :=
  generates_of_isSome threeKeys.range threeKeys.bounds (by decide +kernel)

/-- Two workers, and a store that refuses one cell of the second key. -/
def oneFailingCell : WriterLife FaultyStore :=
  ⟨threeKeys.idle.spawn .checkStop 2 0.0, { faults := { failingCells := [(1, 0)] } }, {}⟩

/-- The workers take turns until both have left. -/
theorem result_of_two_workers_in_turns :
    ∃ life : WriterLife FaultyStore,
      replay WriterLife.work oneFailingCell
          ((List.replicate 9 [0, 1]).flatten ++ [1, 1, 1, 1]) = some life ∧
        life.ledger.claimed = [0, 1, 2] ∧
        life.writer.wait = some (.ok ⟨2, 4, [1], 0, false⟩) := by
  have known : (replay WriterLife.work oneFailingCell
      ((List.replicate 9 [0, 1]).flatten ++ [1, 1, 1, 1])).map
        (fun life => Pool.finished life.writer) = some true := by
    decide +kernel
  let faults : Faults := { failingCells := [(1, 0)] }
  have expected :
      threeKeys.result (fun key number => faults.failingCells.contains (key, number)) =
        ⟨2, 4, [1], 0, false⟩ := by
    decide +kernel
  obtain ⟨life, ran, finished⟩ := Option.map_eq_some_iff.mp known
  have result := (result_of_any_schedule (faultyStore_keepsRows faults).toMergesWrites
    (refuses_of_failingCells faults rfl) threeKeys threeKeys_generates 2 _
    ⟨1, 2, 1, 4, _, 0.0, rfl, rfl, rfl⟩ _ ⟨rfl, rfl, rfl⟩ _ life ran).2 finished
  exact ⟨life, ran, result.1, expected ▸ result.2.1⟩

end WriterLife

end LoadVerifier
