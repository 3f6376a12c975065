/-
This file proves what a linked reader keeps to about every key of its range, under every schedule,
for every store and for every source of watermarks: what it has seen when it reads the key, when it
counts the key as unreachable, when it gives the key up, and when the wait for the key ends.

For a source whose mark never goes back, and stands still once the source is finished, it follows
that no key up to the last mark is ever counted as unreachable, and that no key beyond it is read.
-/
import LoadVerifier.Proofs.ReaderGate

namespace LoadVerifier.ReaderLife

variable {Storage Source : Type} {plan : ReadPlan} {life next : ReaderLife Storage Source}
  {worker : Nat}

/-! ### What holds after every step -/

/-- A linked reader that keeps to the gate, with its settings, its count and its stop flag. -/
structure Waiting (plan : ReadPlan) (life : ReaderLife Storage Source) : Prop where
  gated : Gated plan life
  linked : life.world.source.isSome
  keyWindow_eq : life.reader.state.keyWindow = plan.keyWindow
  unreachable_eq : life.reader.state.tally.unreachable =
    (life.log.filter (·.sight = .unreachable)).length
  stopped : ∀ note ∈ life.log, note.sight = .slept true → life.reader.shared.stopRequested = true

theorem Waiting.lastKey_eq (waiting : Waiting plan life) :
    Reader.lastKey life.reader.shared = plan.range.last := by
  obtain ⟨cursor, known, ranged, _⟩ := waiting.gated.claimed
  rw [Reader.lastKey, known, ← ranged]
  rfl

theorem Waiting.isSome_cursor (waiting : Waiting plan life) :
    life.reader.shared.cursor.isSome := by
  obtain ⟨cursor, known, _⟩ := waiting.gated.claimed
  exact Option.isSome_iff_exists.mpr ⟨cursor, known⟩

section Steps

variable [Store Storage] [WatermarkSource Source] {source : Source}

theorem Change.linked (change : Change life worker source next)
    (linked : life.world.source.isSome) : next.world.source.isSome := by
  cases change with
  | saw => rfl
  | _ => exact linked

theorem state_of_pass {shared later : Shared} {state after : ReaderState}
    {before position : Position ReaderTask}
    (pass : Pass shared state worker before position later after) :
    after.keyWindow = state.keyWindow ∧
      after.tally.unreachable = state.tally.unreachable ∧
      (shared.stopRequested = true → later.stopRequested = true) := by
  cases pass <;> exact ⟨rfl, rfl, fun stopped => by first | exact stopped | rfl⟩

theorem Change.keyWindow_eq (change : Change life worker source next) :
    next.reader.state.keyWindow = life.reader.state.keyWindow := by
  cases change with
  | passed reader before after moved pass => exact (state_of_pass pass).1
  | _ =>
    rename_i state
    rw [state]

theorem length_filter_snoc (log : List ReadNote) (note : ReadNote) (sight : Sight)
    (other : note.sight ≠ sight) :
    ((log ++ [note]).filter (·.sight = sight)).length =
      (log.filter (·.sight = sight)).length := by
  rw [List.filter_append, List.filter_singleton, decide_eq_false other]
  exact congrArg _ (List.append_nil _)

theorem Change.unreachable_eq (change : Change life worker source next)
    (same : life.reader.state.tally.unreachable =
      (life.log.filter (·.sight = .unreachable)).length) :
    next.reader.state.tally.unreachable =
      (next.log.filter (·.sight = .unreachable)).length := by
  cases change with
  | passed reader before after moved pass => exact (state_of_pass pass).2.1.trans same
  | claimed reader stream cursor moved known left shared state =>
    rw [length_filter_snoc _ _ _ Sight.noConfusion, state, same]
  | saw reader before after key sight later moved sees answers shared state =>
    have other : sight ≠ .unreachable := by cases sees <;> exact Sight.noConfusion
    rw [length_filter_snoc _ _ _ other, state, same]
  | read reader stream key verify after moved outcome shared state =>
    rw [length_filter_snoc _ _ _ Sight.noConfusion, state, same]
  | missed reader stream key moved shared state =>
    rw [List.filter_append, List.length_append, ← same, state]
    rfl

theorem Change.stopRequested (change : Change life worker source next)
    (stopped : life.reader.shared.stopRequested = true) :
    next.reader.shared.stopRequested = true := by
  cases change with
  | passed reader before after moved pass => exact (state_of_pass pass).2.2 stopped
  | claimed reader stream cursor moved known left shared state => rw [shared]; exact stopped
  | _ =>
    rename_i shared state
    rw [shared]
    exact stopped

theorem Change.stopped (change : Change life worker source next)
    (stopped : ∀ note ∈ life.log, note.sight = .slept true →
      life.reader.shared.stopRequested = true) :
    ∀ note ∈ next.log, note.sight = .slept true → next.reader.shared.stopRequested = true := by
  have before : ∀ note ∈ life.log, note.sight = .slept true →
      next.reader.shared.stopRequested = true :=
    fun note member slept => change.stopRequested (stopped note member slept)
  cases change with
  | passed reader first last moved pass => exact before
  | saw reader first last key sight later moved sees answers shared state =>
    intro note member slept
    rcases List.mem_append.mp member with old | new
    · exact before note old slept
    · cases List.mem_singleton.mp new
      cases slept
      cases sees with
      | stopped stream delay stopped => exact shared ▸ stopped
  | _ =>
    intro note member slept
    rcases List.mem_append.mp member with old | new
    · exact before note old slept
    · cases List.mem_singleton.mp new
      cases slept

/-- Every step of a worker keeps what holds. -/
theorem Change.waiting (change : Change life worker source next) (waiting : Waiting plan life) :
    Waiting plan next where
  gated := waiting.gated.observed (change.observed waiting.lastKey_eq waiting.keyWindow_eq
    fun position found key member => by
      obtain ⟨wait, waits⟩ := (mem_waitedAt_iff position key).mp member
      exact (waiting.gated.inside_of_waits position key wait found waits).2)
  linked := change.linked waiting.linked
  keyWindow_eq := change.keyWindow_eq.trans waiting.keyWindow_eq
  unreachable_eq := change.unreachable_eq waiting.unreachable_eq
  stopped := change.stopped waiting.stopped

/-- Every event keeps what holds. -/
theorem Waiting.step (waiting : Waiting plan life) (event : ReaderEvent Storage Source)
    (happened : life.step event = some next) : Waiting plan next := by
  cases event with
  | work worker =>
    obtain ⟨source, linked⟩ := Option.isSome_iff_exists.mp waiting.linked
    exact (change_of_work life next worker source linked happened).waiting waiting
  | stop =>
    cases happened
    obtain ⟨claimed, conserved, unclaimed, waits, closed⟩ := waiting.gated
    exact ⟨⟨claimed, conserved, unclaimed, waits, closed⟩, waiting.linked, waiting.keyWindow_eq,
      waiting.unreachable_eq, fun _ _ _ => rfl⟩
  | outside store source =>
    cases happened
    obtain ⟨claimed, conserved, unclaimed, waits, closed⟩ := waiting.gated
    exact ⟨⟨claimed, conserved, unclaimed, waits, closed⟩, rfl, waiting.keyWindow_eq,
      waiting.unreachable_eq, waiting.stopped⟩

end Steps

/-- Nothing was seen of any key yet. -/
theorem waiting_of_starts (threads : Int) (reader : Reader) (starts : plan.Starts threads reader)
    (store : Storage) (source : Source) : Waiting plan ⟨reader, ⟨store, some source⟩, []⟩ := by
  obtain ⟨_, _, now, rfl⟩ := plan.eq_spawn_of_starts threads reader starts
  have idle : ∀ worker position,
      (plan.idle.spawn .seed threads now).position? worker = some position →
        waitsAt position = none := by
    intro worker position found
    rw [Pool.eq_of_position?_spawn _ _ _ _ _ _ found]
    rfl
  refine ⟨⟨⟨.ofRange plan.range, rfl, rfl, ?_⟩, ?_, fun _ _ => rfl, ?_, ?_⟩, rfl, rfl, rfl, ?_⟩
  · show [] = Int.range plan.range.start plan.range.start
    rw [Int.range, sub_self]
    rfl
  · rw [Pool.total_eq_zero waitedAt _ fun worker position found =>
      waitedAt_of_none position (idle worker position found)]
    rfl
  · intro worker position key wait found waits
    cases (idle worker position found).symm.trans waits
  · intro key member
    cases member
  · intro note member
    cases member

/-! ### What is kept about a key -/

/-- A source whose mark never goes back, and stands still once it answered that it is finished. -/
structure Settles (sights : List Sight) : Prop where
  forward : ∀ first second, [.mark first, .mark second].Sublist sights → first ≤ second
  still : ∀ first second, [.finished true, .mark first, .mark second].Sublist sights →
    first = second

/-- What a linked reader keeps to about a key, at any moment. The sights of the key are the answers
it was given for that key and what it did about it, in order. -/
structure KeptGate (plan : ReadPlan) (life : ReaderLife Storage Source) (key : Int) : Prop where
  read : ∀ before verify after, sights key life.log = before ++ Sight.read verify :: after →
    (∃ earlier mark, before = earlier ++ [Sight.mark mark] ∧ plan.Readable key mark) ∨
      ∃ earlier mark, before = earlier ++ [Sight.finished true, .mark mark] ∧ key ≤ mark
  unreachable : ∀ before after, sights key life.log = before ++ Sight.unreachable :: after →
    ∃ earlier mark, before = earlier ++ [Sight.finished true, .mark mark] ∧ mark < key
  missed : ∀ before mark after,
    sights key life.log = before ++ Sight.finished true :: .mark mark :: after → mark < key →
      after = [.unreachable] ∨ after = [] ∧
        ∃ worker stream, life.reader.position? worker = some (.working (.unreachable stream key))
  givenUp : .claimed ∈ sights key life.log →
    (∃ worker position wait, life.reader.position? worker = some position ∧
        waitsAt position = some (key, wait)) ∨
      (∃ verify, .read verify ∈ sights key life.log) ∨ .unreachable ∈ sights key life.log ∨
        (.slept true ∈ sights key life.log ∧ life.reader.shared.stopRequested = true)
  endsReadable : ∀ before mark after, sights key life.log = before ++ Sight.mark mark :: after →
    plan.Readable key mark → after = [] ∨ ∃ verify, after = [.read verify]
  endsFinished : ∀ before after, sights key life.log = before ++ Sight.finished true :: after →
    after = [] ∨ ∃ mark, after = [.mark mark] ∨
      (key ≤ mark ∧ ∃ verify, after = [.mark mark, .read verify]) ∨
      (mark < key ∧ after = [.mark mark, .unreachable])
  settled : ∀ final, Settles (life.log.map (·.sight) ++ [Sight.mark final]) →
    (key ≤ final → .unreachable ∉ sights key life.log) ∧
      (final < key → ∀ verify, .read verify ∉ sights key life.log)

/-- A key was not claimed, is not waited for any more, or is waited for by some worker. -/
theorem Gated.place (gated : Gated plan life) (key : Int) :
    (key ∉ claimedKeys life.log ∧ plan.Leads key (sights key life.log) .unclaimed) ∨
      plan.Leads key (sights key life.log) .closed ∨
      ∃ worker position wait, life.reader.position? worker = some position ∧
        waitsAt position = some (key, wait) ∧ plan.Leads key (sights key life.log) wait := by
  by_cases claimed : key ∈ claimedKeys life.log
  · rcases (gated.mem_claimed_iff key).mp claimed with closed | waited
    · exact Or.inr (Or.inl (gated.closed key closed))
    · obtain ⟨worker, position, found, member⟩ := (Pool.mem_total_iff life.reader key).mp waited
      obtain ⟨wait, waits⟩ := (mem_waitedAt_iff position key).mp member
      exact Or.inr (Or.inr ⟨worker, position, wait, found, waits,
        gated.waiting worker position key wait found waits⟩)
  · refine Or.inl ⟨claimed, ?_⟩
    rw [gated.unclaimed key claimed]
    exact ReadPlan.leads_nil

theorem Gated.leads (gated : Gated plan life) (key : Int) :
    ∃ wait, plan.Leads key (sights key life.log) wait := by
  rcases gated.place key with ⟨_, leads⟩ | leads | ⟨_, _, wait, _, _, leads⟩
  · exact ⟨_, leads⟩
  · exact ⟨_, leads⟩
  · exact ⟨wait, leads⟩

theorem eq_unreachable_of_missing (position : Position ReaderTask) (key : Int)
    (waits : waitsAt position = some (key, .missing)) :
    ∃ stream, position = .working (.unreachable stream key) := by
  cases position with
  | working task =>
    cases task <;> cases waits
    exact ⟨_, rfl⟩
  | _ => cases waits

/-- A key that is about to be counted as missed is at the worker that will count it. -/
theorem Gated.counter_of_missing (gated : Gated plan life) (key : Int)
    (leads : plan.Leads key (sights key life.log) .missing) :
    ∃ worker stream,
      life.reader.position? worker = some (.working (.unreachable stream key)) := by
  rcases gated.place key with ⟨_, same⟩ | same | ⟨worker, position, wait, found, waits, same⟩
  · cases Option.some.inj (same.symm.trans leads)
  · cases Option.some.inj (same.symm.trans leads)
  · cases Option.some.inj (same.symm.trans leads)
    obtain ⟨stream, rfl⟩ := eq_unreachable_of_missing position key waits
    exact ⟨worker, stream, found⟩

/-- The last sight of a wait that is closed is the read, the count or the stop flag. -/
theorem closing_of_closed (trace : List Sight) (key : Int) (leads : plan.Leads key trace .closed) :
    (∃ verify, .read verify ∈ trace) ∨ .unreachable ∈ trace ∨ .slept true ∈ trace := by
  obtain ⟨earlier, sight, wait, rfl, _, goes⟩ := replay_last _ _ trace (by decide) leads
  have closing := (ReadPlan.closing_iff wait .closed sight goes).mpr rfl
  have member : sight ∈ earlier ++ [sight] := List.mem_append_right _ (List.mem_singleton_self _)
  cases sight with
  | read verify => exact Or.inl ⟨verify, member⟩
  | unreachable => exact Or.inr (Or.inl member)
  | slept stopped =>
    cases stopped with
    | true => exact Or.inr (Or.inr member)
    | false => cases closing
  | _ => cases closing

/-- A key that was claimed is still waited for, or it was read, counted, or given up by a worker
that saw the stop flag. -/
theorem Waiting.givenUp (waiting : Waiting plan life) (key : Int)
    (claimed : .claimed ∈ sights key life.log) :
    (∃ worker position wait, life.reader.position? worker = some position ∧
        waitsAt position = some (key, wait)) ∨
      (∃ verify, .read verify ∈ sights key life.log) ∨ .unreachable ∈ sights key life.log ∨
        (.slept true ∈ sights key life.log ∧ life.reader.shared.stopRequested = true) := by
  rcases waiting.gated.place key with
    ⟨unclaimed, _⟩ | leads | ⟨worker, position, wait, found, waits, _⟩
  · rw [waiting.gated.unclaimed key unclaimed] at claimed
    cases claimed
  · rcases closing_of_closed _ key leads with read | unreachable | slept
    · exact Or.inr (Or.inl read)
    · exact Or.inr (Or.inr (Or.inl unreachable))
    · obtain ⟨note, member, equal⟩ := List.mem_map.mp slept
      exact Or.inr (Or.inr (Or.inr ⟨slept,
        waiting.stopped note (List.mem_filter.mp member).1 equal⟩))
  · exact Or.inl ⟨worker, position, wait, found, waits⟩

/-- A readable mark leads to the read, from wherever it was seen. -/
theorem reading_of_readable (key mark : Int) (inside : key ≤ plan.range.last)
    (window : 0 ≤ plan.keyWindow) (readable : plan.Readable key mark) (wait later : Wait)
    (goes : plan.waitAfter key wait (.mark mark) = some later) : later = .reading := by
  cases wait with
  | looking =>
    rw [ReadPlan.waitAfter, if_pos readable] at goes
    exact (Option.some.inj goes).symm
  | lookingAgain =>
    have reached : key ≤ mark := by
      rcases readable with last | behind
      · exact inside.trans last
      · exact behind.trans (Int.sub_le_self mark window)
    rw [ReadPlan.waitAfter, if_pos reached] at goes
    exact (Option.some.inj goes).symm
  | _ => cases goes

theorem lookingAgain_of_finished (key : Int) (wait later : Wait)
    (goes : plan.waitAfter key wait (.finished true) = some later) : later = .lookingAgain := by
  cases wait with
  | asking => exact (Option.some.inj goes).symm
  | _ => cases goes

/-! ### Settled sources -/

theorem sights_sublist (key : Int) (log : List ReadNote) :
    (sights key log).Sublist (log.map (·.sight)) := List.filter_sublist.map _

theorem Settles.of_sublist {part whole : List Sight} (settles : Settles whole)
    (sublist : part.Sublist whole) : Settles part where
  forward first second found := settles.forward first second (found.trans sublist)
  still first second found := settles.still first second (found.trans sublist)

/-- A list of sights that ends in some of them, and the sights from there on. -/
theorem sublist_of_eq (trace earlier last after rest : List Sight)
    (equal : trace = (earlier ++ last) ++ after) : (last ++ rest).Sublist (trace ++ rest) := by
  rw [equal]
  refine List.Sublist.append ?_ (List.Sublist.refl rest)
  exact (List.sublist_append_right earlier last).trans (List.sublist_append_left _ after)

/-- A mark of a settled source is never above the final one. -/
theorem Settles.mark_le {trace earlier after : List Sight} {mark final : Int}
    (settles : Settles (trace ++ [Sight.mark final]))
    (equal : trace = (earlier ++ [Sight.mark mark]) ++ after) : mark ≤ final :=
  settles.forward mark final (sublist_of_eq trace earlier [.mark mark] after [.mark final] equal)

/-- The mark of a finished settled source is the final one. -/
theorem Settles.mark_eq {trace earlier after : List Sight} {mark final : Int}
    (settles : Settles (trace ++ [Sight.mark final]))
    (equal : trace = (earlier ++ [Sight.finished true, .mark mark]) ++ after) : mark = final :=
  settles.still mark final
    (sublist_of_eq trace earlier [.finished true, .mark mark] after [.mark final] equal)

/-! ### The gate -/

/-- Whoever reads has just seen a mark that lets the key through. -/
theorem Gated.read (gated : Gated plan life) (key : Int) (before : List Sight) (verify : Bool)
    (after : List Sight) (seen : sights key life.log = before ++ Sight.read verify :: after) :
    (∃ earlier mark, before = earlier ++ [Sight.mark mark] ∧ plan.Readable key mark) ∨
      ∃ earlier mark, before = earlier ++ [Sight.finished true, .mark mark] ∧ key ≤ mark := by
  obtain ⟨final, leads⟩ := gated.leads key
  rw [seen] at leads
  obtain ⟨wait, later, came, goes, _⟩ := replay_middle _ _ _ _ _ leads
  rw [ReadPlan.reading_of_read wait later verify goes] at came
  exact ReadPlan.Leads.eq_of_reading came

/-- Whoever counts a key as unreachable has just seen that the source is finished below it. -/
theorem Gated.unreachable (gated : Gated plan life) (key : Int) (before after : List Sight)
    (seen : sights key life.log = before ++ Sight.unreachable :: after) :
    ∃ earlier mark, before = earlier ++ [Sight.finished true, .mark mark] ∧ mark < key := by
  obtain ⟨final, leads⟩ := gated.leads key
  rw [seen] at leads
  obtain ⟨wait, later, came, goes, _⟩ := replay_middle _ _ _ _ _ leads
  rw [ReadPlan.missing_of_unreachable wait later goes] at came
  exact ReadPlan.Leads.eq_of_missing came

/-- Whoever has seen that the source is finished below a key counts it as unreachable. -/
theorem Gated.missed (gated : Gated plan life) (key : Int) (before : List Sight) (mark : Int)
    (after : List Sight)
    (seen : sights key life.log = before ++ Sight.finished true :: .mark mark :: after)
    (missed : mark < key) :
    after = [.unreachable] ∨ after = [] ∧ ∃ worker stream,
      life.reader.position? worker = some (.working (.unreachable stream key)) := by
  obtain ⟨final, leads⟩ := gated.leads key
  have whole := leads
  rw [seen] at leads
  obtain ⟨wait, later, _, goes, went⟩ := replay_middle _ _ _ _ _ leads
  rw [lookingAgain_of_finished key wait later goes, replay, ReadPlan.waitAfter,
    if_neg (not_le.mpr missed), Option.bind_some] at went
  rcases ReadPlan.after_missing went with ⟨rfl, rfl⟩ | counted
  · exact Or.inr ⟨rfl, gated.counter_of_missing key whole⟩
  · exact Or.inl counted

/-- A linked reader keeps to the gate at every key of its range. -/
theorem Waiting.keptGate (waiting : Waiting plan life) (window : 0 ≤ plan.keyWindow) (key : Int)
    (inside : key ≤ plan.range.last) : KeptGate plan life key where
  read := waiting.gated.read key
  unreachable := waiting.gated.unreachable key
  missed := waiting.gated.missed key
  givenUp := waiting.givenUp key
  endsReadable before mark after seen readable := by
    obtain ⟨final, leads⟩ := waiting.gated.leads key
    rw [seen] at leads
    obtain ⟨wait, later, _, goes, went⟩ := replay_middle _ _ _ _ _ leads
    rw [reading_of_readable key mark inside window readable wait later goes] at went
    exact ReadPlan.after_reading went
  endsFinished before after seen := by
    obtain ⟨final, leads⟩ := waiting.gated.leads key
    rw [seen] at leads
    obtain ⟨wait, later, _, goes, went⟩ := replay_middle _ _ _ _ _ leads
    rw [lookingAgain_of_finished key wait later goes] at went
    exact ReadPlan.after_lookingAgain went
  settled final settles := by
    have own : Settles (sights key life.log ++ [Sight.mark final]) :=
      settles.of_sublist ((sights_sublist key life.log).append (List.Sublist.refl _))
    refine ⟨fun reached member => ?_, fun beyond verify member => ?_⟩
    · obtain ⟨before, after, seen⟩ := List.append_of_mem member
      obtain ⟨earlier, mark, rfl, missed⟩ := waiting.gated.unreachable key before after seen
      exact absurd reached (not_le.mpr (own.mark_eq seen ▸ missed))
    · obtain ⟨before, after, seen⟩ := List.append_of_mem member
      refine absurd beyond (not_lt.mpr ?_)
      rcases waiting.gated.read key before verify after seen with
        ⟨earlier, mark, rfl, last | behind⟩ | ⟨earlier, mark, rfl, reached⟩
      · exact inside.trans (last.trans (own.mark_le seen))
      · exact behind.trans ((Int.sub_le_self mark window).trans (own.mark_le seen))
      · exact reached.trans (own.mark_eq seen).le

/-- A linked reader keeps to the gate at every key of its range, at every moment, whatever the
source answers, whatever the store gives, in whatever order its workers take their steps, and
whenever it is asked to stop. And it has counted as many keys as unreachable as it found to be. -/
theorem gate_kept [Store Storage] [WatermarkSource Source] (plan : ReadPlan) (threads : Int)
    (reader : Reader) (starts : plan.Starts threads reader) (store : Storage) (source : Source)
    (schedule : List (ReaderEvent Storage Source)) (life : ReaderLife Storage Source)
    (ran : replay step ⟨reader, ⟨store, some source⟩, []⟩ schedule = some life) :
    life.reader.state.tally.unreachable =
        (life.log.filter (·.sight = .unreachable)).length ∧
      ∀ key, plan.range.start ≤ key → key ≤ plan.range.last → KeptGate plan life key := by
  obtain ⟨possible, _⟩ := plan.eq_spawn_of_starts threads reader starts
  have waiting : Waiting plan life := replay_invariant _
    (fun _ event _ waiting happened => waiting.step event happened) _ life schedule
    (waiting_of_starts threads reader starts store source) ran
  exact ⟨waiting.unreachable_eq,
    fun key _ inside => waiting.keptGate possible.keyWindow_nonneg key inside⟩

/-- Three keys of which every row is compared, one key behind the watermark. -/
def threeKeys : ReadPlan where
  bounds := .small
  seed := .value 7
  verifyPercent := 100
  maxErrors := 0
  keyWindow := 1
  range := .three

/-- Two workers, and a source that is a key ahead and then falls back. -/
def twoReaders : ReaderLife FaultyStore ScriptedSource :=
  ⟨threeKeys.idle.spawn .seed 2 0.0, ⟨{ faults := {} }, some { calls := [1], mark := 0 }⟩, []⟩

/-- The first worker reads a key and the second one waits for the next; the source is finished
before it is asked for the second time. -/
def fallingBack : List (ReaderEvent FaultyStore ScriptedSource) :=
  [0, 0, 0, 0, 0, 1, 1, 1, 1, 1, 1, 1].map ReaderEvent.work ++
    [ReaderEvent.outside { faults := {} } { done := true, mark := 0 }] ++
    [1, 1, 1].map ReaderEvent.work

theorem gate_kept_by_source_that_falls_back :
    ∃ life, replay step twoReaders fallingBack = some life ∧
      sights 0 life.log = [.claimed, .mark 1, .read true] ∧
      sights 1 life.log = [.claimed, .mark 0, .finished false, .slept false, .mark 0,
        .finished true, .mark 0, .unreachable] ∧
      life.reader.state.tally.unreachable = 1 ∧ KeptGate threeKeys life 1 := by
  have known : (replay step twoReaders fallingBack).map
      (fun life => (sights 0 life.log, sights 1 life.log, life.reader.state.tally.unreachable)) =
        some ([.claimed, .mark 1, .read true], [.claimed, .mark 0, .finished false, .slept false,
          .mark 0, .finished true, .mark 0, .unreachable], 1) := by
    decide +kernel
  obtain ⟨life, ran, seen⟩ := Option.map_eq_some_iff.mp known
  rw [Prod.mk.injEq, Prod.mk.injEq] at seen
  obtain ⟨first, second, count⟩ := seen
  have kept := gate_kept threeKeys 2 _ ⟨threeKeys.ready, 0.0, rfl, rfl⟩ _ _ fallingBack life ran
  exact ⟨life, ran, first, second, count, kept.2 1 (by decide) (by decide)⟩

end LoadVerifier.ReaderLife
