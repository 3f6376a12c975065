/-
This file says which of the rows that a worker reads are compared: the decisions are the successive
draws of the worker's own stream, one for each key it reads, whatever the reads give and whatever
the other workers do.
-/
import LoadVerifier.Proofs.ReaderLife

namespace LoadVerifier

open LoadVerifier.Random

/-! ### Decisions -/

/-- Whether the next draw of a stream decides for a comparison. -/
def decision (verifyPercent : Int) (stream : Stream) : Bool :=
  ((stream.upTo 99).1 : Int) < verifyPercent

/-- The decisions of the next draws of a stream, one after another. -/
def decisions (verifyPercent : Int) : (count : Nat) → Stream → List Bool
  | 0, _ => []
  | count + 1, stream =>
    decision verifyPercent stream :: decisions verifyPercent count (stream.upTo 99).2

/-- A stream after a number of draws. -/
def streamAfter : (count : Nat) → Stream → Stream
  | 0, stream => stream
  | count + 1, stream => streamAfter count (stream.upTo 99).2

theorem decisions_snoc (verifyPercent : Int) (count : Nat) (stream : Stream) :
    decisions verifyPercent (count + 1) stream =
      decisions verifyPercent count stream ++
        [decision verifyPercent (streamAfter count stream)] := by
  induction count generalizing stream with
  | zero => rfl
  | succ count inductionHypothesis =>
    rw [decisions, inductionHypothesis]
    rfl

theorem streamAfter_snoc (count : Nat) (stream : Stream) :
    streamAfter (count + 1) stream = ((streamAfter count stream).upTo 99).2 := by
  induction count generalizing stream with
  | zero => rfl
  | succ count inductionHypothesis => exact inductionHypothesis (stream.upTo 99).2

/-- The flags are the first decisions of a worker's stream, and this is the stream after them. -/
def Drawn (seed : Given Int) (verifyPercent : Int) (worker : Nat) (flags : List Bool)
    (rest : Stream) : Prop :=
  ∃ start, Reader.streamOf seed worker = .ok start ∧
    flags = decisions verifyPercent flags.length start ∧ rest = streamAfter flags.length start

theorem Drawn.snoc {seed : Given Int} {verifyPercent : Int} {worker : Nat} {flags : List Bool}
    {rest : Stream} (drawn : Drawn seed verifyPercent worker flags rest) :
    Drawn seed verifyPercent worker (flags ++ [decision verifyPercent rest])
      (rest.upTo 99).2 := by
  obtain ⟨start, streamed, equal, after⟩ := drawn
  refine ⟨start, streamed, ?_, ?_⟩
  · rw [List.length_append, List.length_singleton, decisions_snoc, ← equal, ← after]
  · rw [List.length_append, List.length_singleton, streamAfter_snoc, ← after]

/-! ### The flags of a worker -/

/-- The decisions of a worker about the keys it read, in order. -/
def flagsOf (worker : Nat) (log : List ReadNote) : List Bool :=
  log.filterMap fun note =>
    match note.sight with
    | .read verify => if note.worker = worker then some verify else none
    | _ => none

theorem flagsOf_append (worker : Nat) (first second : List ReadNote) :
    flagsOf worker (first ++ second) = flagsOf worker first ++ flagsOf worker second :=
  List.filterMap_append

/-- A note of another worker, or one that is not about a read, adds no flag. -/
theorem flagsOf_snoc_of_ne (worker : Nat) (log : List ReadNote) (note : ReadNote)
    (other : note.worker = worker → ∀ verify, note.sight ≠ .read verify) :
    flagsOf worker (log ++ [note]) = flagsOf worker log := by
  have nothing : flagsOf worker [note] = [] := by
    rw [flagsOf, List.filterMap_cons, List.filterMap_nil]
    cases same : note.sight with
    | read verify =>
      by_cases own : note.worker = worker
      · exact absurd same (other own verify)
      · simp only [if_neg own]
    | _ => rfl
  rw [flagsOf_append, nothing, List.append_nil]

theorem flagsOf_snoc_read (worker : Nat) (log : List ReadNote) (key : Int) (verify : Bool) :
    flagsOf worker (log ++ [⟨worker, key, .read verify⟩]) = flagsOf worker log ++ [verify] := by
  have own : flagsOf worker [⟨worker, key, .read verify⟩] = [verify] := by
    rw [flagsOf, List.filterMap_cons, List.filterMap_nil]
    simp only [if_true]
  rw [flagsOf_append, own]

/-- The stream that a worker at a task draws from next, once it has one. -/
def streamAt : ReaderTask → Option Stream
  | .seed => none
  | .checkStop stream | .claim stream | .look stream _ _ | .askFinished stream _ _
  | .lookAgain stream _ | .unreachable stream _ | .pause stream _ _ | .read stream _ _
  | .countRead stream _ _ _ | .countRow stream _ _ _ | .verified stream _
  | .recordError stream _ _ | .abort stream _ | .stopPool stream _ => some stream

/-- The decision that was drawn for the key that a worker is about to read. -/
def drawnAt : ReaderTask → List Bool
  | .read _ _ verify => [verify]
  | _ => []

/-- The flags of a worker go with its position. -/
def SampledAt (seed : Given Int) (verifyPercent : Int) (worker : Nat) (flags : List Bool) :
    Position ReaderTask → Prop
  | .working task =>
    match streamAt task with
    | none => flags = []
    | some rest => Drawn seed verifyPercent worker (flags ++ drawnAt task) rest
  | .crashed _ | .leaving _ | .left _ =>
    flags = [] ∨ ∃ rest, Drawn seed verifyPercent worker flags rest

namespace ReaderLife

open Pool (Moved)

variable {Storage Source : Type}

/-! ### Keeping to the draws -/

theorem sampledAt_judge (seed : Given Int) (verifyPercent : Int) (worker : Nat)
    (flags : List Bool) (stream : Stream) (key : Int) (verify : Bool) (row : Option Columns)
    (bounds : Bounds) (drawn : Drawn seed verifyPercent worker (flags ++ []) stream) :
    SampledAt seed verifyPercent worker flags
      (Pool.positionAfter (Reader.judge stream key verify row bounds)) := by
  unfold Reader.judge
  split
  · exact drawn
  · split
    · split
      · rw [List.append_nil] at drawn
        exact Or.inr ⟨stream, drawn⟩
      · split
        · exact drawn
        · exact drawn
    · exact drawn

/-- A silent step draws nothing. -/
theorem sampledAt_of_pass {shared later : Shared} {state after : ReaderState} {worker : Nat}
    {before position : Position ReaderTask} (verifyPercent : Int) (flags : List Bool)
    (pass : Pass shared state worker before position later after)
    (sampled : SampledAt state.seed verifyPercent worker flags before) :
    SampledAt state.seed verifyPercent worker flags position := by
  cases pass with
  | seeded stream drawn =>
    have none : flags = [] := sampled
    subst none
    exact ⟨stream, drawn, rfl, rfl⟩
  | unseeded crash failed => exact Or.inl sampled
  | stopSeen stream stopped => exact Or.inr ⟨stream, List.append_nil flags ▸ sampled⟩
  | usedUp stream cursor known used => exact Or.inr ⟨stream, List.append_nil flags ▸ sampled⟩
  | baseless stream unknown => exact Or.inr ⟨stream, List.append_nil flags ▸ sampled⟩
  | countedRow stream key verify row =>
    exact sampledAt_judge state.seed verifyPercent worker flags stream key verify row _ sampled
  | erred stream key problems next tolerated =>
    rcases tolerated with rfl | rfl
    · exact sampled
    · exact sampled
  | _ => exact sampled

theorem readTask_eq (stream : Stream) (key : Int) (state : ReaderState) :
    Reader.readTask stream key state =
      .read (stream.upTo 99).2 key (decision state.verifyPercent stream) := rfl

/-- A worker that goes on to read a key draws for it. -/
theorem sampledAt_readTask (seed : Given Int) (worker : Nat) (flags : List Bool)
    (stream : Stream) (key : Int) (state : ReaderState)
    (drawn : Drawn seed state.verifyPercent worker (flags ++ []) stream) :
    SampledAt seed state.verifyPercent worker flags
      (.working (Reader.readTask stream key state)) := by
  rw [List.append_nil] at drawn
  rw [readTask_eq]
  exact drawn.snoc

theorem sampledAt_of_sees {shared : Shared} {state : ReaderState} {worker : Nat} {key : Int}
    {before after : ReaderTask} {sight : Sight} (seed : Given Int) (flags : List Bool)
    (sees : Sees shared state key before sight after)
    (sampled : SampledAt seed state.verifyPercent worker flags (.working before)) :
    SampledAt seed state.verifyPercent worker flags (.working after) := by
  cases sees with
  | ripe stream delay mark ripe =>
    exact sampledAt_readTask seed worker flags stream key state sampled
  | reached stream mark reached =>
    exact sampledAt_readTask seed worker flags stream key state sampled
  | _ => exact sampled

/-- Every worker's flags are the decisions it drew. -/
structure Sampled (plan : ReadPlan) (life : ReaderLife Storage Source) : Prop where
  seed_eq : life.reader.state.seed = plan.seed
  verifyPercent_eq : life.reader.state.verifyPercent = plan.verifyPercent
  sampled : ∀ worker position, life.reader.position? worker = some position →
    SampledAt plan.seed plan.verifyPercent worker (flagsOf worker life.log) position

variable {plan : ReadPlan} {life next : ReaderLife Storage Source} {worker : Nat}

/-- One worker moves with its flags, and nobody else gets any. -/
theorem sampled_of_moved {before after : Position ReaderTask}
    (moved : Moved life.reader next.reader worker before after) (sampled : Sampled plan life)
    (others : ∀ other ≠ worker, flagsOf other next.log = flagsOf other life.log)
    (own : SampledAt plan.seed plan.verifyPercent worker (flagsOf worker next.log) after)
    (seed : next.reader.state.seed = life.reader.state.seed)
    (verifyPercent : next.reader.state.verifyPercent = life.reader.state.verifyPercent) :
    Sampled plan next where
  seed_eq := seed.trans sampled.seed_eq
  verifyPercent_eq := verifyPercent.trans sampled.verifyPercent_eq
  sampled other position found := by
    by_cases same : worker = other
    · subst same
      cases moved.arrived.symm.trans found
      exact own
    · rw [moved.stayed other same] at found
      rw [others other (Ne.symm same)]
      exact sampled.sampled other position found

theorem settings_of_pass {shared later : Shared} {state after : ReaderState}
    {before position : Position ReaderTask}
    (pass : Pass shared state worker before position later after) :
    after.seed = state.seed ∧ after.verifyPercent = state.verifyPercent := by
  cases pass <;> exact ⟨rfl, rfl⟩

variable [Store Storage] [WatermarkSource Source] {source : Source}

/-- Every step of a worker keeps to the draws. -/
theorem Change.sampled (change : Change life worker source next) (sampled : Sampled plan life) :
    Sampled plan next := by
  have foreign : ∀ (key : Int) (sight : Sight), ∀ other ≠ worker,
      flagsOf other (life.log ++ [⟨worker, key, sight⟩]) = flagsOf other life.log :=
    fun key sight other different =>
      flagsOf_snoc_of_ne other life.log _ fun same => absurd same.symm different
  have silent : ∀ (key : Int) (sight : Sight), (∀ verify, sight ≠ .read verify) →
      flagsOf worker (life.log ++ [⟨worker, key, sight⟩]) = flagsOf worker life.log :=
    fun key sight other => flagsOf_snoc_of_ne worker life.log _ fun _ => other
  cases change with
  | passed reader before after moved pass =>
    obtain ⟨seed, verifyPercent⟩ := settings_of_pass pass
    have own := sampled.sampled worker before moved.position_eq
    rw [← sampled.seed_eq] at own
    refine sampled_of_moved moved sampled (fun _ _ => rfl) ?_ seed verifyPercent
    exact sampled.seed_eq ▸ sampledAt_of_pass plan.verifyPercent _ pass own
  | claimed reader stream cursor moved known left shared state =>
    refine sampled_of_moved moved sampled (foreign _ _) ?_ (by rw [state]) (by rw [state])
    rw [silent _ _ fun _ => Sight.noConfusion]
    have own := sampled.sampled worker _ moved.position_eq
    exact own
  | saw reader before after key sight later moved sees answers shared state =>
    refine sampled_of_moved moved sampled (foreign _ _) ?_ (by rw [state]) (by rw [state])
    rw [silent _ _ fun verify => by cases sees <;> exact Sight.noConfusion]
    have own := sampled.sampled worker _ moved.position_eq
    rw [← sampled.verifyPercent_eq] at own ⊢
    exact sampledAt_of_sees plan.seed _ sees own
  | read reader stream key verify after moved outcome shared state =>
    refine sampled_of_moved moved sampled (foreign _ _) ?_ (by rw [state]) (by rw [state])
    have own : Drawn plan.seed plan.verifyPercent worker (flagsOf worker life.log ++ [verify])
        stream := sampled.sampled worker _ moved.position_eq
    have quiet : Drawn plan.seed plan.verifyPercent worker
        (flagsOf worker life.log ++ [verify] ++ []) stream := by
      rw [List.append_nil]
      exact own
    rw [flagsOf_snoc_read, outcome]
    split
    · exact quiet
    · exact quiet
    · exact Or.inr ⟨stream, own⟩
  | missed reader stream key moved shared state =>
    refine sampled_of_moved moved sampled (foreign _ _) ?_ (by rw [state]) (by rw [state])
    rw [silent _ _ fun _ => Sight.noConfusion]
    have own := sampled.sampled worker _ moved.position_eq
    exact own

omit [Store Storage] [WatermarkSource Source] in
/-- Nothing was drawn yet. -/
theorem sampled_of_starts (threads : Int) (reader : Reader) (starts : plan.Starts threads reader)
    (world : ReaderWorld Storage Source) : Sampled plan ⟨reader, world, []⟩ := by
  obtain ⟨_, _, now, rfl⟩ := plan.eq_spawn_of_starts threads reader starts
  refine ⟨rfl, rfl, fun worker position found => ?_⟩
  rw [Pool.eq_of_position?_spawn _ _ _ _ _ _ found]
  rfl

end ReaderLife

end LoadVerifier
