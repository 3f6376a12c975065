/-
This file balances the account of a reader against its counts, whatever the store answers, whatever
the source of watermarks says, whoever asks the reader to stop, and in every schedule.

The reader counts at five points of its loop: when a key was read, when its row was counted, when
the row matched, when an error was recorded, and when a key was unreachable. Between those points a
worker owes counts for the key it holds. `Settles` says once what a step may owe: what a worker owes
before the step and what becomes of its key are together what it owes after the step and what the
step counts. So the counts and the account differ at every moment by what the workers owe, and in a
reader that all workers have left they do not differ.
-/
import LoadVerifier.Proofs.ReaderAudit
import LoadVerifier.Proofs.Schedule
import LoadVerifier.Proofs.WriterAccounts
import Mathlib.Algebra.GroupWithZero.Nat

namespace LoadVerifier

/-! ### Keys by what became of them -/

/-- The keys with one of the chosen fates, in order. -/
def keysWith (chosen : Fate → Bool) (fates : List (Int × Fate)) : List Int :=
  (fates.filter fun entry => chosen entry.2).map Prod.fst

theorem keysWith_append (chosen : Fate → Bool) (first second : List (Int × Fate)) :
    keysWith chosen (first ++ second) = keysWith chosen first ++ keysWith chosen second := by
  rw [keysWith, List.filter_append, List.map_append]
  rfl

theorem keysWith_singleton (chosen : Fate → Bool) (key : Int) (fate : Fate) :
    keysWith chosen [(key, fate)] = if chosen fate then [key] else [] := by
  rw [keysWith, List.filter_singleton]
  cases chosen fate <;> rfl

theorem mem_keysWith_iff (chosen : Fate → Bool) (fates : List (Int × Fate)) (key : Int) :
    key ∈ keysWith chosen fates ↔ ∃ fate, (key, fate) ∈ fates ∧ chosen fate = true := by
  simp only [keysWith, List.mem_map, List.mem_filter, Prod.exists, exists_and_right,
    exists_eq_right]

/-- Keys that are all different stay different when some are chosen. -/
theorem nodup_keysWith (chosen : Fate → Bool) (fates : List (Int × Fate))
    (nodup : (fates.map Prod.fst).Nodup) : (keysWith chosen fates).Nodup :=
  nodup.sublist (List.filter_sublist.map _)

theorem ReadTally.mem_countError (tally : ReadTally) (key other : Int) :
    other ∈ (tally.countError key).errorKeys ↔ other ∈ tally.errorKeys ∨ other = key := by
  rw [ReadTally.countError, Std.TreeSet.mem_insert, Std.LawfulEqCmp.compare_eq_iff_eq, or_comm,
    eq_comm]

namespace Fate

/-- Just this fate. -/
def is (expected fate : Fate) : Bool := fate = expected

/-- Whether the row of the key was counted. -/
def isRow : Fate → Bool
  | .missing | .unchecked | .matched | .mismatched | .ungenerated => true
  | .unreadable | .unreachable | .givenUp | .broken => false

/-- Whether the key has an error. -/
def isError : Fate → Bool
  | .unreadable | .missing | .mismatched => true
  | .unchecked | .matched | .unreachable | .givenUp | .broken | .ungenerated => false

/-- Whether a worker crashed over the key. -/
def isCrash : Fate → Bool
  | .broken | .ungenerated => true
  | .unreadable | .missing | .unchecked | .matched | .mismatched | .unreachable | .givenUp => false

end Fate

/-- The keys with one fate, in order. -/
def ReadAccount.keysOf (account : ReadAccount) (fate : Fate) : List Int :=
  keysWith (Fate.is fate) account.fates

theorem ReadAccount.mem_keysOf_iff (account : ReadAccount) (fate : Fate) (key : Int) :
    key ∈ account.keysOf fate ↔ (key, fate) ∈ account.fates := by
  simp only [keysOf, mem_keysWith_iff, Fate.is, decide_eq_true_eq, exists_eq_right]

/-- Keys with one of several fates are counted one fate after the other. -/
theorem ReadAccount.length_keysWith_eq_sum (account : ReadAccount) (chosen : Fate → Bool)
    (parts : List Fate)
    (each : ∀ fate, (chosen fate).toNat = (parts.map fun part => (part.is fate).toNat).sum) :
    (keysWith chosen account.fates).length =
      (parts.map fun part => (account.keysOf part).length).sum := by
  have further : ∀ (selected : Fate → Bool) (key : Int) (fate : Fate) (rest : List (Int × Fate)),
      (keysWith selected ((key, fate) :: rest)).length =
        (selected fate).toNat + (keysWith selected rest).length := by
    intro selected key fate rest
    rw [← List.singleton_append, keysWith_append, keysWith_singleton, List.length_append]
    cases selected fate <;> rfl
  unfold keysOf
  induction account.fates with
  | nil =>
    rw [List.sum_eq_zero]
    · rfl
    · intro count member
      obtain ⟨part, _, equal⟩ := List.mem_map.mp member
      exact equal.symm
  | cons entry rest inductionHypothesis =>
    simp only [further, List.sum_map_add, inductionHypothesis, each]

namespace ReaderAudit

open LoadVerifier.Random
open Pool (Moved)

/-! ### What a worker owes -/

/-- What a worker owes at a task; it owes nothing elsewhere. -/
def atTask {Weight : Type} [Zero Weight] (due : ReaderTask → Weight) :
    Position ReaderTask → Weight
  | .working task => due task
  | .crashed _ | .leaving _ | .left _ => 0

/-- The key whose fate is open. -/
def openKey : ReaderTask → Multiset Int
  | .look _ key _ | .askFinished _ key _ | .lookAgain _ key | .unreachable _ key | .pause _ key _
  | .read _ key _ | .countRead _ key _ _ | .countRow _ key _ _ => {key}
  | .seed | .checkStop _ | .claim _ | .verified _ _ | .recordError _ _ _ | .abort _ _
  | .stopPool _ _ => 0

/-- A read was counted, and its row not yet. -/
def rowDue : ReaderTask → Nat
  | .countRow _ _ _ _ => 1
  | _ => 0

/-- A row matched, which is not counted yet. -/
def matchDue : ReaderTask → Nat
  | .verified _ _ => 1
  | _ => 0

/-- A key has an error, which is not recorded yet. -/
def errorDue : ReaderTask → Multiset Int
  | .recordError _ key _ => {key}
  | _ => 0

/-- One for a worker that has crashed. -/
def crashAt : Position ReaderTask → Nat
  | .crashed _ | .leaving (some _) | .left (some _) => 1
  | .working _ | .leaving none | .left none => 0

/-- What one step of a worker books: a key it claims, a key it is done with, an error it records,
and what it counts. -/
structure Booking where
  claimed : List Int := []
  fates : List (Int × Fate) := []
  erred : List Int := []
  read : Nat := 0
  rows : Nat := 0
  verified : Nat := 0
  unreachable : Nat := 0

/-- What a worker owes before a step, and what becomes of its key, is what it owes after the step
together with what the step counts. -/
structure Settles (booking : Booking) (before after : Position ReaderTask) : Prop where
  keys : atTask openKey before + booking.claimed =
    atTask openKey after + ((booking.fates.map Prod.fst : List Int) : Multiset Int)
  rows : atTask rowDue before + booking.read = atTask rowDue after + booking.rows
  counted : booking.rows = (keysWith Fate.isRow booking.fates).length
  matched : atTask matchDue before + (keysWith (Fate.is .matched) booking.fates).length =
    atTask matchDue after + booking.verified
  errors : atTask errorDue before + (keysWith Fate.isError booking.fates : List Int) =
    atTask errorDue after + (booking.erred : Multiset Int)
  unreachable : booking.unreachable = (keysWith (Fate.is .unreachable) booking.fates).length
  crashes : crashAt before + (keysWith Fate.isCrash booking.fates).length ≤ crashAt after

theorem settles_of_wanders {shared : Shared} {state : ReaderState} {worker : Nat}
    {before after : Position ReaderTask} (wanders : Wanders shared state worker before after) :
    Settles {} before after := by
  cases wanders with
  | left crash => cases crash <;> constructor <;> rfl
  | _ => constructor <;> first | rfl | exact Nat.zero_le _

theorem settles_of_waits {state : ReaderState} {key : Int} {before after : ReaderTask}
    (waits : Waits state key before after) :
    Settles {} (.working before) (.working after) := by
  cases waits <;> constructor <;> rfl

/-- A counted row is booked by its fate, and leaves the error or the match to be counted. -/
theorem settles_of_countRow (stream : Stream) (key : Int) (verify : Bool) (row : Option Columns)
    (bounds : Bounds) :
    Settles { fates := [(key, fateOfRow key verify row bounds)], rows := 1 }
      (.working (.countRow stream key verify row))
      (Pool.positionAfter (Reader.judge stream key verify row bounds)) := by
  refine judge_cases stream key verify row bounds
    (motive := fun fate move => Settles { fates := [(key, fate)], rows := 1 }
      (.working (.countRow stream key verify row)) (Pool.positionAfter move)) ?_ ?_ ?_ ?_ ?_
  · constructor <;> rfl
  · constructor <;> rfl
  · constructor <;> rfl
  · intro problems
    constructor <;> rfl
  · intro crash
    constructor <;> rfl

variable {Storage Source : Type} {audit next : ReaderAudit Storage Source} {worker : Nat}

/-- The account and the counts of a reader go on by a booking. -/
structure Books (audit next : ReaderAudit Storage Source) (booking : Booking) : Prop where
  claimed : next.account.claims.map Prod.snd =
    audit.account.claims.map Prod.snd ++ booking.claimed
  fates : next.account.fates = audit.account.fates ++ booking.fates
  erred : next.account.erred = audit.account.erred ++ booking.erred
  keysRead : next.reader.state.tally.keysRead = audit.reader.state.tally.keysRead + booking.read
  numKeys : next.reader.shared.numKeys = audit.reader.shared.numKeys + booking.rows
  verified : next.reader.state.tally.verified =
    audit.reader.state.tally.verified + booking.verified
  unreachable : next.reader.state.tally.unreachable =
    audit.reader.state.tally.unreachable + booking.unreachable
  errors : next.reader.state.tally.errors =
    audit.reader.state.tally.errors + booking.erred.length
  errorKeys : ∀ key, key ∈ next.reader.state.tally.errorKeys ↔
    key ∈ audit.reader.state.tally.errorKeys ∨ key ∈ booking.erred

/-- What books nothing. -/
theorem books_nothing (claims : next.account.claims = audit.account.claims)
    (fates : next.account.fates = audit.account.fates)
    (erred : next.account.erred = audit.account.erred)
    (tally : next.reader.state.tally = audit.reader.state.tally)
    (numKeys : next.reader.shared.numKeys = audit.reader.shared.numKeys) : Books audit next {} where
  claimed := by rw [claims, List.append_nil]
  fates := by rw [fates, List.append_nil]
  erred := by rw [erred, List.append_nil]
  keysRead := by rw [tally]; rfl
  numKeys := by rw [numKeys]; rfl
  verified := by rw [tally]; rfl
  unreachable := by rw [tally]; rfl
  errors := by rw [tally]; rfl
  errorKeys key := by rw [tally]; simp

section Steps

variable [Store Storage]

/-- Whatever a worker does is booked, and the worker settles what it owes. -/
theorem Change.booked (change : Change audit worker next) :
    ∃ booking before after, Moved audit.reader next.reader worker before after ∧
      Books audit next booking ∧ Settles booking before after := by
  cases change with
  | wandered reader before after wanders moved shared state =>
    exact ⟨{}, before, after, moved,
      books_nothing rfl rfl rfl (by rw [state]) (by rw [shared]), settles_of_wanders wanders⟩
  | claimed reader stream cursor known left moved shared state =>
    refine ⟨{ claimed := [cursor.next] }, _, _, moved, ?_, ?_⟩
    · constructor <;> simp [shared, state]
    · cases audit.world.source.isSome <;> constructor <;> rfl
  | waited reader before after key source waits linked moved shared state =>
    exact ⟨{}, _, _, moved, books_nothing rfl rfl rfl (by rw [state]) (by rw [shared]),
      settles_of_waits waits⟩
  | gaveUp reader stream key delay stopped moved shared state =>
    refine ⟨{ fates := [(key, .givenUp)] }, _, _, moved, ?_, by constructor <;> rfl⟩
    constructor <;> simp [shared, state, ReadAccount.close]
  | missed reader stream key moved shared state =>
    refine ⟨{ fates := [(key, .unreachable)], unreachable := 1 }, _, _, moved, ?_,
      by constructor <;> rfl⟩
    constructor <;> simp [shared, state, ReadAccount.close, ReadTally.countUnreachable]
  | read reader stream key verify row answer moved shared state =>
    exact ⟨{}, _, _, moved, books_nothing rfl rfl rfl (by rw [state]) (by rw [shared]),
      by constructor <;> rfl⟩
  | refused reader stream key verify failure answer moved shared state =>
    refine ⟨{ fates := [(key, .unreadable)] }, _, _, moved, ?_, by constructor <;> rfl⟩
    constructor <;> simp [shared, state, ReadAccount.close]
  | broke reader stream key verify crash answer moved shared state =>
    refine ⟨{ fates := [(key, .broken)] }, _, _, moved, ?_, by constructor <;> rfl⟩
    constructor <;> simp [shared, state, ReadAccount.close]
  | countedRead reader stream key verify row moved shared state =>
    refine ⟨{ read := 1 }, _, _, moved, ?_, by constructor <;> rfl⟩
    constructor <;> simp [shared, state, ReadTally.countRead]
  | countedRow reader stream key verify row moved shared state =>
    refine ⟨_, _, _, moved, ?_, settles_of_countRow stream key verify row _⟩
    constructor <;> simp [shared, state, ReadAccount.close]
  | verified reader stream key moved shared state =>
    refine ⟨{ verified := 1 }, _, _, moved, ?_, by constructor <;> rfl⟩
    constructor <;> simp [shared, state, ReadTally.countVerified]
  | erred reader stream key problems moved shared state =>
    refine ⟨{ erred := [key] }, _, _, moved, ?_, ?_⟩
    · constructor
      case errorKeys =>
        intro other
        rw [state, List.mem_singleton]
        exact audit.reader.state.tally.mem_countError key other
      all_goals simp [shared, state, ReadTally.countError]
    · split <;> constructor <;> rfl
  | foundAborted reader stream errors aborted moved shared state =>
    exact ⟨{}, _, _, moved, books_nothing rfl rfl rfl (by rw [state]) (by rw [shared]),
      by constructor <;> rfl⟩
  | aborted reader stream errors unaborted moved shared state =>
    exact ⟨{}, _, _, moved, books_nothing rfl rfl rfl (by rw [state]) (by rw [shared]),
      by constructor <;> rfl⟩
  | stoppedPool reader stream errors moved shared state =>
    exact ⟨{}, _, _, moved, books_nothing rfl rfl rfl (by rw [state]) (by rw [shared]),
      by constructor <;> rfl⟩
  | reported reader crash moved shared state =>
    exact ⟨{}, _, _, moved, books_nothing rfl rfl rfl (by rw [state]) (by rw [shared]),
      by constructor <;> rfl⟩

end Steps

/-! ### The balance -/

/-- The counts of a reader are those of its account, but for what the workers owe. -/
structure Balanced (audit : ReaderAudit Storage Source) : Prop where
  keys : ((audit.account.claims.map Prod.snd : List Int) : Multiset Int) =
    (audit.account.fates.map Prod.fst : List Int) + audit.reader.total (atTask openKey)
  rows : audit.reader.state.tally.keysRead =
    audit.reader.shared.numKeys + audit.reader.total (atTask rowDue)
  counted : audit.reader.shared.numKeys = (keysWith Fate.isRow audit.account.fates).length
  matched : (keysWith (Fate.is .matched) audit.account.fates).length =
    audit.reader.state.tally.verified + audit.reader.total (atTask matchDue)
  errors : ((keysWith Fate.isError audit.account.fates : List Int) : Multiset Int) =
    audit.account.erred + audit.reader.total (atTask errorDue)
  errors_eq : audit.reader.state.tally.errors = audit.account.erred.length
  errorKeys : ∀ key, key ∈ audit.reader.state.tally.errorKeys ↔ key ∈ audit.account.erred
  unreachable : audit.reader.state.tally.unreachable =
    (keysWith (Fate.is .unreachable) audit.account.fates).length
  crashes : (keysWith Fate.isCrash audit.account.fates).length ≤ audit.reader.total crashAt

/-- A step that is booked keeps the balance. -/
theorem Balanced.booked {booking : Booking} {before after : Position ReaderTask}
    (balanced : Balanced audit) (moved : Moved audit.reader next.reader worker before after)
    (books : Books audit next booking) (settles : Settles booking before after) :
    Balanced next := by
  have lengths : ∀ chosen, (keysWith chosen next.account.fates).length =
      (keysWith chosen audit.account.fates).length + (keysWith chosen booking.fates).length := by
    intro chosen
    rw [books.fates, keysWith_append, List.length_append]
  refine ⟨?_, ?_, ?_, ?_, ?_, ?_, ?_, ?_, ?_⟩
  · rw [books.claimed, books.fates, List.map_append, ← Multiset.coe_add, ← Multiset.coe_add]
    exact moved.conserved _ _ _ _ balanced.keys settles.keys
  · have owed := moved.total_add (atTask rowDue)
    have settled := settles.rows
    rw [books.keysRead, books.numKeys, balanced.rows]
    omega
  · rw [books.numKeys, lengths, balanced.counted, settles.counted]
  · have owed := moved.total_add (atTask matchDue)
    have settled := settles.matched
    rw [lengths, books.verified, balanced.matched]
    omega
  · rw [books.fates, books.erred, keysWith_append, ← Multiset.coe_add, ← Multiset.coe_add]
    exact moved.conserved _ _ _ _ balanced.errors settles.errors
  · rw [books.errors, books.erred, List.length_append, balanced.errors_eq]
  · intro key
    rw [books.errorKeys, books.erred, List.mem_append, balanced.errorKeys]
  · rw [books.unreachable, lengths, balanced.unreachable, settles.unreachable]
  · have owed := moved.total_add crashAt
    have settled := settles.crashes
    have bounded := balanced.crashes
    rw [lengths]
    omega

/-- The claimed keys are those from the start of the range up to the cursor, in order. -/
def Claimed (range : KeyRange) (audit : ReaderAudit Storage Source) : Prop :=
  ∃ cursor, audit.reader.shared.cursor = some cursor ∧ cursor.range = range ∧
    audit.account.claims.map Prod.snd = Int.range range.start cursor.next

section Steps

variable [Store Storage]

theorem Change.claimed_eq_range {range : KeyRange} (change : Change audit worker next)
    (claimed : Claimed range audit) : Claimed range next := by
  obtain ⟨cursor, known, ranged, keys⟩ := claimed
  cases change with
  | claimed reader stream other found left moved shared state =>
    cases known.symm.trans found
    refine ⟨cursor.claim.2, by rw [shared], (cursor.claim_range).trans ranged, ?_⟩
    rw [List.map_append, keys, ← ranged, cursor.range_claim left]
    rfl
  | countedRow reader stream key verify row moved shared state =>
    exact ⟨cursor, by rw [shared]; exact known, ranged, keys⟩
  | stoppedPool reader stream errors moved shared state =>
    exact ⟨cursor, by rw [shared]; exact known, ranged, keys⟩
  | reported reader crash moved shared state =>
    exact ⟨cursor, by rw [shared]; exact known, ranged, keys⟩
  | _ =>
    rename_i shared state
    exact ⟨cursor, by rw [shared]; exact known, ranged, keys⟩

end Steps

end ReaderAudit

end LoadVerifier
