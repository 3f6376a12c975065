/-
This file bounds by how much the errors of a reader can exceed its limit.

A worker that exceeds the limit aborts the reader in two steps: it sets the flag of the abort, and
then it asks everybody to stop. Another worker that exceeds the limit between those steps finds the
flag set and goes on, because nobody was asked to stop yet. So it may claim another key, and exceed
the limit again, as often as it comes by before the first worker takes its second step. The account
of the reader notes each of these moments.

They are the only ones. Apart from them every worker exceeds the limit at most once: until somebody
was asked to stop it is on its way through the abort, and afterwards it does not claim a key any
more. So the errors stay within the limit, the number of workers and the number of those moments
together, and a worker that exceeded the limit claims a further key only after such a moment of its
own.
-/
import LoadVerifier.Proofs.ReaderReport

namespace LoadVerifier

/-- The keys that a worker claimed, in order. -/
def ReadAccount.claimsOf (account : ReadAccount) (worker : Nat) : List Int :=
  (account.claims.filter (·.1 = worker)).map Prod.snd

namespace ReaderAudit

open LoadVerifier.Random
open Pool (Moved)

variable {Storage Source : Type} {audit next : ReaderAudit Storage Source} {worker : Nat}

/-! ### The errors beyond the limit -/

/-- One for a worker that records no further error, given whether everybody was asked to stop. -/
def spentAt (stopped : Bool) : Position ReaderTask → Nat
  | .working (.abort _ _) | .working (.stopPool _ _) => 1
  | .working .seed | .working (.checkStop _) | .crashed _ | .leaving _ | .left _ => stopped.toNat
  | .working _ => 0

theorem spentAt_le_one (stopped : Bool) (position : Position ReaderTask) :
    spentAt stopped position ≤ 1 := by
  unfold spentAt
  split
  · exact Nat.le_refl 1
  · exact Nat.le_refl 1
  · exact Bool.toNat_le stopped
  · exact Bool.toNat_le stopped
  · exact Bool.toNat_le stopped
  · exact Bool.toNat_le stopped
  · exact Bool.toNat_le stopped
  · exact Nat.zero_le 1

/-- A request to stop makes nobody record more errors. -/
theorem spentAt_mono (before after : Bool) (grows : before = true → after = true)
    (position : Position ReaderTask) : spentAt before position ≤ spentAt after position := by
  cases before with
  | true => rw [grows rfl]
  | false =>
    unfold spentAt
    split
    · exact Nat.le_refl 1
    · exact Nat.le_refl 1
    all_goals exact Nat.zero_le _

section Steps

variable [Store Storage]

/-- Whatever a worker does, the errors stay within the limit, or the worker that records one more
spends itself. It is as good as new only after it went on unstopped. -/
theorem Change.overrun (change : Change audit worker next) :
    ∃ before after, Moved audit.reader next.reader worker before after ∧
      ((next.reader.state.tally.errors : Int) ≤ audit.reader.state.maxErrors ∨
        next.reader.state.tally.errors +
            spentAt next.reader.shared.stopRequested before +
            audit.account.unstopped.length ≤
          audit.reader.state.tally.errors +
            spentAt next.reader.shared.stopRequested after +
            next.account.unstopped.length) := by
  cases change with
  | wandered reader before after wanders moved shared state =>
    refine ⟨before, after, moved, Or.inr ?_⟩
    rw [shared, state]
    cases wanders with
    | goOn stream running =>
      rw [running]
      exact Nat.le_refl _
    | stopSeen stream stopped =>
      rw [stopped]
      exact Nat.le_refl _
    | _ => simp [spentAt]
  | claimed reader stream cursor known left moved shared state =>
    refine ⟨_, _, moved, Or.inr ?_⟩
    rw [state]
    simp [spentAt]
  | waited reader before after key source waits linked moved shared state =>
    refine ⟨_, _, moved, Or.inr ?_⟩
    rw [state]
    cases waits <;> exact Nat.le_refl _
  | erred reader stream key problems moved shared state =>
    refine ⟨_, _, moved, ?_⟩
    rw [state]
    split
    · rename_i tolerated
      exact Or.inl tolerated
    · exact Or.inr (Nat.le_refl _)
  | foundAborted reader stream errors aborted moved shared state =>
    refine ⟨_, _, moved, Or.inr ?_⟩
    rw [shared, state]
    cases audit.reader.shared.stopRequested with
    | true => simp [spentAt]
    | false =>
      simp only [spentAt, Bool.toNat_false, Bool.false_eq_true, if_false, List.length_append,
        List.length_singleton]
      omega
  | aborted reader stream errors unaborted moved shared state =>
    refine ⟨_, _, moved, Or.inr ?_⟩
    rw [state]
    exact Nat.le_refl _
  | stoppedPool reader stream errors moved shared state =>
    refine ⟨_, _, moved, Or.inr ?_⟩
    rw [shared, state]
    exact Nat.le_refl _
  | reported reader crash moved shared state =>
    refine ⟨_, _, moved, Or.inr ?_⟩
    rw [state]
    exact Nat.le_refl _
  | _ =>
    rename_i moved shared state
    refine ⟨_, _, moved, Or.inr ?_⟩
    rw [state]
    simp [spentAt, ReadAccount.close, ReadTally.countUnreachable, ReadTally.countRead,
      ReadTally.countVerified]

end Steps

/-- The errors stay within the limit, the workers that are spent, and the moments at which one of
them went on unstopped. -/
structure Bounded (maxErrors : Int) (workers : Nat) (audit : ReaderAudit Storage Source) :
    Prop where
  maxErrors_eq : audit.reader.state.maxErrors = maxErrors
  workers_eq : Pool.workerCount audit.reader = workers
  errors_le : (audit.reader.state.tally.errors : Int) ≤ maxErrors +
    audit.account.unstopped.length +
    audit.reader.total (spentAt audit.reader.shared.stopRequested)

/-- When all workers are counted as spent, the bound depends on their number only. -/
theorem Bounded.errors_le_workers {maxErrors : Int} {workers : Nat}
    (bounded : Bounded maxErrors workers audit) :
    (audit.reader.state.tally.errors : Int) ≤
      maxErrors + workers + audit.account.unstopped.length := by
  have spent := Pool.total_le_workerCount
    (spentAt audit.reader.shared.stopRequested) (spentAt_le_one _) audit.reader
  have errors := bounded.errors_le
  rw [bounded.workers_eq] at spent
  omega

variable [Store Storage]

/-- Every step of a worker keeps the bound. -/
theorem Bounded.change {maxErrors : Int} {workers : Nat} (bounded : Bounded maxErrors workers audit)
    (change : Change audit worker next) : Bounded maxErrors workers next := by
  obtain ⟨before, after, moved, overrun⟩ := change.overrun
  have settings := change.errors_cases.1
  have errors := bounded.errors_le
  have limit := bounded.maxErrors_eq
  refine ⟨settings.trans limit, moved.workerCount_eq.trans bounded.workers_eq, ?_⟩
  rcases overrun with within | spends
  · rw [limit] at within
    omega
  · have owed := moved.total_add (spentAt next.reader.shared.stopRequested)
    have grown := Pool.total_mono _ _
      (spentAt_mono _ _ fun stopped => change.stopRequested stopped) audit.reader
    omega

/-- Every event keeps the bound. -/
theorem Bounded.step [WatermarkSource Source] {maxErrors : Int} {workers : Nat}
    (bounded : Bounded maxErrors workers audit) (event : AuditEvent Storage Source)
    (happened : audit.step event = some next) : Bounded maxErrors workers next := by
  cases event with
  | work worker => exact bounded.change (change_of_work audit next worker happened)
  | stop =>
    cases happened
    obtain ⟨settings, workersEq, errors⟩ := bounded
    refine ⟨settings, workersEq, errors.trans (add_le_add_right ?_ _)⟩
    exact Int.ofNat_le.mpr (Pool.total_mono _ _ (spentAt_mono _ true fun _ => rfl) audit.reader)
  | outside store source =>
    cases happened
    exact ⟨bounded.1, bounded.2, bounded.3⟩

omit [Store Storage] in
theorem bounded_of_starts (plan : ReadPlan) (threads : Int) (reader : Reader)
    (starts : plan.Starts threads reader) (world : ReaderWorld Storage Source) :
    Bounded plan.maxErrors threads.toNat ⟨reader, world, {}⟩ := by
  obtain ⟨possible, _, now, rfl⟩ := plan.eq_spawn_of_starts threads reader starts
  refine ⟨rfl, rfl, ?_⟩
  have limit := possible.maxErrors_nonneg
  show (0 : Int) ≤ plan.maxErrors + 0 + _
  omega

/-! ### Claims after the limit -/

/-- A worker that has exceeded the limit and claims no further key, given whether everybody was
asked to stop. -/
def Barred (stopped : Bool) : Position ReaderTask → Prop
  | .working (.abort _ _) | .working (.stopPool _ _) | .crashed _ | .leaving _ | .left _ => True
  | .working (.checkStop _) => stopped = true
  | .working _ => False

theorem barred_mono {before after : Bool} (grows : before = true → after = true)
    (position : Position ReaderTask) (barred : Barred before position) :
    Barred after position := by
  unfold Barred at barred ⊢
  split at barred
  · trivial
  · trivial
  · trivial
  · trivial
  · trivial
  · exact grows barred
  · exact absurd barred id

/-- A worker is barred, and has claimed nothing since some moment. -/
def Idles (worker : Nat) (since : ReadAccount) (audit : ReaderAudit Storage Source) : Prop :=
  (∃ position, audit.reader.position? worker = some position ∧
      Barred audit.reader.shared.stopRequested position) ∧
    audit.account.claimsOf worker = since.claimsOf worker

/-- A worker idles since some moment, unless it went on unstopped since then. -/
structure HeldBack (worker : Nat) (since : ReadAccount) (audit : ReaderAudit Storage Source) :
    Prop where
  grown : since.unstopped.count worker ≤ audit.account.unstopped.count worker
  idles : audit.account.unstopped.count worker = since.unstopped.count worker →
    Idles worker since audit

/-- What a worker does adds nothing to the claims of another. -/
theorem Change.claimsOf_of_ne (change : Change audit worker next) (other : Nat)
    (different : worker ≠ other) : next.account.claimsOf other = audit.account.claimsOf other := by
  cases change with
  | claimed reader stream cursor known left moved shared state =>
    rw [ReadAccount.claimsOf, ReadAccount.claimsOf, List.filter_append, List.filter_singleton,
      decide_eq_false different]
    exact congrArg _ (List.append_nil _)
  | _ => rfl

/-- Nothing is taken out of the note of the workers that went on unstopped. -/
theorem Change.unstopped_mono (change : Change audit worker next) (other : Nat) :
    audit.account.unstopped.count other ≤ next.account.unstopped.count other := by
  cases change with
  | foundAborted => exact List.Sublist.count_le _ (List.sublist_append_left _ _)
  | _ => exact Nat.le_refl _

/-- A barred worker stays barred and claims nothing, unless it goes on unstopped. -/
theorem Change.own_barred (change : Change audit worker next) (position : Position ReaderTask)
    (found : audit.reader.position? worker = some position)
    (barred : Barred audit.reader.shared.stopRequested position)
    (same : next.account.unstopped.count worker = audit.account.unstopped.count worker) :
    Idles worker audit.account next := by
  -- A place from which a worker is not barred contradicts the hypothesis.
  have here : ∀ {before : Position ReaderTask}, audit.reader.position? worker = some before →
      Barred audit.reader.shared.stopRequested before := by
    intro before there
    cases found.symm.trans there
    exact barred
  cases change with
  | wandered reader before after wanders moved shared state =>
    have own := here moved.position_eq
    refine ⟨⟨after, moved.arrived, ?_⟩, rfl⟩
    cases wanders with
    | goOn stream running => exact absurd (own.symm.trans running) Bool.noConfusion
    | seeded => exact absurd own id
    | _ => trivial
  | foundAborted reader stream errors aborted moved shared state =>
    cases stopped : audit.reader.shared.stopRequested with
    | true => exact ⟨⟨_, moved.arrived, shared ▸ stopped⟩, rfl⟩
    | false =>
      simp only [stopped, Bool.false_eq_true, if_false, List.count_append,
        List.count_singleton_self] at same
      omega
  | aborted reader stream errors unaborted moved shared state =>
    exact ⟨⟨_, moved.arrived, trivial⟩, rfl⟩
  | stoppedPool reader stream errors moved shared state =>
    exact ⟨⟨_, moved.arrived, by rw [shared]; rfl⟩, rfl⟩
  | reported reader crash moved shared state => exact ⟨⟨_, moved.arrived, trivial⟩, rfl⟩
  | waited reader before after key source waits linked moved shared state =>
    have own := here moved.position_eq
    cases waits <;> exact absurd own id
  | _ =>
    rename_i moved _ _
    exact absurd (here moved.position_eq) id

variable {since : ReadAccount} {watched : Nat}

/-- Every step of a worker keeps a worker held back. -/
theorem HeldBack.change (heldBack : HeldBack watched since audit)
    (change : Change audit worker next) : HeldBack watched since next := by
  have grows := change.unstopped_mono watched
  refine ⟨heldBack.grown.trans grows, fun same => ?_⟩
  have before := le_antisymm (grows.trans_eq same) heldBack.grown
  obtain ⟨⟨position, found, barred⟩, claims⟩ := heldBack.idles before
  by_cases own : worker = watched
  · subst own
    obtain ⟨still, unclaimed⟩ := change.own_barred position found barred (same.trans before.symm)
    exact ⟨still, unclaimed.trans claims⟩
  · obtain ⟨_, _, moved⟩ := change.moved
    refine ⟨⟨position, (moved.stayed watched own).trans found, ?_⟩,
      (change.claimsOf_of_ne watched own).trans claims⟩
    exact barred_mono (fun stopped => change.stopRequested stopped) position barred

/-- Every event keeps a worker held back. -/
theorem HeldBack.step [WatermarkSource Source] (heldBack : HeldBack watched since audit)
    (event : AuditEvent Storage Source) (happened : audit.step event = some next) :
    HeldBack watched since next := by
  cases event with
  | work worker => exact heldBack.change (change_of_work audit next worker happened)
  | stop =>
    cases happened
    refine ⟨heldBack.grown, fun same => ?_⟩
    obtain ⟨⟨position, found, barred⟩, claims⟩ := heldBack.idles same
    exact ⟨⟨position, found, barred_mono (fun _ => rfl) position barred⟩, claims⟩
  | outside store source =>
    cases happened
    exact ⟨heldBack.grown, heldBack.idles⟩

/-! ### The bound -/

/-- At every moment the errors of a reader are within its limit, the number of its workers, and the
number of times that a worker exceeded the limit, found the reader aborted and went on although
nobody was asked to stop yet. And a worker that has exceeded the limit claims a further key only
after it went on so itself. -/
theorem overrun_bounded [WatermarkSource Source] (plan : ReadPlan) (threads : Int)
    (reader : Reader) (starts : plan.Starts threads reader) (world : ReaderWorld Storage Source)
    (schedule : List (AuditEvent Storage Source)) (audit : ReaderAudit Storage Source)
    (ran : replay step ⟨reader, world, {}⟩ schedule = some audit) :
    audit.reader.state.tally.errors ≤
        plan.maxErrors + threads + audit.account.unstopped.length ∧
      ∀ before after exceeded worker stream errors, schedule = before ++ after →
        replay step ⟨reader, world, {}⟩ before = some exceeded →
        exceeded.reader.position? worker = some (.working (.abort stream errors)) →
        audit.account.claimsOf worker = exceeded.account.claimsOf worker ∨
          exceeded.account.unstopped.count worker < audit.account.unstopped.count worker := by
  refine ⟨?_, fun before after exceeded worker stream errors split came found => ?_⟩
  · obtain ⟨_, ⟨some_thread, _⟩, _⟩ := plan.eq_spawn_of_starts threads reader starts
    have bounded : Bounded plan.maxErrors threads.toNat audit := replay_invariant _
      (fun _ event _ bounded happened => bounded.step event happened) _ audit schedule
      (bounded_of_starts plan threads reader starts world) ran
    have within := bounded.errors_le_workers
    rw [Int.toNat_of_nonneg (by omega)] at within
    exact within
  · subst split
    rw [replay_append, came, Option.bind_some] at ran
    have heldBack : HeldBack worker exceeded.account audit := replay_invariant _
      (fun _ event _ heldBack happened => heldBack.step event happened) _ audit after
      ⟨Nat.le_refl _, fun _ => ⟨⟨_, found, trivial⟩, rfl⟩⟩ ran
    rcases heldBack.grown.lt_or_eq with wentOn | same
    · exact Or.inr wentOn
    · exact Or.inl (heldBack.idles same.symm).2

/-- Five keys of which every row is compared, with no error allowed. -/
def fiveKeys : ReadPlan where
  bounds := .small
  seed := .value 7
  verifyPercent := 100
  maxErrors := 0
  keyWindow := 0
  range := .five

/-- Two workers, no writer, and a store without rows. -/
def twoUnlinked : ReaderAudit FaultyStore ScriptedSource where
  reader := fiveKeys.idle.spawn .seed 2 0.0
  world := { store := {}, source := none }

/-- The first worker exceeds the limit and is suspended between the two steps of its abort; then the
second worker exceeds the limit too. -/
def suspended : List (AuditEvent FaultyStore ScriptedSource) :=
  (List.replicate 8 0 ++ List.replicate 7 1).map AuditEvent.work

/-- The second worker goes on to the end of the range before the first one takes its next step. -/
def overtaken : List (AuditEvent FaultyStore ScriptedSource) :=
  (List.replicate 25 1 ++ List.replicate 3 0).map AuditEvent.work

theorem exists_abort_of_due (position : Position ReaderTask)
    (due : atTask abortDue position = 1) :
    ∃ stream errors, position = .working (.abort stream errors) := by
  cases position with
  | working task =>
    cases task with
    | abort stream errors => exact ⟨stream, errors, rfl⟩
    | _ => cases due
  | _ => cases due

theorem overrun_bounded_when_overtaken :
    ∃ audit, replay step twoUnlinked (suspended ++ overtaken) = some audit ∧
      audit.reader.state.tally.errors = 5 ∧ audit.account.unstopped = [1, 1, 1, 1] ∧
      (5 : Int) ≤ fiveKeys.maxErrors + 2 + 4 := by
  have known : (replay step twoUnlinked (suspended ++ overtaken)).map (fun audit =>
      (audit.reader.state.tally.errors, audit.account.unstopped)) = some (5, [1, 1, 1, 1]) := by
    decide +kernel
  obtain ⟨audit, ran, seen⟩ := Option.map_eq_some_iff.mp known
  rw [Prod.mk.injEq] at seen
  obtain ⟨errors, unstopped⟩ := seen
  have bounded := (overrun_bounded fiveKeys 2 _ ⟨fiveKeys.ready, 0.0, rfl, rfl⟩ _ _ audit ran).1
  rw [errors, unstopped] at bounded
  exact ⟨audit, ran, errors, unstopped, bounded⟩

/-- The number of workers alone bounds nothing: a worker that has exceeded the limit claims further
keys, and a reader of two workers that tolerates no error ends with five. -/
theorem overrun_exceeds_workers :
    fiveKeys.Starts 2 twoUnlinked.reader ∧
      ∃ exceeded audit stream errors, replay step twoUnlinked suspended = some exceeded ∧
        exceeded.reader.position? 1 = some (.working (.abort stream errors)) ∧
        exceeded.account.claimsOf 1 = [1] ∧
        replay step exceeded overtaken = some audit ∧ Pool.finished audit.reader = true ∧
        audit.account.claimsOf 1 = [1, 2, 3, 4] ∧
        fiveKeys.maxErrors + 2 < audit.reader.state.tally.errors := by
  have before : (replay step twoUnlinked suspended).map (fun audit =>
      ((audit.reader.position? 1).map (atTask abortDue), audit.account.claimsOf 1)) =
        some (some 1, [1]) := by
    decide +kernel
  have after : (replay step twoUnlinked (suspended ++ overtaken)).map (fun audit =>
      (Pool.finished audit.reader, audit.account.claimsOf 1,
        decide (fiveKeys.maxErrors + 2 < audit.reader.state.tally.errors))) =
        some (true, [1, 2, 3, 4], true) := by
    decide +kernel
  obtain ⟨exceeded, came, seen⟩ := Option.map_eq_some_iff.mp before
  rw [Prod.mk.injEq, Option.map_eq_some_iff] at seen
  obtain ⟨⟨position, found, due⟩, claims⟩ := seen
  obtain ⟨stream, errors, rfl⟩ := exists_abort_of_due position due
  rw [replay_append, came, Option.bind_some] at after
  obtain ⟨audit, ran, seen⟩ := Option.map_eq_some_iff.mp after
  rw [Prod.mk.injEq, Prod.mk.injEq, decide_eq_true_eq] at seen
  exact ⟨⟨fiveKeys.ready, 0.0, rfl, rfl⟩, exceeded, audit, stream, errors, came, found, claims, ran,
    seen.1, seen.2.1, seen.2.2⟩

end ReaderAudit

end LoadVerifier
