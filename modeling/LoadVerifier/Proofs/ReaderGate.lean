/-
This file proves what a linked reader waits for before it reads a key, whatever the source of
watermarks answers and however often the answers change.

Every key that was claimed is either waited for by exactly one worker or closed: read, counted as
unreachable, or given up. So the sights of one key come from one worker at a time, and they lead to
the place where that worker is in its wait. What the sights of a key must look like is then a matter
of the wait alone.
-/
import LoadVerifier.Proofs.WaitTrace
import LoadVerifier.Proofs.WriterAccounts
import LoadVerifier.Store.Faulty

namespace LoadVerifier

/-! ### The log key by key -/

/-- What was seen of a key, in order. -/
def sights (key : Int) (log : List ReadNote) : List Sight :=
  (log.filter (·.key = key)).map (·.sight)

/-- Whether a sight is the last one of its key. -/
def Sight.closing : Sight → Bool
  | .read _ | .unreachable | .slept true => true
  | .claimed | .mark _ | .finished _ | .slept false => false

/-- The keys that were claimed, in order. -/
def claimedKeys (log : List ReadNote) : List Int :=
  (log.filter (·.sight = .claimed)).map (·.key)

/-- The keys that nobody waits for any more, in order. -/
def closedKeys (log : List ReadNote) : List Int := (log.filter (·.sight.closing)).map (·.key)

theorem sights_snoc (key : Int) (log : List ReadNote) (worker : Nat) (other : Int) (sight : Sight) :
    sights key (log ++ [⟨worker, other, sight⟩]) =
      sights key log ++ if other = key then [sight] else [] := by
  rw [sights, List.filter_append, List.map_append]
  by_cases same : other = key
  · rw [List.filter_singleton, if_pos same, decide_eq_true same]
    rfl
  · rw [List.filter_singleton, if_neg same, decide_eq_false same]
    rfl

theorem claimedKeys_snoc (log : List ReadNote) (worker : Nat) (key : Int) (sight : Sight) :
    claimedKeys (log ++ [⟨worker, key, sight⟩]) =
      claimedKeys log ++ if sight = .claimed then [key] else [] := by
  rw [claimedKeys, List.filter_append, List.map_append]
  by_cases claimed : sight = .claimed
  · rw [List.filter_singleton, if_pos claimed, decide_eq_true claimed]
    rfl
  · rw [List.filter_singleton, if_neg claimed, decide_eq_false claimed]
    rfl

theorem closedKeys_snoc (log : List ReadNote) (worker : Nat) (key : Int) (sight : Sight) :
    closedKeys (log ++ [⟨worker, key, sight⟩]) =
      closedKeys log ++ if sight.closing then [key] else [] := by
  rw [closedKeys, List.filter_append, List.map_append, List.filter_singleton]
  cases sight.closing <;> rfl

/-- A wait is closed after a closing sight, and only then. -/
theorem ReadPlan.closing_iff {plan : ReadPlan} {key : Int} (wait later : Wait) (sight : Sight)
    (goes : plan.waitAfter key wait sight = some later) :
    sight.closing = true ↔ later = .closed := by
  cases wait <;> cases sight <;> simp only [waitAfter, reduceCtorEq, Option.some.injEq] at goes
  all_goals subst goes
  all_goals first | (split <;> simp_all [Sight.closing]) | simp [Sight.closing]

/-! ### Who waits for what -/

/-- The key that a task waits for, and how far the wait is. -/
def ReaderTask.waitsFor : ReaderTask → Option (Int × Wait)
  | .look _ key _ => some (key, .looking)
  | .askFinished _ key _ => some (key, .asking)
  | .pause _ key _ => some (key, .pausing)
  | .lookAgain _ key => some (key, .lookingAgain)
  | .read _ key _ => some (key, .reading)
  | .unreachable _ key => some (key, .missing)
  | .seed | .checkStop _ | .claim _ | .countRead _ _ _ _ | .countRow _ _ _ _ | .verified _ _
  | .recordError _ _ _ | .abort _ _ | .stopPool _ _ => none

/-- The key that a worker waits for, and how far the wait is. -/
def waitsAt : Position ReaderTask → Option (Int × Wait)
  | .working task => task.waitsFor
  | .crashed _ | .leaving _ | .left _ => none

/-- The key that a worker waits for. -/
def waitedAt (position : Position ReaderTask) : Multiset Int :=
  ((waitsAt position).map fun waits => {waits.1}).getD 0

theorem mem_waitedAt_iff (position : Position ReaderTask) (key : Int) :
    key ∈ waitedAt position ↔ ∃ wait, waitsAt position = some (key, wait) := by
  rw [waitedAt]
  cases waitsAt position with
  | none => simp
  | some waits => simp [Prod.ext_iff, eq_comm]

namespace ReaderLife

open LoadVerifier.Random
open Pool (Moved)

theorem waitsAt_judge (stream : Stream) (key : Int) (verify : Bool) (row : Option Columns)
    (bounds : Bounds) :
    waitsAt (Pool.positionAfter (Reader.judge stream key verify row bounds)) = none := by
  unfold Reader.judge
  split
  · rfl
  · split
    · split
      · rfl
      · split <;> rfl
    · rfl

theorem idle_of_pass {shared later : Shared} {state next : ReaderState} {worker : Nat}
    {before after : Position ReaderTask}
    (pass : Pass shared state worker before after later next) :
    waitsAt before = none ∧ waitsAt after = none := by
  cases pass with
  | countedRow stream key verify row => exact ⟨rfl, waitsAt_judge stream key verify row _⟩
  | erred stream key problems task tolerated =>
    rcases tolerated with rfl | rfl
    · exact ⟨rfl, rfl⟩
    · exact ⟨rfl, rfl⟩
  | _ => exact ⟨rfl, rfl⟩

/-- A sight of a key leads its wait on to where the worker goes. -/
theorem waitAfter_of_sees {plan : ReadPlan} {shared : Shared} {state : ReaderState} {key : Int}
    {before after : ReaderTask} {sight : Sight} (sees : Sees shared state key before sight after)
    (lastKey : Reader.lastKey shared = plan.range.last)
    (keyWindow : state.keyWindow = plan.keyWindow) (inside : key ≤ plan.range.last) :
    ∃ wait later, before.waitsFor = some (key, wait) ∧ plan.waitAfter key wait sight = some later ∧
      after.waitsFor = if later = .closed then none else some (key, later) := by
  cases sees with
  | ripe stream delay mark ripe =>
    rw [lastKey, keyWindow, ReadPlan.ripe_iff_readable inside] at ripe
    exact ⟨.looking, .reading, rfl, by rw [ReadPlan.waitAfter, if_pos ripe], rfl⟩
  | unripe stream delay mark unripe =>
    rw [lastKey, keyWindow, ReadPlan.ripe_iff_readable inside] at unripe
    exact ⟨.looking, .asking, rfl, by rw [ReadPlan.waitAfter, if_neg unripe], rfl⟩
  | ended stream delay => exact ⟨.asking, .lookingAgain, rfl, rfl, rfl⟩
  | goesOn stream delay => exact ⟨.asking, .pausing, rfl, rfl, rfl⟩
  | reached stream mark reached =>
    exact ⟨.lookingAgain, .reading, rfl, by rw [ReadPlan.waitAfter, if_pos reached], rfl⟩
  | missed stream mark missed =>
    have unreached : ¬key ≤ mark := not_le.mpr missed
    exact ⟨.lookingAgain, .missing, rfl, by rw [ReadPlan.waitAfter, if_neg unreached], rfl⟩
  | woken stream delay running => exact ⟨.pausing, .looking, rfl, rfl, rfl⟩
  | stopped stream delay stopped => exact ⟨.pausing, .closed, rfl, rfl, rfl⟩

variable {Storage Source : Type}

/-- A step of a worker next to the log: it adds nothing and nobody waits, or it adds a claim and the
worker waits from then on, or it adds a sight and the wait goes on from it. -/
inductive Observed (plan : ReadPlan) (life next : ReaderLife Storage Source) (worker : Nat) : Prop
  | silent (before after : Position ReaderTask)
      (moved : Moved life.reader next.reader worker before after)
      (idle : waitsAt before = none) (still : waitsAt after = none) (log : next.log = life.log)
      (cursor : next.reader.shared.cursor = life.reader.shared.cursor)
  | claimed (before after : Position ReaderTask) (cursor : Cursor)
      (moved : Moved life.reader next.reader worker before after)
      (idle : waitsAt before = none) (looking : waitsAt after = some (cursor.next, .looking))
      (known : life.reader.shared.cursor = some cursor) (left : cursor.next < cursor.range.limit)
      (log : next.log = life.log ++ [⟨worker, cursor.next, .claimed⟩])
      (claim : next.reader.shared.cursor = some cursor.claim.2)
  | saw (before after : Position ReaderTask) (key : Int) (sight : Sight) (wait later : Wait)
      (moved : Moved life.reader next.reader worker before after)
      (waited : waitsAt before = some (key, wait))
      (goes : plan.waitAfter key wait sight = some later) (unclaimed : sight ≠ .claimed)
      (waits : waitsAt after = if later = .closed then none else some (key, later))
      (log : next.log = life.log ++ [⟨worker, key, sight⟩])
      (cursor : next.reader.shared.cursor = life.reader.shared.cursor)

variable {plan : ReadPlan} {life next : ReaderLife Storage Source} {worker : Nat}

theorem cursor_eq_of_pass {shared later : Shared} {state after : ReaderState}
    {before position : Position ReaderTask}
    (pass : Pass shared state worker before position later after) :
    later.cursor = shared.cursor := by
  cases pass <;> rfl

/-- Every step of a worker is observed, as long as nobody waits for a key beyond the range. -/
theorem Change.observed [Store Storage] [WatermarkSource Source] {source : Source}
    (change : Change life worker source next)
    (lastKey : Reader.lastKey life.reader.shared = plan.range.last)
    (keyWindow : life.reader.state.keyWindow = plan.keyWindow)
    (inside : ∀ position, life.reader.position? worker = some position →
      ∀ key ∈ waitedAt position, key ≤ plan.range.last) : Observed plan life next worker := by
  cases change with
  | passed reader before after moved pass =>
    obtain ⟨idle, still⟩ := idle_of_pass pass
    exact .silent before after moved idle still rfl (cursor_eq_of_pass pass)
  | claimed reader stream cursor moved known left shared state =>
    exact .claimed _ _ cursor moved rfl rfl known left rfl (by rw [shared])
  | saw reader before after key sight later moved sees _ shared state =>
    have waits : key ∈ waitedAt (.working before) := by
      rw [mem_waitedAt_iff]
      cases sees <;> exact ⟨_, rfl⟩
    obtain ⟨wait, following, waited, goes, goesOn⟩ := waitAfter_of_sees sees lastKey keyWindow
      (inside _ moved.position_eq key waits)
    have unclaimed : sight ≠ .claimed := by cases sees <;> exact Sight.noConfusion
    exact .saw _ _ key sight wait following moved waited goes unclaimed goesOn rfl (by rw [shared])
  | read reader stream key verify after moved outcome shared state =>
    refine .saw _ after key _ .reading .closed moved rfl rfl Sight.noConfusion ?_ rfl
      (by rw [shared])
    rw [outcome]
    split <;> rfl
  | missed reader stream key moved shared state =>
    exact .saw _ _ key _ .missing .closed moved rfl rfl Sight.noConfusion rfl rfl (by rw [shared])

/-! ### Keeping to the gate -/

/-- The accounts of a linked reader, and the sights of every key: none before the claim, those of
the worker that waits for it, or those of a wait that is closed. -/
structure Gated (plan : ReadPlan) (life : ReaderLife Storage Source) : Prop where
  claimed : ∃ cursor, life.reader.shared.cursor = some cursor ∧ cursor.range = plan.range ∧
    claimedKeys life.log = Int.range plan.range.start cursor.next
  conserved : (claimedKeys life.log : Multiset Int) =
    closedKeys life.log + life.reader.total waitedAt
  unclaimed : ∀ key, key ∉ claimedKeys life.log → sights key life.log = []
  waiting : ∀ worker position key wait, life.reader.position? worker = some position →
    waitsAt position = some (key, wait) → plan.Leads key (sights key life.log) wait
  closed : ∀ key ∈ closedKeys life.log, plan.Leads key (sights key life.log) .closed

theorem Gated.nodup_parts (gated : Gated plan life) :
    ((closedKeys life.log : Multiset Int) + life.reader.total waitedAt).Nodup := by
  obtain ⟨cursor, _, _, claimed⟩ := gated.claimed
  rw [← gated.conserved, claimed, Multiset.coe_nodup]
  exact nodup_range _ _

theorem mem_total_waitedAt (position : Position ReaderTask) (key : Int) (wait : Wait)
    (found : life.reader.position? worker = some position)
    (waits : waitsAt position = some (key, wait)) : key ∈ life.reader.total waitedAt :=
  (Pool.mem_total_iff life.reader key).mpr
    ⟨worker, position, found, (mem_waitedAt_iff position key).mpr ⟨wait, waits⟩⟩

theorem Gated.mem_claimed_iff (gated : Gated plan life) (key : Int) :
    key ∈ claimedKeys life.log ↔
      key ∈ closedKeys life.log ∨ key ∈ life.reader.total waitedAt := by
  rw [← Multiset.mem_coe, gated.conserved, Multiset.mem_add, Multiset.mem_coe]

/-- A key that a worker waits for belongs to the range. -/
theorem Gated.inside_of_waits (gated : Gated plan life) (position : Position ReaderTask)
    (key : Int) (wait : Wait) (found : life.reader.position? worker = some position)
    (waits : waitsAt position = some (key, wait)) :
    plan.range.start ≤ key ∧ key ≤ plan.range.last := by
  obtain ⟨cursor, _, ranged, claimed⟩ := gated.claimed
  have member := (gated.mem_claimed_iff key).mpr
    (Or.inr (mem_total_waitedAt position key wait found waits))
  rw [claimed, Int.mem_range_iff] at member
  have bounded := cursor.next_le_limit
  rw [ranged] at bounded
  exact ⟨member.1, Int.le_sub_one_of_lt (lt_of_lt_of_le member.2 bounded)⟩

/-- A key that a worker waits for is waited for by no other. -/
theorem Gated.eq_of_waits (gated : Gated plan life) (first second : Nat)
    (firstPosition secondPosition : Position ReaderTask) (key : Int) (firstWait secondWait : Wait)
    (firstFound : life.reader.position? first = some firstPosition)
    (secondFound : life.reader.position? second = some secondPosition)
    (firstWaits : waitsAt firstPosition = some (key, firstWait))
    (secondWaits : waitsAt secondPosition = some (key, secondWait)) : first = second :=
  Pool.eq_of_mem_held waitedAt life.reader (Multiset.nodup_add.mp gated.nodup_parts).2.1
    first second _ _ key firstFound secondFound
    ((mem_waitedAt_iff _ key).mpr ⟨firstWait, firstWaits⟩)
    ((mem_waitedAt_iff _ key).mpr ⟨secondWait, secondWaits⟩)

/-- A key that a worker waits for is not closed. -/
theorem Gated.not_mem_closed (gated : Gated plan life) (position : Position ReaderTask) (key : Int)
    (wait : Wait) (found : life.reader.position? worker = some position)
    (waits : waitsAt position = some (key, wait)) : key ∉ closedKeys life.log := fun closed =>
  Multiset.disjoint_left.mp (Multiset.nodup_add.mp gated.nodup_parts).2.2
    (Multiset.mem_coe.mpr closed) (mem_total_waitedAt position key wait found waits)

theorem waitedAt_of_none (position : Position ReaderTask) (idle : waitsAt position = none) :
    waitedAt position = 0 := by rw [waitedAt, idle]; rfl

theorem waitedAt_of_some (position : Position ReaderTask) (key : Int) (wait : Wait)
    (waits : waitsAt position = some (key, wait)) : waitedAt position = {key} := by
  rw [waitedAt, waits]; rfl

/-- A step that shows nothing keeps to the gate. -/
theorem Gated.silent (gated : Gated plan life) (before after : Position ReaderTask)
    (moved : Moved life.reader next.reader worker before after)
    (idle : waitsAt before = none) (still : waitsAt after = none) (log : next.log = life.log)
    (cursor : next.reader.shared.cursor = life.reader.shared.cursor) : Gated plan next where
  claimed := by rw [log, cursor]; exact gated.claimed
  conserved := by
    have kept := moved.conserved _ _ 0 0 gated.conserved
      (by rw [waitedAt_of_none before idle, waitedAt_of_none after still])
    rwa [add_zero, add_zero, ← log] at kept
  unclaimed := by rw [log]; exact gated.unclaimed
  waiting other position key wait found waits := by
    rw [log]
    by_cases same : worker = other
    · subst same
      cases moved.arrived.symm.trans found
      cases still.symm.trans waits
    · rw [moved.stayed other same] at found
      exact gated.waiting other position key wait found waits
  closed := by rw [log]; exact gated.closed

/-- A claim keeps to the gate. -/
theorem Gated.claim (gated : Gated plan life) (before after : Position ReaderTask)
    (cursor : Cursor) (moved : Moved life.reader next.reader worker before after)
    (idle : waitsAt before = none) (looking : waitsAt after = some (cursor.next, .looking))
    (known : life.reader.shared.cursor = some cursor) (left : cursor.next < cursor.range.limit)
    (log : next.log = life.log ++ [⟨worker, cursor.next, .claimed⟩])
    (claim : next.reader.shared.cursor = some cursor.claim.2) : Gated plan next := by
  obtain ⟨sameCursor, sameKnown, ranged, claimed⟩ := gated.claimed
  cases known.symm.trans sameKnown
  have fresh : cursor.next ∉ claimedKeys life.log := by
    rw [claimed, Int.mem_range_iff]
    exact fun both => lt_irrefl _ both.2
  have others : ∀ key ∈ claimedKeys life.log, sights key next.log = sights key life.log := by
    intro key member
    have different : cursor.next ≠ key := fun same => fresh (same ▸ member)
    rw [log, sights_snoc, if_neg different, List.append_nil]
  have claims : claimedKeys next.log = claimedKeys life.log ++ [cursor.next] := by
    rw [log, claimedKeys_snoc, if_pos rfl]
  have closes : closedKeys next.log = closedKeys life.log := by
    rw [log, closedKeys_snoc]
    exact List.append_nil _
  refine ⟨⟨cursor.claim.2, claim, cursor.claim_range.trans ranged, ?_⟩, ?_, ?_, ?_, ?_⟩
  · rw [claims, claimed, ← ranged, cursor.range_claim left]
  · have kept := moved.conserved _ _ {cursor.next} 0 gated.conserved (by
      rw [waitedAt_of_none before idle, waitedAt_of_some after _ _ looking, add_comm])
    rw [claims, closes, ← Multiset.coe_add]
    rwa [add_zero] at kept
  · intro key absent
    rw [claims, List.mem_append, not_or, List.mem_singleton] at absent
    rw [log, sights_snoc, if_neg (Ne.symm absent.2), List.append_nil]
    exact gated.unclaimed key absent.1
  · intro other position key wait found waits
    by_cases same : worker = other
    · subst same
      cases moved.arrived.symm.trans found
      cases looking.symm.trans waits
      rw [log, sights_snoc, if_pos rfl, gated.unclaimed _ fresh]
      exact ReadPlan.leads_nil.snoc .claimed rfl
    · rw [moved.stayed other same] at found
      have member := (gated.mem_claimed_iff key).mpr
        (Or.inr (mem_total_waitedAt position key wait found waits))
      rw [others key member]
      exact gated.waiting other position key wait found waits
  · intro key member
    rw [closes] at member
    rw [others key ((gated.mem_claimed_iff key).mpr (Or.inl member))]
    exact gated.closed key member

/-- A sight keeps to the gate. -/
theorem Gated.sight (gated : Gated plan life) (before after : Position ReaderTask)
    (key : Int) (sight : Sight) (wait later : Wait)
    (moved : Moved life.reader next.reader worker before after)
    (waited : waitsAt before = some (key, wait))
    (goes : plan.waitAfter key wait sight = some later) (unclaimed : sight ≠ .claimed)
    (waits : waitsAt after = if later = .closed then none else some (key, later))
    (log : next.log = life.log ++ [⟨worker, key, sight⟩])
    (cursor : next.reader.shared.cursor = life.reader.shared.cursor) : Gated plan next := by
  have claims : claimedKeys next.log = claimedKeys life.log := by
    rw [log, claimedKeys_snoc, if_neg unclaimed, List.append_nil]
  have leads : plan.Leads key (sights key next.log) later := by
    rw [log, sights_snoc, if_pos rfl]
    exact (gated.waiting worker before key wait moved.position_eq waited).snoc sight goes
  -- Only this worker waits for the key, and nobody has closed it, so no other wait has the sight.
  have others : ∀ other ≠ key, sights other next.log = sights other life.log := by
    intro other different
    rw [log, sights_snoc, if_neg (Ne.symm different), List.append_nil]
  have closes : closedKeys next.log =
      closedKeys life.log ++ if later = .closed then [key] else [] := by
    rw [log, closedKeys_snoc]
    exact congrArg _ (if_congr (ReadPlan.closing_iff wait later sight goes) rfl rfl)
  refine ⟨?_, ?_, ?_, ?_, ?_⟩
  · rw [claims, cursor]
    exact gated.claimed
  · have kept := moved.conserved _ _ 0 (if later = .closed then [key] else [] : List Int)
      gated.conserved (by
        rw [waitedAt_of_some before _ _ waited]
        split at waits
        · rename_i ended
          rw [if_pos ended, waitedAt_of_none after waits]
          rfl
        · rename_i going
          rw [if_neg going, waitedAt_of_some after _ _ waits]
          rfl)
    rw [claims, closes, ← Multiset.coe_add]
    rwa [add_zero] at kept
  · intro other absent
    rw [claims] at absent
    have waitedFor := mem_total_waitedAt before key wait moved.position_eq waited
    have different : other ≠ key := fun same =>
      absent (same ▸ (gated.mem_claimed_iff key).mpr (Or.inr waitedFor))
    rw [others other different]
    exact gated.unclaimed other absent
  · intro other position otherKey otherWait found otherWaits
    by_cases same : worker = other
    · subst same
      cases moved.arrived.symm.trans found
      rw [waits] at otherWaits
      split at otherWaits
      · cases otherWaits
      · cases otherWaits
        exact leads
    · rw [moved.stayed other same] at found
      have different : otherKey ≠ key := fun sameKey => same (gated.eq_of_waits worker other before
        position key wait otherWait moved.position_eq found waited (sameKey ▸ otherWaits))
      rw [others otherKey different]
      exact gated.waiting other position otherKey otherWait found otherWaits
  · intro other member
    rw [closes, List.mem_append] at member
    rcases member with closed | new
    · have different : other ≠ key := fun same =>
        gated.not_mem_closed before key wait moved.position_eq waited (same ▸ closed)
      rw [others other different]
      exact gated.closed other closed
    · split at new
      · rename_i ended
        cases List.mem_singleton.mp new
        exact ended ▸ leads
      · cases new

/-- Every observed step keeps to the gate. -/
theorem Gated.observed (gated : Gated plan life) (observed : Observed plan life next worker) :
    Gated plan next := by
  cases observed with
  | silent before after moved idle still log cursor =>
    exact gated.silent before after moved idle still log cursor
  | claimed before after cursor moved idle looking known left log claim =>
    exact gated.claim before after cursor moved idle looking known left log claim
  | saw before after key sight wait later moved waited goes unclaimed waits log cursor =>
    exact gated.sight before after key sight wait later moved waited goes unclaimed waits log cursor

end ReaderLife

end LoadVerifier
