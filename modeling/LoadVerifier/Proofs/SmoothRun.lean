/-
This file follows a run to which nothing unexpected happens: every key of its range has a record,
and its store breaks no call. No worker of the writer crashes then, and a worker of the reader
crashes only when the seed and its number give it no stream to draw from. A run in which nobody
crashes does not fail, and it can always come to its report.
-/
import LoadVerifier.Proofs.RunEnd

namespace LoadVerifier

variable {Storage : Type} {regular : Storage → Prop} {options : Options}

/-- Nothing unexpected happens, whether the run is interrupted or not. -/
def Conduct.smooth (options : Options) (regular : Storage → Prop) : Conduct Storage where
  regular := regular
  writing life := life.Smooth options.writePlan
  reading audit := ReaderAudit.Smooth options.readPlan audit
  mayInterrupt := True

/-- Nothing unexpected happens, and nobody asks a pool to stop but its own workers. -/
def Conduct.straight (options : Options) (regular : Storage → Prop) : Conduct Storage where
  regular := regular
  writing life := life.Smooth options.writePlan ∧ life.writer.shared.stopRequested = false
  reading audit := ReaderAudit.Smooth options.readPlan audit ∧ ReaderAudit.StopsItself audit
  mayInterrupt := False

section Kept

variable [Store Storage] (unbreakable : Unbreakable Storage regular)
  (generates : options.Generates)

include unbreakable generates

theorem Conduct.smooth_kept : (Conduct.smooth options regular).Kept options where
  writer_starts threads writer store starts _ :=
    WriterLife.smooth_of_starts threads writer starts store
  writer_works _ _ _ smooth isRegular worked :=
    WriterLife.Smooth.work smooth unbreakable generates isRegular worked
  writer_stops _ _ smooth := WriterLife.Smooth.stop smooth
  writer_outside _ store smooth := WriterLife.Smooth.outside smooth store
  writer_faithful _ smooth := smooth.faithful
  writer_counted _ smooth := smooth.counted
  writer_staffed _ smooth := smooth.some_worker
  reader_starts threads reader world starts _ :=
    ReaderAudit.smooth_of_starts threads reader starts world
  reader_works _ _ _ smooth isRegular worked :=
    ReaderAudit.Smooth.work smooth unbreakable generates isRegular worked
  reader_stops _ _ smooth := ReaderAudit.Smooth.stop smooth
  reader_outside _ world smooth := ReaderAudit.Smooth.outside smooth world
  reader_kept _ smooth := smooth.kept

theorem Conduct.straight_kept : (Conduct.straight options regular).Kept options where
  writer_starts threads writer store starts _ := by
    refine ⟨WriterLife.smooth_of_starts threads writer starts store, ?_⟩
    obtain ⟨_, now, rfl⟩ := WriterLife.eq_spawn_of_starts threads writer starts
    rfl
  writer_works life worker next straight isRegular worked := by
    obtain ⟨smooth, stillRegular⟩ :=
      WriterLife.Smooth.work straight.1 unbreakable generates isRegular worked
    refine ⟨⟨smooth, Bool.eq_false_iff.mpr fun stopped => ?_⟩, stillRegular⟩
    rcases (WriterLife.change_of_work life next worker worked).stopRequested_cases stopped with
      before | spoiled
    · exact Bool.noConfusion (straight.2.symm.trans before)
    · exact smooth.unspoiled spoiled
  writer_stops := False.elim
  writer_outside _ store straight := ⟨WriterLife.Smooth.outside straight.1 store, straight.2⟩
  writer_faithful _ straight := straight.1.faithful
  writer_counted _ straight := straight.1.counted
  writer_staffed _ straight := straight.1.some_worker
  reader_starts threads reader world starts _ :=
    ⟨ReaderAudit.smooth_of_starts threads reader starts world,
      ReaderAudit.stopsItself_of_starts threads reader starts world⟩
  reader_works _ _ _ straight isRegular worked := by
    obtain ⟨smooth, stillRegular⟩ :=
      ReaderAudit.Smooth.work straight.1 unbreakable generates isRegular worked
    exact ⟨⟨smooth, straight.2.work worked⟩, stillRegular⟩
  reader_stops := False.elim
  reader_outside _ world straight :=
    ⟨ReaderAudit.Smooth.outside straight.1 world, straight.2.1, straight.2.2⟩
  reader_kept _ straight := straight.1.kept

end Kept

end LoadVerifier
