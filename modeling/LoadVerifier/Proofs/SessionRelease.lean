/-
This file closes a store with sessions. While nobody else is in a call, a close takes over
everything that is registered and closes it. So everything that was ever opened is closed then,
except what was given up because a statement that prepares it was refused. The sessions of all
callers are closed, too: whoever calls next gets a new connection, and the next close closes it.

What was given up is nobody's: it was never registered, so no close finds it, and it stays open
unless it broke.
-/
import LoadVerifier.Proofs.SessionRenewal
import LoadVerifier.Proofs.SessionTracking

namespace LoadVerifier

namespace SessionLife

section Steps

variable {Server : Type} [Database Server] {sound : Server → Prop} {given : Server → Nat → Prop}
  {table : Table} {synchronousCommit : Bool} {life : SessionLife Server}

/-! ### Closing -/

/-- Nobody is in a call. -/
def Idle (life : SessionLife Server) : Prop := ∀ caller, (life.stages caller).isEnded = true

/-- Only one caller takes steps, in the call that it is in. -/
def Event.OnlyWork (caller : Caller) : Event Server → Prop
  | .work who => who = caller
  | .outside _ => True
  | .call .. | .close _ => False

/-- One caller closes the store and nobody else is in a call. Once it has taken over what is
registered, nothing is registered any more. -/
structure ClosesAlone (caller : Caller) (life : SessionLife Server) : Prop where
  others : ∀ who, who ≠ caller → (life.stages who).isEnded = true
  takesOver : life.stages caller = .release ∨ life.store.opened = [] ∧
    ((∃ connections, life.stages caller = .close connections) ∨
      life.stages caller = .ended (.ok none))

theorem ClosesAlone.act (laws : ClosingLaws sound given)
    (owned : Owned sound given table synchronousCommit life) {caller : Caller}
    (alone : life.ClosesAlone caller) (busy : (life.stages caller).isEnded = false) :
    (life.act caller (life.stages caller)).ClosesAlone caller where
  others who other := by
    obtain ⟨stage, stages⟩ := life.stages_act caller (life.stages caller)
    rw [stages, Function.update_of_ne other]
    exact alone.others who other
  takesOver := by
    rcases alone.takesOver with here | ⟨nothing, ⟨connections, here⟩ | ended⟩
    · rw [here]
      exact .inr ⟨rfl, .inl ⟨_, stages_advance_self ..⟩⟩
    · rw [here]
      have fits := owned.fits caller
      rw [here] at fits
      cases connections with
      | nil => exact .inr ⟨nothing, .inr (stages_advance_self ..)⟩
      | cons connection rest =>
        obtain ⟨owner, opened⟩ := fits connection List.mem_cons_self
        obtain ⟨after, closes, -⟩ := laws.close life.store.server connection owned.sound
          (owned.given owner connection opened)
        rw [SessionLife.act, SessionLife.ask, Demand.ask, closes]
        exact .inr ⟨nothing, .inl ⟨rest, stages_advance_self ..⟩⟩
    · rw [ended] at busy
      cases busy

theorem ClosesAlone.step (laws : ClosingLaws sound given)
    (owned : Owned sound given table synchronousCommit life) {caller : Caller}
    (alone : life.ClosesAlone caller) (event : Event Server) (next : SessionLife Server)
    (only : event.OnlyWork caller) (stepped : life.step event = some next) :
    next.ClosesAlone caller := by
  rcases step_cases stepped with ⟨who, stage, begun, -, -⟩ | ⟨who, rfl, busy, rfl⟩ |
    ⟨change, rfl, rfl⟩
  · rcases begun with ⟨call, rfl, -⟩ | ⟨rfl, -⟩
    · exact only.elim
    · exact only.elim
  · obtain rfl : who = caller := only
    exact alone.act laws owned busy
  · exact ⟨alone.others, alone.takesOver⟩

omit [Database Server] in
/-- A close that is at its end was granted all it asked for. -/
theorem ClosesAlone.settled {caller : Caller} (alone : life.ClosesAlone caller)
    (ended : (life.stages caller).isEnded = true) :
    life.Idle ∧ life.store.opened = [] ∧ life.stages caller = .ended (.ok none) := by
  refine ⟨fun who => ?_, ?_⟩
  · by_cases same : who = caller
    · exact same ▸ ended
    · exact alone.others who same
  · rcases alone.takesOver with here | ⟨nothing, ⟨connections, here⟩ | here⟩
    · rw [here] at ended
      cases ended
    · rw [here] at ended
      cases ended
    · exact ⟨nothing, here⟩

/-- What one caller closes alone, everything else being in order, stays in order up to the end. -/
theorem closesAlone_of_replay (laws : ClosingLaws sound given) {final : SessionLife Server}
    (owned : Owned sound given table synchronousCommit life) (tracked : life.Tracked)
    (idle : life.Idle) (caller : Caller) (during : List (Event Server))
    (allowed : ∀ event ∈ during, event.Allowed sound given)
    (only : ∀ event ∈ during, event.OnlyWork caller)
    (ran : replay SessionLife.step life (.close caller :: during) = some final) :
    Owned sound given table synchronousCommit final ∧ final.Tracked ∧ final.ClosesAlone caller := by
  rw [replay, SessionLife.step, idle caller, if_pos rfl, Option.bind_some] at ran
  refine replay_invariant_of_allowed
    (fun event => event.Allowed sound given ∧ event.OnlyWork caller)
    (fun life => Owned sound given table synchronousCommit life ∧ life.Tracked ∧
      life.ClosesAlone caller)
    (fun _ event next permitted before stepped => ?_)
    _ final during (fun event member => ⟨allowed event member, only event member⟩)
    ⟨owned.moveOn caller .release trivial, tracked.begun (idle caller) .release, ?_⟩ ran
  · obtain ⟨owned, tracked, alone⟩ := before
    exact ⟨owned.step laws.toConnectionLaws event next permitted.1 stepped,
      tracked.step laws owned event next permitted.1 stepped,
      alone.step laws owned event next permitted.2 stepped⟩
  · refine ⟨fun who other => ?_, .inl (stages_advance_self ..)⟩
    rw [stages_advance_of_ne _ other]
    exact idle who

/-- When nobody is in a call and nothing is registered, what is kept is closed. -/
theorem Kept.closed {connection : Nat} (kept : life.Kept connection) (idle : life.Idle)
    (nothing : life.store.opened = []) :
    Database.isClosed life.store.server connection = true := by
  rcases kept with closed | registered | ⟨who, member⟩
  · exact closed
  · rw [nothing] at registered
    cases registered
  · rw [CallStage.closes_of_isEnded (idle who)] at member
    cases member

/-- When nobody is in a call and nothing is registered, nothing is left to use or to close. -/
theorem Tracked.closed (tracked : life.Tracked) (idle : life.Idle)
    (nothing : life.store.opened = []) :
    (∀ who connection, Opened life.ledger who connection →
      Database.isClosed life.store.server connection = true ∨
        SettingRefused life.ledger who connection) ∧
      ∀ who, life.store.liveSession? who = none := by
  refine ⟨fun who connection opened => ?_, fun who => ?_⟩
  · rcases tracked.opened who connection opened with kept | preparing | refused
    · exact .inl (kept.closed idle nothing)
    · rw [CallStage.preparing?_of_isEnded (idle who)] at preparing
      cases preparing
    · exact .inr refused
  · rw [SessionStore.liveSession?, Option.filter_eq_none_iff]
    intro connection has
    rw [(tracked.sessions who connection has).closed idle nothing]
    exact Bool.noConfusion

/-- A caller without a usable connection gets one that was never opened, and it is registered. -/
theorem connection_of_not_live (laws : ConnectionLaws sound given)
    {store next : SessionStore Server} (isSound : sound store.server) {caller : Caller}
    (live : store.liveSession? caller = none) (connection : Nat)
    (connects : store.connection caller = (.ok connection, next)) :
    ¬given store.server connection ∧ sound next.server ∧ given next.server connection ∧
      next.opened = store.opened ++ [connection] := by
  rw [SessionStore.connection, live] at connects
  cases opens : Database.connect store.server store.dsn true with
  | mk answer first =>
    dsimp only at connects
    rw [opens] at connects
    cases answer with
    | error failure => cases connects
    | ok new =>
      obtain ⟨unknown, isGiven, -⟩ := laws.fresh _ _ _ _ _ isSound opens
      have firstSound := (laws.connect store.server store.dsn true isSound).sound
      rw [opens] at firstSound
      have later := laws.prepare firstSound new isGiven store.synchronousCommit
      dsimp only at connects
      cases prepares : SessionStore.prepare first new store.synchronousCommit with
      | mk prepared second =>
        rw [prepares] at connects later
        cases prepared with
        | error failure => cases connects
        | ok _ =>
          cases connects
          exact ⟨unknown, later.sound, later.given _ isGiven, rfl⟩

/-- After calls of any callers in any order, with whatever is refused and broken, the store is
closed while nobody is in a call. This comes to an end, and is the close of the store when nothing
happens in between. Then every connection that was ever opened is closed, unless a statement that
prepares it was refused; and who calls next gets a new connection, which the next close closes. -/
theorem close_releases (laws : ClosingLaws sound given) {store : SessionStore Server}
    {final : SessionLife Server} (isSound : sound store.server) (sessions : store.sessions = [])
    (opened : store.opened = []) (before during : List (Event Server))
    (allowed : ∀ event ∈ before ++ during, event.Allowed sound given)
    (ranBefore : replay SessionLife.step { store } before = some life) (idle : life.Idle)
    (caller : Caller) (only : ∀ event ∈ during, event.OnlyWork caller)
    (ranDuring : replay SessionLife.step life (.close caller :: during) = some final)
    (ended : (final.stages caller).isEnded = true) :
    life.Uninterrupted caller ∧ final.stages caller = .ended (.ok none) ∧
      (∀ who connection, Opened final.ledger who connection →
        Database.isClosed final.store.server connection = true ∨
          SettingRefused final.ledger who connection) ∧
      ∀ who connection next, final.store.connection who = (.ok connection, next) →
        (∀ other, ¬Opened final.ledger other connection) ∧ next.close.1 = .ok () ∧
          Database.isClosed next.close.2.server connection = true := by
  obtain ⟨allowedBefore, allowedDuring⟩ := List.forall_mem_append.mp allowed
  obtain ⟨owned, tracked⟩ :=
    tracked_of_replay laws isSound sessions opened before allowedBefore ranBefore
  obtain ⟨owned, tracked, alone⟩ := closesAlone_of_replay laws owned tracked idle caller during
    allowedDuring only ranDuring
  obtain ⟨idleAgain, nothing, granted⟩ := alone.settled ended
  obtain ⟨allClosed, noneLive⟩ := tracked.closed idleAgain nothing
  refine ⟨life.uninterrupted caller (idle caller), granted, allClosed,
    fun who connection next connects => ?_⟩
  obtain ⟨unknown, nextSound, isGiven, registered⟩ := connection_of_not_live
    laws.toConnectionLaws owned.sound (noneLive who) connection connects
  rw [nothing, List.nil_append] at registered
  obtain ⟨after, closes, -, isClosed⟩ := laws.closeAll nextSound [connection]
    (List.forall_mem_singleton.mpr isGiven)
  refine ⟨fun other opened => unknown (owned.given other connection opened), ?_, ?_⟩
  · rw [SessionStore.close, registered, closes]
  · rw [SessionStore.close, registered, closes]
    exact isClosed connection (List.mem_singleton_self _)

/-- Who takes part in an event. -/
def Event.caller? : Event Server → Option Caller
  | .call caller _ | .close caller | .work caller => some caller
  | .outside _ => none

/-- An event sets the stage of who takes part in it, and no other. -/
theorem stages_step (event : Event Server) (next : SessionLife Server)
    (stepped : life.step event = some next) :
    next.stages = life.stages ∨ ∃ caller stage, event.caller? = some caller ∧
      next.stages = Function.update life.stages caller stage := by
  rcases step_cases stepped with ⟨caller, stage, begun, -, rfl⟩ | ⟨caller, rfl, -, rfl⟩ |
    ⟨change, rfl, rfl⟩
  · rcases begun with ⟨call, rfl, -⟩ | ⟨rfl, -⟩
    · exact .inr ⟨caller, stage, rfl, rfl⟩
    · exact .inr ⟨caller, stage, rfl, rfl⟩
  · obtain ⟨stage, stages⟩ := life.stages_act caller (life.stages caller)
    exact .inr ⟨caller, stage, rfl, stages⟩
  · exact .inl rfl

/-- Who takes no part in a schedule stays where it is. -/
theorem stages_of_replay {final : SessionLife Server} (who : Caller)
    (schedule : List (Event Server)) (absent : ∀ event ∈ schedule, event.caller? ≠ some who)
    (ran : replay SessionLife.step life schedule = some final) :
    final.stages who = life.stages who := by
  refine replay_invariant_of_allowed (fun event => event.caller? ≠ some who)
    (fun later => later.stages who = life.stages who)
    (fun later event next other same stepped => ?_) life final schedule absent rfl ran
  rcases later.stages_step event next stepped with unchanged | ⟨caller, stage, his, stages⟩
  · rw [unchanged, same]
  · have apart : who ≠ caller := fun equal => other (his.trans (congrArg some equal.symm))
    rw [stages, Function.update_of_ne apart, same]

end Steps

/-- Who opened which connection. -/
def openedOf (entry : Caller × Deed) : Option (Caller × Nat) :=
  entry.2.opens?.map fun connection => (entry.1, connection)

theorem opened_of_mem {ledger : List (Caller × Deed)} {caller : Caller} {connection : Nat}
    (member : (caller, connection) ∈ ledger.filterMap openedOf) :
    Opened ledger caller connection := by
  obtain ⟨⟨who, deed⟩, among, equal⟩ := List.mem_filterMap.mp member
  obtain ⟨opened, opens, same⟩ := Option.map_eq_some_iff.mp equal
  cases same
  obtain rfl : deed = .connects (.ok connection) := (Deed.opens?_eq_some_iff _ _).mp opens
  exact among

theorem close_releases_after_closed_in_between :
    ∃ life final, replay SessionLife.step { store := newSessions }
        (closedInBetween ⟨.writer, 0⟩ ⟨.reader, 0⟩) = some life ∧
      replay SessionLife.step life (.close ⟨.main, 0⟩ :: List.replicate 3 (.work ⟨.main, 0⟩)) =
        some final ∧
      Opened final.ledger ⟨.reader, 0⟩ 2 ∧ Opened final.ledger ⟨.writer, 0⟩ 3 ∧
      ∀ who connection, Opened final.ledger who connection →
        Database.isClosed final.store.server connection = true ∨
          SettingRefused final.ledger who connection := by
  have known : ((replay SessionLife.step { store := newSessions }
      (closedInBetween ⟨.writer, 0⟩ ⟨.reader, 0⟩)).bind fun life =>
        (replay SessionLife.step life
          (.close ⟨.main, 0⟩ :: List.replicate 3 (.work ⟨.main, 0⟩))).map fun final =>
            ((life.stages ⟨.writer, 0⟩).isEnded, (life.stages ⟨.reader, 0⟩).isEnded,
              (final.stages ⟨.main, 0⟩).isEnded, final.ledger.filterMap openedOf)) =
      some (true, true, true, [(⟨.writer, 0⟩, 1), (⟨.reader, 0⟩, 2), (⟨.writer, 0⟩, 3)]) := by
    decide +kernel
  obtain ⟨life, ranBefore, continued⟩ := Option.bind_eq_some_iff.mp known
  obtain ⟨final, ranDuring, summary⟩ := Option.map_eq_some_iff.mp continued
  simp only [Prod.mk.injEq] at summary
  obtain ⟨writer, reader, ended, openings⟩ := summary
  have idle : life.Idle := by
    intro who
    by_cases isWriter : who = ⟨.writer, 0⟩
    · exact isWriter ▸ writer
    · by_cases isReader : who = ⟨.reader, 0⟩
      · exact isReader ▸ reader
      · rw [stages_of_replay who _ ?_ ranBefore]
        · rfl
        · simp [closedInBetween, Event.caller?, Ne.symm isWriter, Ne.symm isReader]
  have allowed : ∀ event ∈ closedInBetween ⟨.writer, 0⟩ ⟨.reader, 0⟩ ++
      List.replicate 3 (.work ⟨.main, 0⟩),
      event.Allowed ScriptedDatabase.Closing ScriptedDatabase.Given := by
    refine List.forall_mem_append.mpr ⟨allowed_closedInBetween _ _, fun event member => ?_⟩
    cases List.eq_of_mem_replicate member
    trivial
  have only : ∀ event ∈ (List.replicate 3 (.work ⟨.main, 0⟩) : List (Event ScriptedDatabase)),
      event.OnlyWork ⟨.main, 0⟩ := by
    intro event member
    cases List.eq_of_mem_replicate member
    rfl
  have closing : newSessions.server.Closing := ⟨List.forall_mem_nil _, List.forall_mem_nil _⟩
  refine ⟨life, final, ranBefore, ranDuring, opened_of_mem ?_, opened_of_mem ?_,
    (close_releases ScriptedDatabase.closingLaws closing rfl rfl _ _ allowed ranBefore idle _ only
      ranDuring ended).2.2.1⟩
  · rw [openings]
    decide
  · rw [openings]
    decide

/-- A store that nobody has called yet, on a database that refuses the first statement. -/
def refusedSessions : SessionStore ScriptedDatabase :=
  { newSessions with server := { faults := [⟨.execute, 1, false, "refused"⟩] } }

theorem refused_setting_stays_open :
    ∃ life, replay SessionLife.step { store := refusedSessions }
        (.call ⟨.writer, 0⟩ (.write 1 (ColumnMap.single 0 [97])) ::
          List.replicate 3 (.work ⟨.writer, 0⟩)) = some life ∧
      life.Idle ∧ life.store.close.1 = .ok () ∧ Opened life.ledger ⟨.writer, 0⟩ 1 ∧
        Database.isClosed life.store.close.2.server 1 = false := by
  have known : (replay SessionLife.step { store := refusedSessions }
      (.call ⟨.writer, 0⟩ (.write 1 (ColumnMap.single 0 [97])) ::
        List.replicate 3 (.work ⟨.writer, 0⟩))).map (fun life =>
          ((life.stages ⟨.writer, 0⟩).isEnded, life.store.opened,
            life.ledger.filterMap openedOf, Database.isClosed life.store.close.2.server 1)) =
      some (true, [], [(⟨.writer, 0⟩, 1)], false) := by
    decide +kernel
  obtain ⟨life, ran, summary⟩ := Option.map_eq_some_iff.mp known
  simp only [Prod.mk.injEq] at summary
  obtain ⟨ended, nothing, openings, stillOpen⟩ := summary
  refine ⟨life, ran, fun who => ?_, ?_, opened_of_mem ?_, stillOpen⟩
  · by_cases same : who = ⟨.writer, 0⟩
    · exact same ▸ ended
    · rw [stages_of_replay who _ ?_ ran]
      · rfl
      · simp [Event.caller?, Ne.symm same]
  · rw [SessionStore.close, nothing]
    rfl
  · rw [openings]
    decide

end SessionLife

end LoadVerifier
