import InitDaemon.Supervisor

/-!
# What the process table leaves alone

Whatever is done with the process table, the clock does not go back, the journal only grows, and the
entries that are new are none of the scheduler's. A ticket that was given stays settled
or waited for, and it is not given again.
-/

namespace InitDaemon

open Std

/-- An entry that tells nothing about the start of units. -/
def Entry.IsPlain : Entry → Prop
  | .requested .. | .began _ | .acted .. | .resolved .. => False
  | _ => True

namespace World

/-- What becomes of a world when no unit's start goes on. -/
structure Grows {σ : Type} (w w' : World σ) : Prop where
  now_le : w.now ≤ w'.now
  journal : ∃ new, w'.journal = new ++ w.journal ∧ ∀ r ∈ new, r.entry.IsPlain

variable {σ : Type} {w w' w'' : World σ}

theorem Grows.refl (w : World σ) : w.Grows w :=
  ⟨Nat.le_refl _, [], rfl, by simp⟩

theorem Grows.trans (h : w.Grows w') (h' : w'.Grows w'') : w.Grows w'' := by
  obtain ⟨new, hnew, hplain⟩ := h.journal
  obtain ⟨new', hnew', hplain'⟩ := h'.journal
  refine ⟨Nat.le_trans h.now_le h'.now_le, new' ++ new, by rw [hnew', hnew, List.append_assoc], ?_⟩
  intro r hr
  exact (List.mem_append.mp hr).elim (hplain' r) (hplain r)

theorem Grows.of_eq {α : Type} {a : α} {p : α × World σ} (h : w.Grows p.2) (heq : p = (a, w')) :
    w.Grows w' := by
  rwa [heq] at h

theorem grows_of_eq (hnow : w.now ≤ w'.now) (hjournal : w'.journal = w.journal) : w.Grows w' :=
  ⟨hnow, [], hjournal, by simp⟩

theorem grows_note (w : World σ) (e : Entry) (he : e.IsPlain) : w.Grows (w.note e) :=
  ⟨Nat.le_refl _, [⟨w.now, e⟩], rfl, by simpa using he⟩

theorem grows_machine (w : World σ) (machine : σ) : w.Grows { w with machine := machine } :=
  grows_of_eq (Nat.le_refl _) rfl

theorem grows_machine_note (w : World σ) (machine : σ) (e : Entry) (he : e.IsPlain) :
    w.Grows ({ w with machine := machine }.note e) :=
  (w.grows_machine machine).trans (grows_note _ e he)

theorem grows_say (w : World σ) (n : Notice) : w.Grows (w.say n) :=
  w.grows_note (.notice n) trivial

theorem grows_foldl_say (notices : List Notice) (w : World σ) : w.Grows (notices.foldl say w) := by
  induction notices generalizing w with
  | nil => exact .refl w
  | cons n notices ih => exact (w.grows_say n).trans (ih _)

variable [Platform σ]

theorem grows_spawn (argv env : List String) (w : World σ) : w.Grows (w.spawn argv env).2 := by
  simp only [spawn]
  split
  next pid _ => exact w.grows_machine_note _ (.spawned pid argv) trivial
  next => exact w.grows_machine_note _ (.spawnFailed argv) trivial
  next => exact w.grows_machine _

theorem grows_tryWaitAny (w : World σ) : w.Grows w.tryWaitAny.2 :=
  grows_of_eq (Nat.le_refl _) rfl

theorem grows_waitBlocking (pid : Pid) (suspended : Bool) (w : World σ) :
    w.Grows (w.waitBlocking pid suspended).2 := by
  have hnoted := w.grows_note (.waitedBlocking pid suspended) trivial
  simp only [waitBlocking]
  split
  · exact hnoted.trans (grows_of_eq (Nat.le_refl _) rfl)
  · exact hnoted.trans (grows_of_eq (Nat.le_max_left ..) rfl)

theorem grows_signalAll (signal : ShutdownSignal) (w : World σ) :
    w.Grows (w.signalAll signal).2 :=
  w.grows_machine_note _ (.signalledAll signal) trivial

theorem grows_host (step : HostStep) (w : World σ) : w.Grows (w.host step).2 := by
  simp only [host]
  exact (w.grows_machine_note _ (.hosted step) trivial).trans (grows_foldl_say _ _)

theorem grows_terminateAll (state : PowerState) (w : World σ) : w.Grows (w.terminateAll state).2 :=
  ((w.grows_say _).trans (grows_say _ _)).trans (grows_signalAll _ _)

theorem grows_killAll (w : World σ) : w.Grows w.killAll :=
  (w.grows_say _).trans (grows_signalAll _ _)

theorem grows_lastCalls (state : PowerState) (w : World σ) : w.Grows (w.lastCalls state).2 := by
  have hsynced : w.Grows (w.say .syncing).sync :=
    (w.grows_say _).trans (grows_machine_note _ _ .synced trivial)
  exact hsynced.trans (grows_machine_note _ _ (.rebooted state) trivial)

theorem grows_powerStage (state : PowerState) (grace : Nat) (stage : PowerStage) (w : World σ) :
    w.Grows (w.powerStage state grace stage).2 := by
  cases stage with
  | terminate =>
    have hsignalled := w.grows_terminateAll state
    simp only [powerStage]
    split
    next heq => exact hsignalled.of_eq heq
    next heq =>
      exact ((hsignalled.of_eq heq).trans (grows_say _ _)).trans (grows_lastCalls _ _)
  | kill => exact w.grows_killAll
  | finish => exact w.grows_lastCalls state

theorem spawn_journal {argv env : List String} {pid : Pid}
    (h : w.spawn argv env = (.ok pid, w')) :
    w'.now = w.now ∧ w'.journal = ⟨w.now, .spawned pid argv⟩ :: w.journal := by
  rcases hcall : Platform.spawn w.now argv env w.machine with ⟨_ | pid, machine⟩
  · simp only [spawn, hcall] at h
    split at h <;> cases h
  · simp only [spawn, hcall] at h
    cases h
    exact ⟨rfl, rfl⟩

end World

namespace Supervisor

variable {σ : Type}

/-- Whether a ticket is settled or waited for. -/
def Live (s : Supervisor σ) (ticket : Ticket) : Prop :=
  ticket ∈ s.settled ∨ ∃ pid : Pid, s.waiters[pid]? = some ticket

def Bounded (s : Supervisor σ) : Prop :=
  ∀ ticket, s.Live ticket → ticket < s.nextTicket

/-- What becomes of a process table when no unit's start goes on. -/
structure Grows (s s' : Supervisor σ) : Prop where
  world : s.toWorld.Grows s'.toWorld
  config : s'.config = s.config
  graph : s'.graph = s.graph
  stopping : s.stopping = true → s'.stopping = true
  live : ∀ ticket, s.Live ticket → s'.Live ticket
  bounded : s.Bounded → s'.Bounded

variable {s s' s'' : Supervisor σ}

theorem Grows.refl (s : Supervisor σ) : s.Grows s :=
  ⟨.refl _, rfl, rfl, id, fun _ ht => ht, id⟩

theorem Grows.trans (h : s.Grows s') (h' : s'.Grows s'') : s.Grows s'' :=
  ⟨h.world.trans h'.world, h'.config.trans h.config, h'.graph.trans h.graph,
    fun hs => h'.stopping (h.stopping hs), fun t ht => h'.live t (h.live t ht),
    fun hb => h'.bounded (h.bounded hb)⟩

theorem Grows.of_eq {α : Type} {a : α} {p : α × Supervisor σ} (h : s.Grows p.2)
    (heq : p = (a, s')) : s.Grows s' := by
  rwa [heq] at h

theorem grows_inWorld {w : World σ} (h : s.toWorld.Grows w) :
    s.Grows { s with toWorld := w } :=
  ⟨h, rfl, rfl, id, fun _ ht => ht, id⟩

theorem grows_say (s : Supervisor σ) (n : Notice) : s.Grows (s.say n) :=
  grows_inWorld (World.grows_say _ n)

theorem grows_processes (s : Supervisor σ) (processes : ExtTreeMap Pid ProcessRecord) :
    s.Grows { s with processes := processes } :=
  ⟨.refl _, rfl, rfl, id, fun _ ht => ht, id⟩

theorem grows_crashes (s : Supervisor σ) (crashes : CrashTracker) :
    s.Grows { s with crashes := crashes } :=
  ⟨.refl _, rfl, rfl, id, fun _ ht => ht, id⟩

theorem live_settle {ticket : Ticket} {pid : Pid} {status : Option ExitStatus}
    (h : s.Live ticket) : (s.settle pid status).Live ticket := by
  unfold settle
  split
  next own hown =>
    rcases h with hsettled | ⟨pid', hwaits⟩
    · exact .inl (ExtTreeMap.mem_insert.mpr (.inr hsettled))
    · by_cases heq : pid = pid'
      · subst heq
        cases hown.symm.trans hwaits
        exact .inl (by simp)
      · exact .inr ⟨pid', by simpa [ExtTreeMap.getElem?_erase, heq] using hwaits⟩
  next => exact h

theorem live_of_settle {ticket : Ticket} {pid : Pid} {status : Option ExitStatus}
    (h : (s.settle pid status).Live ticket) : s.Live ticket := by
  unfold settle at h
  split at h
  next own hown =>
    rcases h with hsettled | ⟨pid', hwaits⟩
    · rcases ExtTreeMap.mem_insert.mp hsettled with heq | hsettled
      · exact .inr ⟨pid, by rw [hown, LawfulEqCmp.eq_of_compare heq]⟩
      · exact .inl hsettled
    · refine .inr ⟨pid', ?_⟩
      by_cases heq : pid = pid'
      · simp [heq] at hwaits
      · simpa [ExtTreeMap.getElem?_erase, heq] using hwaits
  next => exact h

theorem grows_settle (s : Supervisor σ) (pid : Pid) (status : Option ExitStatus) :
    s.Grows (s.settle pid status) := by
  have hnext : (s.settle pid status).nextTicket = s.nextTicket := by
    rw [settle]
    split <;> rfl
  refine ⟨?_, ?_, ?_, ?_, fun _ => live_settle, fun hb ticket ht => ?_⟩
  case refine_5 =>
    rw [hnext]
    exact hb ticket (live_of_settle ht)
  all_goals rw [settle]; split
  all_goals first | exact .refl _ | exact id

theorem settle_waiters (s : Supervisor σ) (pid : Pid) (status : Option ExitStatus) :
    (s.settle pid status).waiters[pid]? = none := by
  unfold settle
  split
  next => simp
  next hnone => exact hnone

theorem journal_settle (s : Supervisor σ) (pid : Pid) (status : Option ExitStatus) :
    (s.settle pid status).journal = s.journal := by
  rw [settle]
  split <;> rfl

theorem grows_release (s : Supervisor σ) (pid : Pid) : s.Grows (s.release pid) :=
  (s.grows_settle pid none).trans (grows_processes _ _)

theorem grows_stopRestarts (s : Supervisor σ) : s.Grows s.stopRestarts :=
  ⟨.refl _, rfl, rfl, fun _ => rfl, fun _ ht => ht, id⟩

variable [Platform σ]

theorem grows_spawn (command : String) (s : Supervisor σ) : s.Grows (s.spawn command).2 := by
  rw [spawn]
  split
  next => exact .refl s
  next program args _ =>
    have hworld := World.grows_spawn (program :: args) s.config.env s.toWorld
    split
    next heq => exact (grows_inWorld (hworld.of_eq heq)).trans (grows_processes _ _)
    next heq => exact grows_inWorld (hworld.of_eq heq)

theorem grows_launchService (unit : String) (u : UnitDef) (s : Supervisor σ) :
    s.Grows (s.launchService unit u).2 := by
  rw [launchService]
  split
  next => exact s.grows_say _
  next command _ =>
    have hspawn := s.grows_spawn command
    split
    next heq => exact ((hspawn.of_eq heq).trans (grows_processes _ _)).trans (grows_say _ _)
    next heq => exact hspawn.of_eq heq

theorem live_spawnAndAwait {command : String} {c : Completion}
    (h : s.spawnAndAwait command = (.ok c, s')) : s'.Live c.ticket := by
  rw [spawnAndAwait] at h
  split at h
  next pid _ _ => cases h; exact .inr ⟨pid, by simp⟩
  next => cases h

theorem not_settled_spawnAndAwait {command : String} {c : Completion} (hb : s.Bounded)
    (h : s.spawnAndAwait command = (.ok c, s')) : c.ticket ∉ s'.settled := by
  have hspawn := s.grows_spawn command
  rw [spawnAndAwait] at h
  split at h
  next pid t heq =>
    cases h
    have hbounded := ((hspawn.of_eq heq).trans (t.grows_settle pid none)).bounded hb
    exact fun ht => Nat.lt_irrefl _ (hbounded _ (.inl ht))
  next => cases h

theorem grows_spawnAndAwait (command : String) (s : Supervisor σ) :
    s.Grows (s.spawnAndAwait command).2 := by
  have hspawn := s.grows_spawn command
  rw [spawnAndAwait]
  split
  next pid t heq =>
    refine (hspawn.of_eq heq).trans
      ((t.grows_settle pid none).trans ⟨.refl _, rfl, rfl, id, ?_, ?_⟩)
    · rintro ticket (hsettled | ⟨pid', hwaits⟩)
      · exact .inl hsettled
      · have hne : pid ≠ pid' := by
          rintro rfl
          rw [settle_waiters] at hwaits
          cases hwaits
        exact .inr ⟨pid', by simpa [ExtTreeMap.getElem?_insert, hne] using hwaits⟩
    · rintro hb ticket (hsettled | ⟨pid', hwaits⟩)
      · exact Nat.lt_succ_of_lt (hb ticket (.inl hsettled))
      · by_cases heq : pid = pid'
        · have hnew : (t.settle pid none).nextTicket = ticket := by simpa [heq] using hwaits
          exact hnew ▸ Nat.lt_succ_self _
        · exact Nat.lt_succ_of_lt (hb ticket (.inr ⟨pid', by
            simpa [ExtTreeMap.getElem?_insert, heq] using hwaits⟩))
  next heq => exact hspawn.of_eq heq

theorem grows_relaunch (unit : String) (u : UnitDef) (s : Supervisor σ) :
    s.Grows (s.relaunch unit u) := by
  have hlaunch := s.grows_launchService unit u
  rw [relaunch]
  split
  next heq => exact hlaunch.of_eq heq
  next heq => exact (hlaunch.of_eq heq).trans (grows_say _ _)

theorem grows_crashed (unit : String) (u : UnitDef) (now : Nat) (s : Supervisor σ) :
    s.Grows (s.crashed unit u now) := by
  rw [crashed]
  split
  next => exact ((grows_crashes _ _).trans (grows_say _ _)).trans (grows_relaunch _ _ _)
  next => exact (grows_crashes _ _).trans (grows_say _ _)

theorem grows_applyRestartPolicy (unit : String) (now : Nat) (s : Supervisor σ) :
    s.Grows (s.applyRestartPolicy unit now) := by
  rw [applyRestartPolicy]
  split
  next => exact .refl s
  next u _ =>
    split
    · exact .refl s
    · split
      · exact s.grows_say _
      · exact s.grows_crashed unit u now

theorem grows_handleExit (pid : Pid) (status : ExitStatus) (now : Nat) (s : Supervisor σ) :
    s.Grows (s.handleExit pid status now) := by
  have hreaped : ∀ display, s.Grows ((({ s with processes := s.processes.erase pid }).say
      (.reaped pid status display)).settle pid (some status)) := fun display =>
    ((s.grows_processes _).trans (grows_say _ _)).trans (grows_settle _ _ _)
  rw [handleExit]
  split
  next => exact (hreaped _).trans (grows_applyRestartPolicy _ _ _)
  next => exact hreaped _

theorem grows_relaunchDue (units : List String) (s : Supervisor σ) :
    s.Grows (s.relaunchDue units) := by
  induction units generalizing s with
  | nil => exact .refl s
  | cons unit rest ih =>
    rw [relaunchDue]
    split
    next => exact ((s.grows_say _).trans (grows_relaunch _ _ _)).trans (ih _)
    next => exact ih s

theorem grows_launchDueRestarts (now : Nat) (s : Supervisor σ) :
    s.Grows (s.launchDueRestarts now) := by
  rw [launchDueRestarts]
  split
  · exact .refl s
  · exact (s.grows_crashes _).trans (grows_relaunchDue _ _)

theorem grows_tick (now : Nat) (s : Supervisor σ) : s.Grows (s.tick now).2 := by
  have hlaunched := s.grows_launchDueRestarts now
  have hwaited := (s.launchDueRestarts now).toWorld.grows_tryWaitAny
  simp only [tick]
  split
  next heq =>
    exact (hlaunched.trans (grows_inWorld (hwaited.of_eq heq))).trans (grows_handleExit ..)
  next heq => exact hlaunched.trans (grows_inWorld (hwaited.of_eq heq))
  next heq => exact hlaunched.trans (grows_inWorld (hwaited.of_eq heq))
  next heq => exact (hlaunched.trans (grows_inWorld (hwaited.of_eq heq))).trans (grows_say _ _)

/-! ## What a start leaves in the journal -/

theorem spawn_journal {command : String} {pid : Pid} (h : s.spawn command = (.ok pid, s')) :
    s'.now = s.now ∧ s'.journal = ⟨s.now, .spawned pid (Text.wordsOf command)⟩ :: s.journal := by
  rw [spawn] at h
  split at h
  next => cases h
  next program args hwords =>
    rw [hwords]
    split at h
    next pid w heq =>
      cases h
      exact World.spawn_journal heq
    next => cases h

theorem launchService_some {unit : String} {u : UnitDef} {pid : Pid}
    (h : s.launchService unit u = (.ok (some pid), s')) : ∃ line, u.execStart? = some line ∧
      s'.now = s.now ∧ s'.journal = ⟨s.now, .notice (.serviceStarted unit pid)⟩ ::
        ⟨s.now, .spawned pid (Text.wordsOf line)⟩ :: s.journal := by
  rw [launchService] at h
  split at h
  next => cases h
  next line hline =>
    split at h
    next pid t heq =>
      cases h
      obtain ⟨hnow, hjournal⟩ := spawn_journal heq
      refine ⟨line, hline, hnow, ?_⟩
      change ⟨t.now, _⟩ :: t.journal = _
      rw [hnow, hjournal]
    next => cases h

theorem launchService_none {unit : String} {u : UnitDef}
    (h : s.launchService unit u = (.ok none, s')) : u.execStart? = none := by
  rw [launchService] at h
  split at h
  next hnone => exact hnone
  next => split at h <;> cases h

end Supervisor

end InitDaemon
