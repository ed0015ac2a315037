import InitDaemon.Proofs.Init.StartPolls

/-!
# Any task goes on

The boot chain, the session, the shutdown and the loop that collects processes ask for units at
most, and leave every start where it is.
-/

namespace InitDaemon.Init

open Std InitDaemon.Units InitDaemon.Journal

variable {σ : Type} {s₀ s s' : Init σ} {f : Focus} {id : TaskId} {target : Handle}

/-! ## Shutdown -/

theorem quiet_suspended (suspended : Bool) : s.Quiet { s with suspended := suspended } where
  toBeside := .of_eq rfl rfl rfl rfl rfl rfl
  table := .refl _
  readiness := rfl
  cycles := rfl

theorem quiet_halt (halt : Option Halt) : s.Quiet { s with halt := halt } where
  toBeside := .of_eq rfl rfl rfl rfl rfl rfl
  table := .refl _
  readiness := rfl
  cycles := rfl

namespace Leads

theorem beginShutdown (hs : Leads s₀ f s) : Leads s₀ f s.beginShutdown := by
  rw [Init.beginShutdown]
  split
  · exact hs
  · exact (hs.quiet (quiet_say _)).quiet (quiet_table (Supervisor.grows_stopRestarts _) rfl)

theorem stop (hs : Leads s₀ (.other id) s) (h : Halt) : Leads s₀ .idle (s.stop id h) :=
  hs.endTask.quiet (quiet_halt _)

theorem powerEnded (hs : Leads s₀ (.other id) s) (r : Except Errno Unit) :
    Leads s₀ .idle (s.powerEnded id r) := by
  cases r with
  | ok => exact hs.stop .powerDown
  | error e => exact (hs.quiet (quiet_say _)).stop .stuck

theorem pauseUntil (hs : Leads s₀ (.other id) s) (state : PowerState) (deadline : Nat)
    (next : PowerStage) : Leads s₀ .idle (s.pauseUntil id state deadline next) :=
  hs.sleepUntil deadline trivial (List.forall_mem_nil _)

theorem afterStage {p : PowerProgress × Init σ} (hs : Leads s₀ (.other id) p.2)
    (state : PowerState) (patience : Nat) : Leads s₀ .idle (afterStage id state patience p) := by
  obtain ⟨progress, s⟩ := p
  cases progress with
  | pause delay next =>
    rw [Init.afterStage]
    split
    · exact hs.defer trivial (List.forall_mem_nil _)
    · exact hs.pauseUntil state _ next
  | ended r => exact hs.powerEnded r

variable [Platform σ]

theorem powerStage (hs : Leads s₀ f s) (id : TaskId) (state : PowerState) (stage : PowerStage) :
    Leads s₀ f (s.powerStage id state stage).2 :=
  (hs.quiet (quiet_note (.powerStaged id stage) trivial)).quiet
    (quiet_inWorld (World.grows_powerStage state _ stage _))

theorem runPower (hs : Leads s₀ (.other id) s) (state : PowerState) (stage : PowerStage)
    (patience : Nat) : Leads s₀ .idle (s.runPower id state stage patience) := by
  have hstage := hs.powerStage id state stage
  unfold Init.runPower
  split
  next heq => exact ((hstage.of_eq heq).powerStage id state .kill).afterStage state _
  next => exact hstage.afterStage state _

theorem power (hs : Leads s₀ (.other id) s) (cause : PowerCause) (state : PowerState)
    (patience : Nat) : Leads s₀ .idle (s.power id cause state patience) := by
  have hrequested := hs.quiet (quiet_note (.powerRequested id cause state) trivial)
  exact hrequested.beginShutdown.runPower state .terminate patience

theorem pollPower (hs : Leads s₀ (.other id) s) (state : PowerState) (phase : PowerPhase) :
    Leads s₀ .idle (s.pollPower id state phase) := by
  cases phase with
  | fresh => exact hs.power .request state _
  | delayed deadline next =>
    rw [Init.pollPower]
    split
    · exact hs.pauseUntil state deadline next
    · exact hs.runPower state next _
  | pausing deadline next =>
    rw [Init.pollPower]
    split
    · exact hs.unfocus
    · exact hs.runPower state next _

/-! ## Rescue -/

theorem awaitRescue (hs : Leads s₀ f s) (pid : Pid) : Leads s₀ f (s.awaitRescue pid).2 := by
  have hwaited := hs.quiet (quiet_inWorld (World.grows_waitBlocking pid s.suspended s.toWorld))
  rw [Init.awaitRescue]
  split
  next heq => exact hwaited.of_eq heq
  next r s₁ heq =>
    have hreleased := (hwaited.of_eq heq).quiet
      (quiet_inTable (f := fun sup => ((), sup.release pid)) (Supervisor.grows_release _ pid))
    dsimp only
    split
    next => exact hreleased
    next => exact hreleased.quiet (quiet_say _)

theorem spawnRescue (hs : Leads s₀ f s) : Leads s₀ f s.spawnRescue.2 := by
  have hspawned := hs.quiet
    (quiet_inTable (Supervisor.grows_spawn s.config.rescue s.toSupervisor))
  rw [Init.spawnRescue]
  split
  next heq => exact (hspawned.of_eq heq).awaitRescue _
  next heq => exact (hspawned.of_eq heq).quiet (quiet_say _)

theorem runRescue (hs : Leads s₀ f s) : Leads s₀ f s.runRescue.2 := by
  have hsaid := (hs.quiet (quiet_say .rescueEntered)).quiet (quiet_say .rescueHelp)
  have hrescued := (hsaid.quiet (quiet_suspended true)).spawnRescue
  simp only [Init.runRescue]
  split
  next heq => exact hrescued.of_eq heq
  next heq =>
    have hended := (hrescued.of_eq heq).quiet (quiet_suspended false)
    dsimp only
    split
    · exact hended.quiet (quiet_say _)
    · exact hended

theorem afterRescue {p : Option RescueOutcome × Init σ} (hs : Leads s₀ (.other id) p.2) :
    Leads s₀ .idle (afterRescue id p) := by
  obtain ⟨_ | outcome, s⟩ := p
  · exact hs.stop .blocked
  · cases outcome with
    | resume => exact hs.endTask
    | reboot => exact hs.power .rescue .restart _
    | powerOff => exact hs.power .rescue .off _

/-! ## Boot chain and session -/

theorem awaitBootTarget (hs : Leads s₀ (.other id) s) (htarget : Requested s.journal target) :
    Leads s₀ .idle (s.awaitBootTarget id target) := by
  rw [Init.awaitBootTarget]
  split
  next => exact hs.suspend trivial (by simpa [Task.handles] using htarget)
  next => exact (hs.quiet (quiet_say _)).endTask
  next => exact (hs.quiet (quiet_say _)).runRescue.afterRescue

theorem pollBootChain (hs : Leads s₀ (.other id) s) (target : Option Handle)
    (htarget : ∀ h ∈ (Task.bootChain target).handles, Requested s.journal h) :
    Leads s₀ .idle (s.pollBootChain id target) := by
  cases target with
  | some target => exact hs.awaitBootTarget (htarget target List.mem_cons_self)
  | none =>
    exact (hs.request s.config.bootTarget []).awaitBootTarget (s.request_handle _ _).2

theorem endSession (hs : Leads s₀ (.other id) s) (patience : Nat) :
    Leads s₀ .idle (s.endSession id patience) :=
  (hs.quiet (quiet_say _)).power .session .off patience

theorem startSession (hs : Leads s₀ (.other id) s) (patience : Nat) :
    Leads s₀ .idle (s.startSession id patience) := by
  have hspawned := (hs.quiet (quiet_say .sessionStarting)).spawnAndAwait s.config.session
  rw [Init.startSession]
  split
  next heq =>
    dsimp only
    split
    · exact (hspawned.of_eq heq).defer trivial (List.forall_mem_nil _)
    · exact (hspawned.of_eq heq).suspend trivial (List.forall_mem_nil _)
  next heq => exact ((hspawned.of_eq heq).quiet (quiet_say _)).endSession patience

theorem awaitFoundation (hs : Leads s₀ (.other id) s) (patience : Nat) (handles : List Handle)
    (hhandles : ∀ h ∈ handles, Requested s.journal h) :
    Leads s₀ .idle (s.awaitFoundation id patience handles) := by
  induction handles generalizing patience with
  | nil =>
    rw [Init.awaitFoundation]
    exact hs.startSession patience
  | cons h handles ih =>
    cases patience with
    | zero => exact hs.defer trivial hhandles
    | succ patience =>
      rw [Init.awaitFoundation]
      split
      next => exact ih patience fun h' hh' => hhandles h' (List.mem_cons_of_mem h hh')
      next => exact (hs.quiet (quiet_say _)).endTask
      next => exact hs.suspend trivial hhandles

theorem pollSession (hs : Leads s₀ (.other id) s) (phase : SessionPhase)
    (hhandles : ∀ h ∈ (Task.session phase).handles, Requested s.journal h) :
    Leads s₀ .idle (s.pollSession id phase) := by
  cases phase with
  | fresh =>
    obtain ⟨hrequested, -, hgiven⟩ := hs.requestAll [] s.config.foundation
    exact hrequested.awaitFoundation patience _ hgiven
  | awaiting handles => exact hs.awaitFoundation patience handles hhandles
  | running ticket =>
    rw [Init.pollSession]
    split
    · exact hs.endSession _
    · exact hs.unfocus

theorem pollSignals (hs : Leads s₀ (.other id) s) (terminated interrupted : Bool) :
    Leads s₀ .idle (s.pollSignals id terminated interrupted) := by
  rw [Init.pollSignals]
  split
  · exact hs.power .signal .off _
  · split
    · exact hs.power .signal .restart _
    · exact hs.unfocus

/-! ## Collecting processes -/

omit [Platform σ] in
theorem reapLater (hs : Leads s₀ (.other id) s) (childEvent : Option Bool) (failed : Bool) :
    Leads s₀ .idle (s.reapLater id childEvent failed) := by
  rw [Init.reapLater]
  split
  · exact hs.sleepUntil _ trivial (List.forall_mem_nil _)
  · exact hs.sleepUntil _ trivial (List.forall_mem_nil _)

omit [Platform σ] in
theorem dropAlarms (hs : Leads s₀ (.other id) s) : Leads s₀ (.other id) (s.dropAlarms id) := by
  refine hs.quiet {
    table := .refl _, readiness := rfl, cycles := rfl, nextTask_le := Nat.le_refl _
    starts := fun _ _ _ _ => .rfl
    tasks := fun _ _ ht => .inl ht
    runnable := fun _ hrun => hrun
    alarms := ?_
    tickets := fun _ _ _ _ _ _ _ ht => .inl ht }
  intro id' unit deadline hstarts ha
  refine .inl (List.mem_filter.mpr ⟨ha, bne_iff_ne.mpr ?_⟩)
  rintro rfl
  exact hs.not_starts unit hstarts

theorem pollReap (hs : Leads s₀ (.other id) s) (childEvent : Option Bool) (phase : ReapPhase) :
    Leads s₀ .idle (s.pollReap id childEvent phase) := by
  refine pollReap_induction ?tick ?yield (fun _ c failed h => h.reapLater c failed)
    (fun _ h => h.dropAlarms) hs.unfocus hs childEvent phase
  case tick =>
    exact fun s h => h.quiet (quiet_inTable (Supervisor.grows_tick s.now s.toSupervisor))
  case yield => exact fun _ _ h => h.defer trivial (List.forall_mem_nil _)

omit [Platform σ] in
theorem pollReport (hs : Leads s₀ (.other id) s) (c : Completion) :
    Leads s₀ .idle (s.pollReport id c) := by
  rw [Init.pollReport]
  split
  next status _ => exact (hs.quiet (quiet_note (.completed c.pid status) trivial)).endTask
  next => exact hs.unfocus

omit [Platform σ] in
theorem pollNetworkManager (hs : Leads s₀ (.other id) s) (ticket : Ticket) :
    Leads s₀ .idle (s.pollNetworkManager id ticket) := by
  rw [Init.pollNetworkManager]
  split
  next => exact (hs.quiet (quiet_say _)).endTask
  next => exact hs.endTask
  next => exact hs.unfocus

/-! ## A poll -/

theorem pollQueued (hs : Leads s₀ .idle s) (id : TaskId) : Leads s₀ .idle (s.pollQueued id) := by
  have hqueue : s.pollQueued id = (s.unqueue id).poll id := rfl
  rw [hqueue, Init.poll]
  have htasks : (s.unqueue id).tasks = s.tasks := rfl
  rw [htasks]
  cases ht : s.tasks[id]? with
  | none => exact hs.unqueue (fun _ _ _ h => by cases ht.symm.trans h) trivial
  | some t =>
    have hother : t.IsOther → Leads s₀ (.other id) (s.unqueue id) := fun h =>
      hs.unqueue (fun _ _ _ _ => .inl rfl) ⟨hs.workflow.id_lt id t ht, fun unit hstarts => by
        obtain ⟨_, _, h'⟩ := hstarts
        exact h.ne_start _ _ _ (Option.some.inj (ht.symm.trans h'))⟩
    have hhandles := hs.workflow.handles id t ht
    cases t with
    | start unit chain phase => exact hs.pollStart ht
    | watchNetworkManager ticket => exact (hother trivial).pollNetworkManager ticket
    | watchSignals terminated interrupted =>
      exact (hother trivial).pollSignals terminated interrupted
    | bootChain target => exact (hother trivial).pollBootChain target hhandles
    | session phase => exact (hother trivial).pollSession phase hhandles
    | power state phase => exact (hother trivial).pollPower state phase
    | reap childEvent phase => exact (hother trivial).pollReap childEvent phase
    | report c => exact (hother trivial).pollReport c

end Leads

end InitDaemon.Init
