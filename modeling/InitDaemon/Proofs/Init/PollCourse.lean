import InitDaemon.Proofs.Init.Stirring

/-!
# The course of a poll

A task that is polled stirs up others before it comes to rest. Only then does it take another place
itself, and that is where a shutdown begins or goes on.
-/

namespace InitDaemon.Init

open Std InitDaemon.Units InitDaemon.Journal

variable {σ : Type} {wakes : Task → Prop} {id : TaskId} {t : Task} {s₀ s s' : Init σ}

/-! ## Where a task comes to rest -/

inductive Fate [Platform σ] (id : TaskId) (t : Task) (s : Init σ) : Init σ → Prop
  | stay : Fate id t s s
  | suspend (t' : Task) (h : t.Becomes s.config t') : Fate id t s (s.suspend id t')
  | defer (t' : Task) (h : t.Becomes s.config t') : Fate id t s (s.defer id t')
  | sleep (deadline : Nat) (t' : Task) (ht : t.IsAide) (h : t'.IsAide) :
    Fate id t s (s.sleepUntil id deadline t')
  | ended : Fate id t s (s.endTask id)
  | halted (halt : Halt) : Fate id t s (s.stop id halt)
  | request (ht : t.IsCaller) (cause : PowerCause) (state : PowerState) (left : Nat)
    (hleft : 2 ≤ left) : Fate id t s (s.power id cause state left)

variable [Platform σ]

def Goes (wakes : Task → Prop) (id : TaskId) (t : Task) (s s' : Init σ) : Prop :=
  ∃ s₁, s.Stirs wakes id s₁ ∧ Fate id t s₁ s'

namespace Stirs

theorem comesTo (hs : s₀.Stirs wakes id s) (h : Fate id t s s') : Goes wakes id t s₀ s' :=
  ⟨s, hs, h⟩

theorem stay (hs : s₀.Stirs wakes id s) : Goes wakes id t s₀ s :=
  hs.comesTo .stay

theorem endTask (hs : s₀.Stirs wakes id s) : Goes wakes id t s₀ (s.endTask id) :=
  hs.comesTo .ended

/-! ### Aides -/

theorem conclude (hs : s₀.Stirs Task.IsFree id s) (unit : String) (o : Outcome) :
    Goes Task.IsFree id t s₀ (s.conclude id unit o) := by
  have hwakes : ∀ t channel, awaits channel t = true → t.IsFree :=
    fun _ _ h => Task.pause?_of_awaits h
  cases o with
  | ok => exact (hs.resolve hwakes unit (.ok ())).endTask
  | error e => exact ((hs.say (.startFailed unit e)).resolve hwakes unit (.error e)).endTask

theorem endAction (hs : s₀.Stirs Task.IsFree id s) (unit : String) (o : Outcome) :
    Goes Task.IsFree id t s₀ (s.endAction id unit o) :=
  (hs.note (.acted unit o) trivial).conclude unit o

omit [Platform σ] in
theorem freeTable {α : Type} {f : Supervisor σ → α × Supervisor σ}
    (hs : s₀.Stirs Task.IsFree id s) (h : s.toSupervisor.Works (f s.toSupervisor).2) :
    s₀.Stirs Task.IsFree id (s.inTable f).2 :=
  hs.inTable (fun _ => Task.HoldsTicket.isFree) h

theorem freeSpawn (hs : s₀.Stirs Task.IsFree id s) (command : String) :
    s₀.Stirs Task.IsFree id (s.spawnAndAwait command).2 :=
  hs.freeTable (Supervisor.works_spawnAndAwait command _)

theorem ensureAll (hs : s₀.Stirs wakes id s) (paths : List String) :
    s₀.Stirs wakes id (s.ensureAll paths).2 :=
  ensureAll_induction (fun _ _ h => h.host _) hs paths

theorem ensureEach (hs : s₀.Stirs wakes id s) (paths : List String) :
    s₀.Stirs wakes id (s.ensureEach paths) :=
  ensureEach_induction (fun _ _ h => h.host _) (fun _ path e h => h.say (.directorySkipped path e))
    hs paths

omit [Platform σ] in
theorem judgeMachineId (hs : s₀.Stirs wakes id s) (status : Option ExitStatus) :
    s₀.Stirs wakes id (s.judgeMachineId status) :=
  judgeMachineId_induction (fun _ h => h.say .uuidgenNotReaped)
    (fun _ status h => h.say (.uuidgenEnded status)) hs status

theorem finishBus (hs : s₀.Stirs Task.IsFree id s) (unit : String) (status : Option ExitStatus) :
    Goes Task.IsFree id t s₀ (s.finishBus id unit status) := by
  cases status with
  | none => exact hs.endAction unit _
  | some status =>
    rw [Init.finishBus]
    split
    · exact (hs.say .busUp).endAction unit _
    · exact hs.endAction unit _

theorem startNetworkManager (hs : s₀.Stirs Task.IsFree id s) (unit : String) :
    Goes Task.IsFree id t s₀ (s.startNetworkManager id unit) := by
  have hspawned := hs.freeSpawn networkManagerCommand
  rw [Init.startNetworkManager]
  split
  next heq => exact (hspawned.of_eq heq).endAction unit _
  next c s₁ heq =>
    have hsaid := (hspawned.of_eq heq).say (.networkManagerStarted c.pid)
    have hwatched := hsaid.addTask (t := .watchNetworkManager c.ticket) trivial
    exact hwatched.endAction unit (.ok ())

theorem startElogind (hs : s₀.Stirs Task.IsFree id s) :
    s₀.Stirs Task.IsFree id s.startElogind.2 :=
  startElogind_induction (fun _ _ h => h.host _) (fun _ h => h.say .elogindMissing)
    (fun _ path h => h.freeTable (Supervisor.works_spawn path _))
    (fun _ pid h => h.say (.elogindStarted pid)) hs

theorem startUserSessions (hs : s₀.Stirs Task.IsFree id s) (unit : String) :
    Goes Task.IsFree id t s₀ (s.startUserSessions id unit) := by
  have helogind := hs.startElogind
  rw [Init.startUserSessions]
  split
  next heq => exact ((helogind.of_eq heq).ensureEach sessionDirectories).endAction unit _
  next heq => exact (helogind.of_eq heq).endAction unit _

theorem pollReport (hs : s₀.Stirs wakes id s) (c : Completion) :
    Goes wakes id t s₀ (s.pollReport id c) := by
  rw [Init.pollReport]
  split
  next status _ => exact (hs.note (.completed c.pid status) trivial).endTask
  next => exact hs.stay

theorem pollNetworkManager (hs : s₀.Stirs wakes id s) (ticket : Ticket) :
    Goes wakes id t s₀ (s.pollNetworkManager id ticket) := by
  rw [Init.pollNetworkManager]
  split
  next status _ => exact (hs.say (.networkManagerEnded status)).endTask
  next => exact hs.endTask
  next => exact hs.stay

section

variable (ht : t.IsAide)

include ht

theorem suspendAide {t' : Task} (hs : s₀.Stirs wakes id s) (h : t'.IsAide) :
    Goes wakes id t s₀ (s.suspend id t') :=
  hs.comesTo (.suspend t' (.inl ⟨ht, h⟩))

theorem deferAide {t' : Task} (hs : s₀.Stirs wakes id s) (h : t'.IsAide) :
    Goes wakes id t s₀ (s.defer id t') :=
  hs.comesTo (.defer t' (.inl ⟨ht, h⟩))

theorem beginBus (hs : s₀.Stirs Task.IsFree id s) (unit : String) (chain : List String) :
    Goes Task.IsFree id t s₀ (s.beginBus id unit chain) := by
  have hensured := hs.ensureAll busDirectories
  rw [Init.beginBus]
  split
  next heq => exact (hensured.of_eq heq).endAction unit _
  next s₁ heq =>
    have hspawned := (hensured.of_eq heq).freeSpawn uuidgenCommand
    split
    next heq' => exact (hspawned.of_eq heq').endAction unit _
    next heq' => exact (hspawned.of_eq heq').suspendAide ht trivial

theorem startBus (hs : s₀.Stirs Task.IsFree id s) (unit : String) (chain : List String)
    (status : Option ExitStatus) : Goes Task.IsFree id t s₀ (s.startBus id unit chain status) := by
  have hspawned := (hs.judgeMachineId status).freeSpawn busCommand
  rw [Init.startBus]
  split
  next heq => exact (hspawned.of_eq heq).endAction unit _
  next heq => exact (hspawned.of_eq heq).suspendAide ht trivial

theorem runBuiltin (hs : s₀.Stirs Task.IsFree id s) (unit : String) (chain : List String)
    (b : Builtin) : Goes Task.IsFree id t s₀ (s.runBuiltin id unit chain b) := by
  cases b with
  | mounts => exact (hs.host .mountAll).endAction unit _
  | network => exact (hs.host .startNetwork).endAction unit _
  | hostname => exact (hs.host .setHostname).endAction unit _
  | dbus => exact hs.beginBus ht unit chain
  | networkManager => exact hs.startNetworkManager unit
  | userSessions => exact hs.startUserSessions unit
  | plymouthQuit => exact hs.endAction unit (.ok ())

theorem letSettle (hs : s₀.Stirs Task.IsFree id s) (unit : String) (chain : List String)
    (deadline : Nat) : Goes Task.IsFree id t s₀ (s.letSettle id unit chain deadline) := by
  rw [Init.letSettle]
  split
  · exact hs.comesTo (.sleep deadline _ ht trivial)
  · exact hs.endAction unit (.ok ())

theorem startService (hs : s₀.Stirs Task.IsFree id s) (unit : String) (chain : List String)
    (u : UnitDef) (left : Nat) :
    Goes Task.IsFree id t s₀ (s.startService id unit chain u left) := by
  have hlaunched := hs.freeTable (Supervisor.works_launchService unit u _)
  rw [Init.startService]
  split
  next heq => exact (hlaunched.of_eq heq).endAction unit _
  next heq => exact (hlaunched.of_eq heq).endAction unit (.ok ())
  next heq =>
    dsimp only
    split
    · exact (hlaunched.of_eq heq).deferAide ht trivial
    · exact (hlaunched.of_eq heq).letSettle ht unit chain _

theorem beginAction (hs : s₀.Stirs Task.IsFree id s) (unit : String) (chain : List String)
    (u : UnitDef) (left : Nat) : Goes Task.IsFree id t s₀ (s.beginAction id unit chain u left) := by
  rw [Init.beginAction]
  split
  next => exact hs.conclude unit _
  next =>
    have hbegun := (hs.say (.starting unit chain)).note (.began unit) trivial
    dsimp only
    split
    next b _ => exact hbegun.runBuiltin ht unit chain b
    next => exact hbegun.startService ht unit chain u left

theorem awaitDependencies (hs : s₀.Stirs Task.IsFree id s) (unit : String) (chain : List String)
    (u : UnitDef) (left : Nat) (handles : List Handle) :
    Goes Task.IsFree id t s₀ (s.awaitDependencies id unit chain u left handles) := by
  induction handles generalizing left with
  | nil =>
    rw [Init.awaitDependencies]
    exact hs.beginAction ht unit chain u left
  | cons h handles ih =>
    cases left with
    | zero => exact hs.deferAide ht trivial
    | succ left =>
      rw [Init.awaitDependencies]
      split
      next => exact ih left
      next => exact hs.conclude unit _
      next => exact hs.suspendAide ht trivial

theorem pollStart (hs : s₀.Stirs Task.IsFree id s) (unit : String) (chain : List String)
    (phase : StartPhase) : Goes Task.IsFree id t s₀ (s.pollStart id unit chain phase) := by
  cases phase with
  | fresh =>
    rw [Init.pollStart]
    split
    next => exact hs.conclude unit _
    next u _ =>
      exact (hs.requestAll (unit :: chain) u.dependencies.toList).awaitDependencies ht unit chain u
        patience _
  | awaiting handles =>
    rw [Init.pollStart]
    split
    next => exact hs.conclude unit _
    next u _ => exact hs.awaitDependencies ht unit chain u patience handles
  | started deadline => exact hs.letSettle ht unit chain deadline
  | settling deadline =>
    rw [Init.pollStart]
    split
    · exact hs.stay
    · exact hs.endAction unit (.ok ())
  | makingMachineId ticket =>
    rw [Init.pollStart]
    split
    · exact hs.startBus ht unit chain _
    · exact hs.stay
  | startingBus ticket =>
    rw [Init.pollStart]
    split
    · exact hs.finishBus unit _
    · exact hs.stay

theorem reapLater (hs : s₀.Stirs wakes id s) (childEvent : Option Bool) (failed : Bool) :
    Goes wakes id t s₀ (s.reapLater id childEvent failed) := by
  rw [Init.reapLater]
  split
  all_goals exact hs.comesTo (.sleep _ _ ht trivial)

theorem pollReap (hs : s₀.Stirs Task.IsFree id s) (childEvent : Option Bool) (phase : ReapPhase) :
    Goes Task.IsFree id t s₀ (s.pollReap id childEvent phase) :=
  pollReap_induction (fun s h => h.freeTable (Supervisor.works_tick s.now _))
    (fun _ _ h => h.deferAide ht trivial) (fun _ c failed h => h.reapLater ht c failed)
    (fun _ h => h.dropAlarms) hs.stay hs childEvent phase

end

/-! ### Callers -/

section

variable (ht : t.IsCaller)

include ht

theorem suspendCaller {t' : Task} (hs : s₀.Stirs wakes id s) (h : t'.IsCaller)
    (hfits : t'.Fits s.config) : Goes wakes id t s₀ (s.suspend id t') :=
  hs.comesTo (.suspend t' (.inr ⟨ht, h, hfits⟩))

theorem deferCaller {t' : Task} (hs : s₀.Stirs wakes id s) (h : t'.IsCaller)
    (hfits : t'.Fits s.config) : Goes wakes id t s₀ (s.defer id t') :=
  hs.comesTo (.defer t' (.inr ⟨ht, h, hfits⟩))

omit ht in
theorem awaitRescue (hs : s₀.Stirs Task.HoldsTicket id s) (pid : Pid) :
    s₀.Stirs Task.HoldsTicket id (s.awaitRescue pid).2 := by
  have hwaited : s₀.Stirs Task.HoldsTicket id (s.inWorld (World.waitBlocking pid s.suspended)).2 :=
    hs.world (World.grows_waitBlocking pid s.suspended s.toWorld).now_le
      (World.calm_waitBlocking pid s.suspended s.toWorld)
  rw [Init.awaitRescue]
  split
  next heq => exact hwaited.of_eq heq
  next r s₁ heq =>
    have hreleased := (hwaited.of_eq heq).inTable (f := fun sup => ((), sup.release pid))
      (fun _ h => h) (Supervisor.works_release _ pid)
    dsimp only
    split
    next => exact hreleased
    next => exact hreleased.say _

omit ht in
theorem spawnRescue (hs : s₀.Stirs Task.HoldsTicket id s) :
    s₀.Stirs Task.HoldsTicket id s.spawnRescue.2 := by
  have hspawned := hs.inTable (fun _ h => h) (Supervisor.works_spawn s.config.rescue _)
  rw [Init.spawnRescue]
  split
  next heq => exact (hspawned.of_eq heq).awaitRescue _
  next heq => exact (hspawned.of_eq heq).say _

omit ht in
theorem runRescue (hs : s₀.Stirs Task.HoldsTicket id s) :
    s₀.Stirs Task.HoldsTicket id s.runRescue.2 := by
  have hsaid := (hs.say .rescueEntered).say .rescueHelp
  have hsuspended : s₀.Stirs Task.HoldsTicket id
      { (s.say .rescueEntered).say .rescueHelp with suspended := true } :=
    hsaid.of_fields rfl rfl rfl rfl rfl rfl rfl
  have hrescued := hsuspended.spawnRescue
  simp only [Init.runRescue]
  split
  next heq => exact hrescued.of_eq heq
  next outcome s₁ heq =>
    have hshell : s₀.Stirs Task.HoldsTicket id s₁ := hrescued.of_eq heq
    have hended : s₀.Stirs Task.HoldsTicket id { s₁ with suspended := false } :=
      hshell.of_fields rfl rfl rfl rfl rfl rfl rfl
    dsimp only
    split
    · exact hended.say .bootResumed
    · exact hended

theorem afterRescue {p : Option RescueOutcome × Init σ} (hs : s₀.Stirs wakes id p.2) :
    Goes wakes id t s₀ (afterRescue id p) := by
  have hpatient : 2 ≤ patience := by decide
  obtain ⟨_ | outcome, s⟩ := p
  · exact hs.comesTo (.halted .blocked)
  · cases outcome with
    | resume => exact hs.endTask
    | reboot => exact hs.comesTo (.request ht .rescue .restart patience hpatient)
    | powerOff => exact hs.comesTo (.request ht .rescue .off patience hpatient)

theorem awaitBootTarget (hs : s₀.Stirs Task.HoldsTicket id s) (target : Handle) :
    Goes Task.HoldsTicket id t s₀ (s.awaitBootTarget id target) := by
  rw [Init.awaitBootTarget]
  split
  next => exact hs.suspendCaller ht trivial trivial
  next => exact (hs.say _).endTask
  next e _ => exact (hs.say (.bootFailed e)).runRescue.afterRescue ht

theorem pollBootChain (hs : s₀.Stirs Task.HoldsTicket id s) (target : Option Handle) :
    Goes Task.HoldsTicket id t s₀ (s.pollBootChain id target) := by
  cases target with
  | some target => exact hs.awaitBootTarget ht target
  | none => exact (hs.request s.config.bootTarget []).awaitBootTarget ht _

theorem endSession (hs : s₀.Stirs wakes id s) {left : Nat} (hleft : 2 ≤ left) :
    Goes wakes id t s₀ (s.endSession id left) :=
  (hs.say .sessionEnded).comesTo (.request ht .session .off left hleft)

theorem startSession (hs : s₀.Stirs Task.HoldsTicket id s) {left : Nat} (hleft : 2 ≤ left) :
    Goes Task.HoldsTicket id t s₀ (s.startSession id left) := by
  have hspawned := (hs.say .sessionStarting).inTable (fun _ h => h)
    (Supervisor.works_spawnAndAwait s.config.session _)
  rw [Init.startSession]
  split
  next heq =>
    dsimp only
    split
    · exact ((hspawned.of_eq heq)).deferCaller ht trivial trivial
    · exact ((hspawned.of_eq heq)).suspendCaller ht trivial trivial
  next heq => exact ((hspawned.of_eq heq).say _).endSession ht hleft

theorem awaitFoundation {handles : List Handle} {left : Nat}
    (hs : s₀.Stirs Task.HoldsTicket id s) (hleft : handles.length + 2 ≤ left)
    (hhandles : handles.length ≤ s.config.foundation.length) :
    Goes Task.HoldsTicket id t s₀ (s.awaitFoundation id left handles) := by
  induction handles generalizing left with
  | nil =>
    rw [Init.awaitFoundation]
    exact hs.startSession ht (by simpa using hleft)
  | cons h handles ih =>
    rw [List.length_cons] at hleft hhandles
    cases left with
    | zero => omega
    | succ left =>
      rw [Init.awaitFoundation]
      split
      next => exact ih (by omega) (by omega)
      next => exact (hs.say _).endTask
      next => exact hs.suspendCaller ht trivial hhandles

end

end Stirs

omit [Platform σ] in
theorem length_requestAll (chain units : List String) (s : Init σ) :
    (s.requestAll chain units).1.length = units.length := by
  induction units generalizing s with
  | nil => rfl
  | cons unit units ih => exact congrArg (· + 1) (ih _)

theorem goes_aide (h : t.IsAide) (id : TaskId) (s : Init σ) :
    Goes Task.IsFree id t s (s.pollTask id t) := by
  have hs := Stirs.refl Task.IsFree id s
  cases t with
  | start unit chain phase => exact hs.pollStart h unit chain phase
  | watchNetworkManager ticket => exact hs.pollNetworkManager ticket
  | reap childEvent phase => exact hs.pollReap h childEvent phase
  | report c => exact hs.pollReport c
  | watchSignals | bootChain | session | power => exact h.elim

/-- A task that may yet ask for another power state is not woken by what it does itself. -/
theorem goes_caller (h : t.IsCaller) (id : TaskId) (hfits : t.Fits s.config)
    (hpatient : s.config.foundation.length + 2 ≤ patience) :
    ∃ wakes : Task → Prop, (∀ t', wakes t' → t'.IsFree) ∧ ¬ wakes t ∧
      Goes wakes id t s (s.pollTask id t) := by
  have hfree : ∀ t' : Task, t'.HoldsTicket → t'.IsFree := fun _ => Task.HoldsTicket.isFree
  have htwo : 2 ≤ patience := by decide
  have hs := Stirs.refl Task.HoldsTicket id s
  have hstill := Stirs.refl (fun _ => False) id s
  cases t with
  | start | watchNetworkManager | reap | report => exact h.elim
  | watchSignals terminated interrupted =>
    refine ⟨fun _ => False, nofun, not_false, ?_⟩
    rw [pollTask, pollSignals]
    split
    · exact hstill.comesTo (.request h .signal .off patience htwo)
    · split
      · exact hstill.comesTo (.request h .signal .restart patience htwo)
      · exact hstill.stay
  | bootChain target =>
    refine ⟨_, hfree, ?_, hs.pollBootChain h target⟩
    rintro ⟨settled, hholds⟩
    cases hholds
  | session phase =>
    cases phase with
    | fresh =>
      refine ⟨_, hfree, ?_, ?_⟩
      · rintro ⟨settled, hholds⟩
        cases hholds
      · have hrequested := hs.requestAll [] s.config.foundation
        have hlength := s.length_requestAll [] s.config.foundation
        refine hrequested.awaitFoundation h ?_ ?_
        · rwa [hlength]
        · rw [hlength, hrequested.config]
    | awaiting handles =>
      have hlength : handles.length ≤ s.config.foundation.length := hfits
      refine ⟨_, hfree, ?_, hs.awaitFoundation h ?_ hlength⟩
      · rintro ⟨settled, hholds⟩
        cases hholds
      · omega
    | running ticket =>
      refine ⟨fun _ => False, nofun, not_false, ?_⟩
      rw [pollTask, pollSession]
      split
      · exact hstill.endSession h htwo
      · exact hstill.stay
  | power state phase =>
    refine ⟨fun _ => False, nofun, not_false, ?_⟩
    cases phase with
    | fresh => exact hstill.comesTo (.request h .request state patience htwo)
    | delayed => exact h.elim
    | pausing => exact h.elim

end InitDaemon.Init
