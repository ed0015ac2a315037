import InitDaemon.Proofs.Init.Conduct

/-!
# Runs that an init makes on its own

Whatever any task does comes down to deeds on the process table, and so does a run in which nobody
meddles with it from outside.
-/

namespace InitDaemon.Init

open Std InitDaemon.Units InitDaemon.Journal Supervisor

variable {σ : Type} [Platform σ] {allowed : String → Prop} {s₀ s s' : Init σ}

namespace Does

/-! ## Shutdown -/

theorem beginShutdown (hs : s₀.Does allowed s) : s₀.Does allowed s.beginShutdown := by
  rw [Init.beginShutdown]
  split
  · exact hs
  · exact (hs.say .restartsStopped trivial).deed (.idle (idles_stopRestarts _)) rfl

theorem stop (hs : s₀.Does allowed s) (id : TaskId) (h : Halt) : s₀.Does allowed (s.stop id h) :=
  (hs.endTask id).of_fields rfl rfl

theorem powerEnded (hs : s₀.Does allowed s) (id : TaskId) (r : Except Errno Unit) :
    s₀.Does allowed (s.powerEnded id r) := by
  cases r with
  | ok => exact hs.stop id .powerDown
  | error e => exact (hs.say (.rebootFailed e) trivial).stop id .stuck

theorem afterStage {p : PowerProgress × Init σ} (hs : s₀.Does allowed p.2) (id : TaskId)
    (state : PowerState) (patience : Nat) : s₀.Does allowed (afterStage id state patience p) := by
  obtain ⟨progress, s⟩ := p
  cases progress with
  | pause delay next =>
    rw [Init.afterStage]
    split
    · exact hs.defer id _ (List.forall_mem_nil _)
    · exact hs.sleepUntil id _ _ (List.forall_mem_nil _)
  | ended r => exact hs.powerEnded id r

theorem powerStage (hs : s₀.Does allowed s) (id : TaskId) (state : PowerState)
    (stage : PowerStage) : s₀.Does allowed (s.powerStage id state stage).2 :=
  (hs.note (.powerStaged id stage) trivial).world (World.idles_powerStage state _ stage _)

theorem runPower (hs : s₀.Does allowed s) (id : TaskId) (state : PowerState) (stage : PowerStage)
    (patience : Nat) : s₀.Does allowed (s.runPower id state stage patience) := by
  have hstage := hs.powerStage id state stage
  unfold Init.runPower
  split
  next heq => exact ((hstage.of_eq heq).powerStage id state .kill).afterStage id state _
  next => exact hstage.afterStage id state _

theorem power (hs : s₀.Does allowed s) (id : TaskId) (cause : PowerCause) (state : PowerState)
    (patience : Nat) : s₀.Does allowed (s.power id cause state patience) :=
  (hs.note (.powerRequested id cause state) trivial).beginShutdown.runPower id state .terminate
    patience

theorem pollPower (hs : s₀.Does allowed s) (id : TaskId) (state : PowerState) (phase : PowerPhase) :
    s₀.Does allowed (s.pollPower id state phase) := by
  cases phase with
  | fresh => exact hs.power id .request state _
  | delayed deadline next =>
    rw [Init.pollPower]
    split
    · exact hs.sleepUntil id _ _ (List.forall_mem_nil _)
    · exact hs.runPower id state next _
  | pausing deadline next =>
    rw [Init.pollPower]
    split
    · exact hs
    · exact hs.runPower id state next _

/-! ## Rescue -/

/-- The rescue shell is no process of a unit, and its end is collected before its record is
dropped. -/
theorem awaitRescue (hs : s₀.Does allowed s) (pid : Pid)
    (hpid : ∀ unit, ¬ s.FiledUnder pid unit) : s₀.Does allowed (s.awaitRescue pid).2 := by
  have hnoted : s₀.Does allowed (s.note (.waitedBlocking pid s.suspended)) :=
    hs.deed (.wait s.toSupervisor pid s.suspended hpid) rfl
  have hwaited : s₀.Does allowed (s.inWorld (World.waitBlocking pid s.suspended)).2 :=
    hnoted.world (s.toWorld.idles_waitBlocking pid s.suspended)
  have hjournal := s.toWorld.waitBlocking_journal pid s.suspended
  rw [Init.awaitRescue]
  split
  next heq => exact hwaited.of_eq heq
  next r s₁ heq =>
    -- To drop the record loses nothing, since the wait has collected the process.
    have hcollected : pid ∉ uncollected s₁.journal := by
      have hs₁ : (s.toWorld.waitBlocking pid s.suspended).2.journal = s₁.journal :=
        congrArg (fun p => p.2.journal) heq
      rw [← hs₁, hjournal]
      simp [uncollected]
    have hreleased : s₀.Does allowed (s₁.inTable fun sup => ((), sup.release pid)).2 :=
      (hwaited.of_eq heq).inTable (.release s₁.toSupervisor pid hcollected)
    dsimp only
    split
    next => exact hreleased
    next e => exact hreleased.say (.rescueWaitFailed e) trivial

theorem spawnRescue (hs : s₀.Does allowed s) (hrescue : allowed s.config.rescue) :
    s₀.Does allowed s.spawnRescue.2 := by
  have hspawned := hs.spawn s.config.rescue hrescue
  rw [Init.spawnRescue]
  split
  next pid s₁ heq =>
    obtain ⟨program, hentered, -⟩ := enters_spawn (toSupervisor_inTable heq)
    refine (hspawned.of_eq heq).awaitRescue pid fun unit hfiled => ?_
    rcases hentered.filed_iff.mp hfiled with ⟨-, hunit⟩ | ⟨hne, -⟩
    · cases hunit
    · exact hne rfl
  next e s₁ heq => exact (hspawned.of_eq heq).say (.rescueSpawnFailed e) trivial

theorem runRescue (hs : s₀.Does allowed s) (hrescue : allowed s.config.rescue) :
    s₀.Does allowed s.runRescue.2 := by
  have hsaid := (hs.say .rescueEntered trivial).say .rescueHelp trivial
  have hsuspended : s₀.Does allowed
      { (s.say .rescueEntered).say .rescueHelp with suspended := true } :=
    hsaid.of_fields rfl rfl
  have hrescued := hsuspended.spawnRescue hrescue
  simp only [Init.runRescue]
  split
  next heq => exact hrescued.of_eq heq
  next outcome s₁ heq =>
    have hshell : s₀.Does allowed s₁ := hrescued.of_eq heq
    have hended : s₀.Does allowed { s₁ with suspended := false } := hshell.of_fields rfl rfl
    dsimp only
    split
    · exact hended.say .bootResumed trivial
    · exact hended

theorem afterRescue {p : Option RescueOutcome × Init σ} (hs : s₀.Does allowed p.2) (id : TaskId) :
    s₀.Does allowed (afterRescue id p) := by
  obtain ⟨_ | outcome, s⟩ := p
  · exact hs.stop id .blocked
  · cases outcome with
    | resume => exact hs.endTask id
    | reboot => exact hs.power id .rescue .restart _
    | powerOff => exact hs.power id .rescue .off _

/-! ## Boot chain and session -/

theorem awaitBootTarget (hs : s₀.Does allowed s) (hrescue : allowed s₀.config.rescue) (id : TaskId)
    (target : Handle) : s₀.Does allowed (s.awaitBootTarget id target) := by
  have hstill : ∀ command ∈ (Task.bootChain (some target)).owed s₀.config, allowed command :=
    List.forall_mem_singleton.mpr hrescue
  rw [Init.awaitBootTarget]
  split
  next => exact hs.suspend id _ hstill
  next => exact (hs.say (.bootTargetReached s.config.bootTarget) trivial).endTask id
  next e _ =>
    have hsaid := hs.say (.bootFailed e) trivial
    exact (hsaid.runRescue (hs.config ▸ hrescue)).afterRescue id

theorem pollBootChain (hs : s₀.Does allowed s) (hrescue : allowed s₀.config.rescue) (id : TaskId)
    (target : Option Handle) : s₀.Does allowed (s.pollBootChain id target) := by
  cases target with
  | some target => exact hs.awaitBootTarget hrescue id target
  | none => exact (hs.request s.config.bootTarget []).awaitBootTarget hrescue id _

theorem endSession (hs : s₀.Does allowed s) (id : TaskId) (patience : Nat) :
    s₀.Does allowed (s.endSession id patience) :=
  (hs.say .sessionEnded trivial).power id .session .off patience

theorem startSession (hs : s₀.Does allowed s) (hsession : allowed s₀.config.session) (id : TaskId)
    (patience : Nat) : s₀.Does allowed (s.startSession id patience) := by
  have hspawned := (hs.say .sessionStarting trivial).spawnAndAwait s.config.session
    (hs.config ▸ hsession)
  rw [Init.startSession]
  split
  next heq =>
    dsimp only
    split
    · exact (hspawned.of_eq heq).defer id _ (List.forall_mem_nil _)
    · exact (hspawned.of_eq heq).suspend id _ (List.forall_mem_nil _)
  next e s₁ heq =>
    exact ((hspawned.of_eq heq).say (.sessionSpawnFailed e) trivial).endSession id patience

theorem awaitFoundation (hs : s₀.Does allowed s) (hsession : allowed s₀.config.session)
    (id : TaskId) (patience : Nat) (handles : List Handle) :
    s₀.Does allowed (s.awaitFoundation id patience handles) := by
  have hstill : ∀ command ∈ (Task.session (.awaiting handles)).owed s₀.config, allowed command :=
    List.forall_mem_singleton.mpr hsession
  induction handles generalizing patience with
  | nil =>
    rw [Init.awaitFoundation]
    exact hs.startSession hsession id patience
  | cons h handles ih =>
    cases patience with
    | zero => exact hs.defer id _ hstill
    | succ patience =>
      rw [Init.awaitFoundation]
      split
      next => exact ih patience hstill
      next e _ => exact (hs.say (.sessionRefused e) trivial).endTask id
      next => exact hs.suspend id _ hstill

theorem pollSession {phase : SessionPhase} (hs : s₀.Does allowed s)
    (howed : ∀ command ∈ (Task.session phase).owed s₀.config, allowed command) (id : TaskId) :
    s₀.Does allowed (s.pollSession id phase) := by
  cases phase with
  | fresh =>
    have hsession := List.forall_mem_singleton.mp howed
    exact (hs.requestAll [] s.config.foundation).awaitFoundation hsession id patience _
  | awaiting handles => exact hs.awaitFoundation (List.forall_mem_singleton.mp howed) id patience _
  | running ticket =>
    rw [Init.pollSession]
    split
    · exact hs.endSession id _
    · exact hs

theorem pollSignals (hs : s₀.Does allowed s) (id : TaskId) (terminated interrupted : Bool) :
    s₀.Does allowed (s.pollSignals id terminated interrupted) := by
  rw [Init.pollSignals]
  split
  · exact hs.power id .signal .off _
  · split
    · exact hs.power id .signal .restart _
    · exact hs

/-! ## Collecting processes -/

theorem tick (hs : s₀.Does allowed s) : s₀.Does allowed (s.inTable (Supervisor.tick s.now)).2 :=
  hs.inTable (.tick s.toSupervisor)

theorem reapLater (hs : s₀.Does allowed s) (id : TaskId) (childEvent : Option Bool)
    (failed : Bool) : s₀.Does allowed (s.reapLater id childEvent failed) := by
  rw [Init.reapLater]
  split
  · exact hs.sleepUntil id _ _ (List.forall_mem_nil _)
  · exact hs.sleepUntil id _ _ (List.forall_mem_nil _)

theorem dropAlarms (hs : s₀.Does allowed s) (id : TaskId) : s₀.Does allowed (s.dropAlarms id) :=
  hs.of_fields rfl rfl

theorem pollReap (hs : s₀.Does allowed s) (id : TaskId) (childEvent : Option Bool)
    (phase : ReapPhase) : s₀.Does allowed (s.pollReap id childEvent phase) :=
  pollReap_induction (fun _ h => h.tick) (fun _ _ h => h.defer id _ (List.forall_mem_nil _))
    (fun _ c failed h => h.reapLater id c failed) (fun _ h => h.dropAlarms id) hs hs childEvent phase

theorem pollReport (hs : s₀.Does allowed s) (id : TaskId) (c : Completion) :
    s₀.Does allowed (s.pollReport id c) := by
  rw [Init.pollReport]
  split
  next status _ => exact (hs.note (.completed c.pid status) trivial).endTask id
  next => exact hs

theorem pollNetworkManager (hs : s₀.Does allowed s) (id : TaskId) (ticket : Ticket) :
    s₀.Does allowed (s.pollNetworkManager id ticket) := by
  rw [Init.pollNetworkManager]
  split
  next status _ => exact (hs.say (.networkManagerEnded status) trivial).endTask id
  next => exact hs.endTask id
  next => exact hs

/-! ## A poll -/

theorem pollQueued [QuietSetup σ] (hs : s₀.Does allowed s) (id : TaskId) :
    s₀.Does allowed (s.pollQueued id) := by
  have hunqueued : s₀.Does allowed (s.unqueue id) := hs.of_fields rfl rfl
  have hqueue : s.pollQueued id = (s.unqueue id).poll id := rfl
  rw [hqueue, Init.poll]
  split
  next t ht =>
    have howed := hs.owed id t ht
    cases t with
    | start unit chain phase => exact hunqueued.pollStart howed id
    | watchNetworkManager ticket => exact hunqueued.pollNetworkManager id ticket
    | watchSignals terminated interrupted => exact hunqueued.pollSignals id terminated interrupted
    | bootChain target =>
      exact hunqueued.pollBootChain (List.forall_mem_singleton.mp howed) id target
    | session phase => exact hunqueued.pollSession howed id
    | power state phase => exact hunqueued.pollPower id state phase
    | reap childEvent phase => exact hunqueued.pollReap id childEvent phase
    | report c => exact hunqueued.pollReport id c
  next => exact hunqueued

end Does

/-! ## Runs on its own -/

/-- Moves that go behind the init's back are left out: nobody else launches a service or drops a
record, ticks know the time, and nothing is booted or spawned from outside once a shutdown has
begun. -/
def Permits (s : Init σ) : Move σ → Prop
  | .boot | .rescue | .spawn _ | .spawnAndReport _ => s.stopping = false
  | .launch .. | .release _ => False
  | .tick clock => clock = s.now
  | _ => True

instance decidablePermits (s : Init σ) : DecidablePred s.Permits
  | .boot | .rescue | .spawn _ | .spawnAndReport _ =>
    inferInstanceAs (Decidable (s.stopping = false))
  | .launch .. | .release _ => .isFalse id
  | .tick clock => inferInstanceAs (Decidable (clock = s.now))
  | .poll _ | .pass _ | .change _ | .raise _ | .deliver | .ring | .takeBack | .request ..
  | .watch | .supervise _ | .power _ | .powerStage .. | .stopRestarts => .isTrue trivial

def PermitsAll (s : Init σ) : List (Move σ) → Prop
  | [] => True
  | move :: moves => s.Permits move ∧ (s.perform move).PermitsAll moves

instance decidablePermitsAll : (s : Init σ) → DecidablePred s.PermitsAll
  | _, [] => .isTrue trivial
  | s, move :: moves =>
    have := decidablePermitsAll (s.perform move) moves
    inferInstanceAs (Decidable (s.Permits move ∧ (s.perform move).PermitsAll moves))

/-- A run that the init makes on its own leads from one state to the other. -/
def Operates (s s' : Init σ) : Prop :=
  ∃ moves, s.PermitsAll moves ∧ s' = s.run moves

theorem Operates.reaches (h : s.Operates s') (h₀ : s₀.Reaches s) : s₀.Reaches s' := by
  obtain ⟨moves, -, rfl⟩ := h
  obtain ⟨moves₀, rfl⟩ := h₀
  exact ⟨moves₀ ++ moves, (run_append s₀ moves₀ moves).symm⟩

theorem permitsAll_append {moves moves' : List (Move σ)} (h : s.PermitsAll moves)
    (h' : (s.run moves).PermitsAll moves') : s.PermitsAll (moves ++ moves') := by
  induction moves generalizing s with
  | nil => exact h'
  | cons move moves ih => exact ⟨h.1, ih h.2 h'⟩

theorem Operates.move (h : s.Operates s') (move : Move σ) (hmove : s'.Permits move) :
    s.Operates (s'.perform move) := by
  obtain ⟨moves, hmoves, rfl⟩ := h
  exact ⟨moves ++ [move], permitsAll_append hmoves ⟨hmove, trivial⟩, by rw [run_append]; rfl⟩

/-- The program itself goes no other way. -/
theorem Operates.settle (p : Policy) (fuel : Nat) (h : s.Operates s') :
    s.Operates (s'.settle p fuel) :=
  settle_induction (fun _ id h => h.move (.poll id) trivial)
    (fun _ h => ((h.move .deliver trivial).move .ring trivial).move .takeBack trivial) p fuel h

namespace Does

omit [Platform σ] in
theorem owed_mark (config : Config) (signal : Signal) (t : Task) :
    (mark signal t).owed config = t.owed config := by
  unfold mark
  split <;> rfl

theorem deliver (hs : s₀.Does allowed s) (signal : Signal) :
    s₀.Does allowed (s.deliver signal) := by
  have hmarked : s₀.Does allowed { s with tasks := s.tasks.map fun _ t => mark signal t } := by
    refine ⟨hs.deeds, fun id t ht => ?_, hs.free⟩
    rw [ExtTreeMap.getElem?_map, Option.map_eq_some_iff] at ht
    obtain ⟨t, hold, rfl⟩ := ht
    rw [owed_mark]
    exact hs.owed id t hold
  exact hmarked.wakeAll _

theorem deliverRaised (hs : s₀.Does allowed s) : s₀.Does allowed s.deliverRaised :=
  deliverRaised_induction (hs.of_fields rfl rfl) fun _ signal h => h.deliver signal

theorem ring (hs : s₀.Does allowed s) : s₀.Does allowed s.ring := by
  have hrung : s₀.Does allowed
      { s with alarms := (s.alarms.partition (·.deadline ≤ s.now)).2 } := hs.of_fields rfl rfl
  exact hrung.wakeAll _

theorem spawnAndReport (hs : s₀.Does allowed s) (command : String) (h : allowed command) :
    s₀.Does allowed (s.spawnAndReport command) := by
  have hspawned := hs.spawnAndAwait command h
  rw [Init.spawnAndReport]
  split
  next c s₁ heq => exact (hspawned.of_eq heq).addTask (.report c) (List.forall_mem_nil _)
  next heq => exact hspawned.of_eq heq

theorem perform [QuietSetup σ] (hs : s₀.Does allowed s) (move : Move σ) (h : s.Permits move) :
    s₀.Does allowed (s.perform move) := by
  cases move with
  | poll id => exact hs.pollQueued id
  | pass time => exact hs.world ⟨Nat.le_max_left .., [], rfl, List.forall_mem_nil _⟩
  | change machine => exact hs.world (World.idles_machine _ machine)
  | raise signal => exact hs.of_fields rfl rfl
  | deliver => exact hs.deliverRaised
  | ring => exact hs.ring
  | takeBack => exact hs.of_fields rfl rfl
  | request unit chain => exact hs.request unit chain
  | boot =>
    have hall := hs.allows h
    have hchain := (hs.say .booting trivial).addTask (.bootChain none) fun command _ => hall command
    exact hchain.addTask (.session .fresh) fun command _ => hall command
  | watch => exact hs.addTask _ (List.forall_mem_nil _)
  | supervise childEvents => exact hs.addTask _ (List.forall_mem_nil _)
  | power state => exact hs.addTask _ (List.forall_mem_nil _)
  | powerStage state grace stage => exact hs.world (World.idles_powerStage state grace stage _)
  | stopRestarts => exact hs.deed (.idle s.idles_stopRestarts) rfl
  | rescue => exact hs.runRescue (hs.allows h _)
  | spawn command => exact hs.spawn command (hs.allows h command)
  | spawnAndReport command => exact hs.spawnAndReport command (hs.allows h command)
  | launch unit u => exact h.elim
  | release pid => exact h.elim
  | tick clock =>
    cases h
    exact hs.tick

theorem operates [QuietSetup σ] (hs : s₀.Does allowed s) (h : s.Operates s') :
    s₀.Does allowed s' := by
  obtain ⟨moves, hpermitted, rfl⟩ := h
  induction moves generalizing s with
  | nil => exact hs
  | cons move moves ih => exact ih (hs.perform move hpermitted.1) hpermitted.2

end Does

theorem Operates.deeds [QuietSetup σ] (h : s.Operates s') :
    Deeds (fun _ => True) s.toSupervisor s'.toSupervisor := by
  have hs : s.Does (fun _ => True) s := ⟨.refl, fun _ _ _ _ _ => trivial, fun _ _ => trivial⟩
  exact (hs.operates h).deeds

end InitDaemon.Init
