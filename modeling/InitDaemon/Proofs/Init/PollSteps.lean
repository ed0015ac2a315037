import InitDaemon.Proofs.Init.StartSteps

/-!
# Any move in steps

The boot chain, the session, the shutdown and the loop that collects processes go on by steps too,
and whatever else happens to an init is a step or a few.
-/

namespace InitDaemon.Init

open Std InitDaemon.Units InitDaemon.Journal

variable {σ : Type} [Platform σ] {s₀ s s' : Init σ} {id : TaskId} {t t' : Task}

/-! ## Rescue -/

omit [Platform σ] in
theorem inTable_of_eq {α : Type} {f : Supervisor σ → α × Supervisor σ} {a : α}
    {sup : Supervisor σ} (h : f s.toSupervisor = (a, sup)) :
    ∃ queue, s.inTable f = (a, { s with toSupervisor := sup, queue := queue }) := by
  obtain ⟨queue, heq, -⟩ := inTable_eq f s
  rw [h] at heq
  exact ⟨queue, heq⟩

theorem awaitRescue_eq (s : Init σ) (hsuspended : s.suspended = true) (pid : Pid) :
    ∃ queue, s.awaitRescue pid = ((s.toSupervisor.awaitRescue pid).1,
      { s with toSupervisor := (s.toSupervisor.awaitRescue pid).2, queue := queue }) := by
  rcases hwaited : s.toWorld.waitBlocking pid true with ⟨answer, w⟩
  have hin : s.inWorld (World.waitBlocking pid s.suspended) =
      (answer, { s with toWorld := w }) := by
    simp only [inWorld, hsuspended, hwaited]
  rw [Init.awaitRescue, hin, Supervisor.awaitRescue, hwaited]
  cases answer with
  | none => exact ⟨s.queue, rfl⟩
  | some r =>
    obtain ⟨queue, heq⟩ := inTable_of_eq (s := { s with toWorld := w })
      (f := fun sup => ((), sup.release pid)) rfl
    refine ⟨queue, ?_⟩
    dsimp only
    rw [heq]
    cases r <;> rfl

theorem spawnRescue_eq (s : Init σ) (hsuspended : s.suspended = true) :
    ∃ queue, s.spawnRescue = (s.toSupervisor.spawnRescue.1,
      { s with toSupervisor := s.toSupervisor.spawnRescue.2, queue := queue }) := by
  rcases hspawned : s.toSupervisor.spawn s.config.rescue with ⟨answer, sup⟩
  obtain ⟨queue, heq⟩ := inTable_of_eq hspawned
  rw [Init.spawnRescue, heq, Supervisor.spawnRescue, hspawned]
  cases answer with
  | error e => exact ⟨queue, rfl⟩
  | ok pid => exact awaitRescue_eq { s with toSupervisor := sup, queue := queue } hsuspended pid

/-- Nothing about the rescue shell depends on the tasks but whom its end wakes. -/
theorem runRescue_eq (s : Init σ) : ∃ queue, s.runRescue =
    (s.toSupervisor.rescue.1, { s.rescued with queue := queue }) := by
  rcases htried : ((s.toSupervisor.say .rescueEntered).say .rescueHelp).spawnRescue with
    ⟨answer, sup⟩
  obtain ⟨queue, heq⟩ := spawnRescue_eq
    ({ (s.say .rescueEntered).say .rescueHelp with suspended := true } : Init σ) rfl
  have heq' : ({ (s.say .rescueEntered).say .rescueHelp with suspended := true } :
      Init σ).spawnRescue =
        (answer, { s with toSupervisor := sup, suspended := true, queue := queue }) := by
    rw [heq]
    exact congrArg (fun r : Option RescueOutcome × Supervisor σ =>
      (r.1, ({ s with toSupervisor := r.2, suspended := true, queue := queue } : Init σ))) htried
  refine ⟨queue, ?_⟩
  rw [rescued, Supervisor.rescue, htried]
  simp only [Init.runRescue]
  rw [heq']
  rcases answer with _ | _ | _ | _ <;> rfl

namespace Doing

/-! ## Shutdown -/

omit [Platform σ] in
theorem stop_suspend (s : Init σ) (id : TaskId) (t : Task) (halt : Halt) :
    (s.suspend id t).stop id halt = s.stop id halt := by
  rw [stop, endTask_suspend]
  rfl

omit [Platform σ] in
theorem powerEnded_suspend (s : Init σ) (id : TaskId) (t : Task) (r : Except Errno Unit) :
    (s.suspend id t).powerEnded id r = s.powerEnded id r := by
  cases r with
  | ok => exact stop_suspend s id t .powerDown
  | error e => exact stop_suspend (s.say (.rebootFailed e)) id t .stuck

theorem powerStage_suspend (s : Init σ) (id : TaskId) (t : Task) (state : PowerState)
    (stage : PowerStage) : (s.suspend id t).powerStage id state stage =
      ((s.powerStage id state stage).1, (s.powerStage id state stage).2.suspend id t) :=
  rfl

variable {state : PowerState}

/-- The stage that is due is performed, and the pause after it begins. -/
theorem stage_pause {phase : PowerPhase} {stage next : PowerStage} {delay : Nat}
    (hs : Doing s₀ id (.power state phase) s) (hdue : phase.Due s.now stage)
    (heq : s.powerStage id state stage = (.pause delay next, s')) :
    Doing s₀ id (.power state (.delayed (s'.now + delay) next)) s' := by
  have hstep := hs.steps.tail (.turn (.stage (tasks_suspend_self s id _) hdue))
  have hlt : id < s'.nextTask := by
    have hkeeps : (s.powerStage id state stage).2.nextTask = s.nextTask := rfl
    rw [heq] at hkeeps
    exact hkeeps ▸ hs.id_lt
  rw [staged, powerStage_suspend, heq] at hstep
  dsimp only at hstep
  rw [suspend_suspend] at hstep
  exact ⟨hstep, hlt⟩

theorem stage_end {phase : PowerPhase} {stage : PowerStage} {r : Except Errno Unit}
    (hs : Doing s₀ id (.power state phase) s) (hdue : phase.Due s.now stage)
    (heq : s.powerStage id state stage = (.ended r, s')) :
    Steps (.poll id) s₀ (s'.powerEnded id r) := by
  have hstep := hs.steps.tail (.turn (.stage (tasks_suspend_self s id _) hdue))
  rw [staged, powerStage_suspend, heq] at hstep
  dsimp only at hstep
  rwa [powerEnded_suspend] at hstep

theorem pauseUntil {deadline : Nat} {next : PowerStage}
    (hs : Doing s₀ id (.power state (.delayed deadline next)) s) :
    Steps (.poll id) s₀ (s.pauseUntil id state deadline next) :=
  (hs.proceed .pauses).sleepUntil deadline

theorem afterStage {phase : PowerPhase} {stage : PowerStage}
    (hs : Doing s₀ id (.power state phase) s) (hdue : phase.Due s.now stage) (left : Nat) :
    Steps (.poll id) s₀ (afterStage id state left (s.powerStage id state stage)) := by
  rcases heq : s.powerStage id state stage with ⟨⟨delay, next⟩ | r, s'⟩
  · have hpaused := hs.stage_pause hdue heq
    rw [Init.afterStage]
    split
    · exact hpaused.defer
    · exact hpaused.pauseUntil
  · exact hs.stage_end hdue heq

theorem runPower {phase : PowerPhase} {stage : PowerStage}
    (hs : Doing s₀ id (.power state phase) s) (hdue : phase.Due s.now stage) (left : Nat) :
    Steps (.poll id) s₀ (s.runPower id state stage left) := by
  unfold Init.runPower
  split
  next heq => exact (hs.stage_pause hdue heq).afterStage ⟨Nat.le_refl _, rfl⟩ _
  next => exact hs.afterStage hdue _

omit [Platform σ] in
theorem beginShutdown_eq (s : Init σ) :
    s.beginShutdown = { s with toSupervisor := s.toSupervisor.freeze } := by
  unfold beginShutdown Supervisor.freeze
  split <;> rfl

omit [Platform σ] in
theorem demand_suspend (s : Init σ) (id : TaskId) (t : Task) (cause : PowerCause)
    (state : PowerState) : (s.suspend id t).demand id cause state = s.demand id cause state :=
  suspend_suspend { s with
    toSupervisor := (s.note (.powerRequested id cause state)).toSupervisor.freeze } id t _

/-- What is left of a request once it has been made is its first stage. -/
theorem runDemand (s : Init σ) (id : TaskId) (cause : PowerCause) (state : PowerState)
    (hlt : id < s.nextTask) (left : Nat) (h : Steps (.poll id) s₀ (s.demand id cause state)) :
    Steps (.poll id) s₀ (s.power id cause state left) := by
  have hnow : (s.note (.powerRequested id cause state)).toSupervisor.freeze.now = s.now := by
    unfold Supervisor.freeze
    split <;> rfl
  have hdoing : Doing s₀ id (.power state (.delayed s.now .terminate)) { s with
      toSupervisor := (s.note (.powerRequested id cause state)).toSupervisor.freeze } := ⟨h, hlt⟩
  rw [Init.power, beginShutdown_eq]
  exact hdoing.runPower ⟨Nat.le_of_eq hnow.symm, rfl⟩ left

theorem power (hs : Doing s₀ id t s) {cause : PowerCause}
    (h : (s.suspend id t).Demands t cause state) (left : Nat) :
    Steps (.poll id) s₀ (s.power id cause state left) := by
  have hstep := hs.steps.tail (.turn (.demand (tasks_suspend_self s id t) h))
  rw [demand_suspend] at hstep
  exact runDemand s id cause state hs.id_lt left hstep

end Doing

theorem steps_pollPower {state : PowerState} {phase : PowerPhase} (hlt : id < s.nextTask)
    (ht : s.tasks[id]? = some (.power state phase)) :
    Steps (.poll id) s ((s.unqueue id).pollPower id state phase) := by
  have hdoing : Doing s id (.power state phase) (s.unqueue id) := doing_unqueue hlt ht
  cases phase with
  | fresh => exact hdoing.power (.request state) patience
  | delayed deadline next =>
    rw [Init.pollPower]
    split
    next => exact hdoing.pauseUntil
    next hdue => exact hdoing.runPower ⟨Nat.not_lt.mp hdue, rfl⟩ patience
  | pausing deadline next =>
    rw [Init.pollPower]
    split
    next => exact s.steps_unqueue id
    next hdue => exact hdoing.runPower ⟨Nat.not_lt.mp hdue, rfl⟩ patience

theorem steps_pollSignals {terminated interrupted : Bool} (hlt : id < s.nextTask)
    (ht : s.tasks[id]? = some (.watchSignals terminated interrupted)) :
    Steps (.poll id) s ((s.unqueue id).pollSignals id terminated interrupted) := by
  have hdoing : Doing s id (.watchSignals terminated interrupted) (s.unqueue id) :=
    doing_unqueue hlt ht
  rw [Init.pollSignals]
  split
  · exact hdoing.power (.signal terminated interrupted .off) patience
  · split
    · exact hdoing.power (.signal terminated interrupted .restart) patience
    · exact s.steps_unqueue id

namespace Doing

/-! ## Boot chain and session -/

omit [Platform σ] in
theorem heed_suspend (s : Init σ) (id : TaskId) (t : Task) (outcome : Option RescueOutcome) :
    (s.suspend id t).heed id outcome = s.heed id outcome := by
  rcases outcome with _ | _ | _ | _
  · exact stop_suspend s id t .blocked
  · exact endTask_suspend s id t
  · exact demand_suspend s id t .rescue .restart
  · exact demand_suspend s id t .rescue .off

/-- The boot chain does as the operator of the rescue shell says. -/
theorem runHeed {queue : List TaskId} (hlt : id < s.nextTask) (outcome : Option RescueOutcome)
    (h : Steps (.poll id) s₀ (s.heed id outcome)) :
    Steps (.poll id) s₀ (afterRescue id (outcome, { s with queue := queue })) := by
  have harranged := Steps.requeue h queue
  rcases outcome with _ | _ | _ | _
  · exact harranged
  · exact harranged
  · exact runDemand { s with queue := queue } id .rescue .restart hlt patience harranged
  · exact runDemand { s with queue := queue } id .rescue .off hlt patience harranged

theorem rescue {h : Handle} {e : StartError} (hs : Doing s₀ id (.bootChain (some h)) s)
    (hfailed : outcomeAfter? s.journal h.unit = some (.error e)) :
    Steps (.poll id) s₀ (afterRescue id s.runRescue) := by
  obtain ⟨queue, heq⟩ := runRescue_eq s
  have hstep := hs.steps.tail (.turn (.despair (tasks_suspend_self s id _) hfailed))
  have hrescued : (s.suspend id (.bootChain (some h))).rescued =
      s.rescued.suspend id (.bootChain (some h)) := rfl
  rw [hrescued, heed_suspend] at hstep
  rw [heq]
  exact runHeed (s := s.rescued) hs.id_lt _ hstep

theorem awaitBootTarget {h : Handle} (hs : Doing s₀ id (.bootChain (some h)) s)
    (hledger : s.Ledger) (hgiven : Requested s.journal h) :
    Steps (.poll id) s₀ (s.awaitBootTarget id h) := by
  rw [Init.awaitBootTarget, outcomeAfter?_wait hledger hgiven]
  split
  next => exact hs.suspend
  next hready =>
    have hsaid := hs.say (n := .bootTargetReached s.config.bootTarget) trivial
    exact hsaid.endTask (.reached ((outcomeAfter?_cons_of_ne (by simp)).trans hready))
  next e hfailed =>
    have hsaid := hs.say (n := .bootFailed e) trivial
    exact hsaid.rescue ((outcomeAfter?_cons_of_ne (by simp)).trans hfailed)

theorem startSession (hs : Doing s₀ id (.session (.awaiting [])) s) (left : Nat) :
    Steps (.poll id) s₀ (s.startSession id left) := by
  rcases hspawned : (s.toSupervisor.say .sessionStarting).spawnAndAwait s.config.session with
    ⟨answer, sup⟩
  obtain ⟨queue, heq⟩ := inTable_of_eq (s := s.say .sessionStarting) hspawned
  have hstep := hs.steps.tail (.turn (.enterSession (tasks_suspend_self s id _)))
  have hopened : (s.suspend id (.session (.awaiting []))).toSupervisor = s.toSupervisor := rfl
  rw [opened, hopened, hspawned] at hstep
  have hin : (s.say .sessionStarting).spawnAndAwait s.config.session =
      (answer, { s with toSupervisor := sup, queue := queue }) := heq
  rw [Init.startSession, hin]
  cases answer with
  | ok c =>
    have hrunning : Steps (.poll id) s₀ (({ s with toSupervisor := sup } : Init σ).suspend id
        (.session (.running c.ticket))) := by
      rw [← suspend_suspend _ id (.session (.awaiting []))]
      exact hstep
    have harranged := Steps.requeue hrunning queue
    dsimp only
    split
    · exact harranged.tail (.arrange _ _ queue (s.deferred ++ [id]) s.alarms s.raised)
    · exact harranged
  | error e =>
    have hended : Steps (.poll id) s₀ ((({ s with toSupervisor := sup } : Init σ).say
        (.sessionSpawnFailed e)).say .sessionEnded |>.demand id .session .off) := by
      rw [← demand_suspend _ id (.session (.awaiting []))]
      exact hstep
    have harranged := Steps.requeue hended queue
    exact runDemand ((({ s with toSupervisor := sup, queue := queue } : Init σ).say
      (.sessionSpawnFailed e)).say .sessionEnded) id .session .off hs.id_lt left harranged

theorem awaitFoundation (handles : List Handle) (left : Nat)
    (hs : Doing s₀ id (.session (.awaiting handles)) s) (hledger : s.Ledger)
    (hgiven : ∀ h ∈ handles, Requested s.journal h) :
    Steps (.poll id) s₀ (s.awaitFoundation id left handles) := by
  induction handles generalizing left with
  | nil =>
    rw [Init.awaitFoundation]
    exact hs.startSession left
  | cons h handles ih =>
    obtain ⟨hfirst, hrest⟩ := List.forall_mem_cons.mp hgiven
    cases left with
    | zero => exact hs.defer
    | succ left =>
      rw [Init.awaitFoundation, outcomeAfter?_wait hledger hfirst]
      split
      next hready => exact ih left (hs.proceed (.finds hready)) hrest
      next e hfailed =>
        have hsaid := hs.say (n := .sessionRefused e) trivial
        exact hsaid.endTask (.refused ((outcomeAfter?_cons_of_ne (by simp)).trans hfailed))
      next => exact hs.suspend

/-! ## Collecting processes -/

variable {childEvent : Option Bool} {phase : ReapPhase}

theorem look (hs : Doing s₀ id (.reap childEvent phase) s) (childEvent' : Option Bool)
    (phase' : ReapPhase) : Doing s₀ id (.reap childEvent' phase') s :=
  hs.proceed .looks

theorem reapLater (hs : Doing s₀ id (.reap childEvent phase) s) (childEvent' : Option Bool)
    (failed : Bool) : Steps (.poll id) s₀ (s.reapLater id childEvent' failed) := by
  rw [Init.reapLater]
  split
  · exact (hs.look childEvent' (.failing _)).sleepUntil _
  · exact (hs.look childEvent' (.idle _)).sleepUntil _

theorem dropAlarms (hs : Doing s₀ id t s) : Doing s₀ id t (s.dropAlarms id) :=
  hs.arrange s.queue s.deferred (s.alarms.filter (·.task != id))

end Doing

theorem steps_pollReap {childEvent : Option Bool} {phase : ReapPhase} (hlt : id < s.nextTask)
    (ht : s.tasks[id]? = some (.reap childEvent phase)) :
    Steps (.poll id) s ((s.unqueue id).pollReap id childEvent phase) := by
  have hdoing : Doing s id (.reap childEvent phase) (s.unqueue id) := doing_unqueue hlt ht
  exact pollReap_induction
    (q := Doing s id (.reap childEvent phase)) (r := Steps (.poll id) s)
    (fun s' h => h.inTable (s'.toSupervisor.chores_tick s'.now))
    (fun _ childEvent' h => (h.look childEvent' .yielding).defer)
    (fun _ childEvent' failed h => h.reapLater childEvent' failed)
    (fun _ h => h.dropAlarms) (s.steps_unqueue id) hdoing childEvent phase

theorem steps_pollReport {c : Completion} (hlt : id < s.nextTask)
    (ht : s.tasks[id]? = some (.report c)) :
    Steps (.poll id) s ((s.unqueue id).pollReport id c) := by
  have hdoing : Doing s id (.report c) (s.unqueue id) := doing_unqueue hlt ht
  rw [Init.pollReport]
  split
  next status _ => exact (hdoing.remark (e := .completed c.pid status) trivial).endTask (.report c)
  next => exact s.steps_unqueue id

theorem steps_pollNetworkManager {ticket : Ticket} (hlt : id < s.nextTask)
    (ht : s.tasks[id]? = some (.watchNetworkManager ticket)) :
    Steps (.poll id) s ((s.unqueue id).pollNetworkManager id ticket) := by
  have hdoing : Doing s id (.watchNetworkManager ticket) (s.unqueue id) := doing_unqueue hlt ht
  rw [Init.pollNetworkManager]
  split
  next status _ =>
    exact (hdoing.say (n := .networkManagerEnded status) trivial).endTask (.network ticket)
  next => exact hdoing.endTask (.network ticket)
  next => exact s.steps_unqueue id

theorem Leads.steps_pollBootChain {target : Option Handle} (hs : Leads s₀ .idle s)
    (ht : s.tasks[id]? = some (.bootChain target)) :
    Steps (.poll id) s ((s.unqueue id).pollBootChain id target) := by
  have hdoing : Doing s id (.bootChain target) (s.unqueue id) :=
    doing_unqueue (hs.workflow.id_lt id _ ht) ht
  cases target with
  | some target =>
    exact hdoing.awaitBootTarget (hs.ledger.same rfl rfl rfl)
      (hs.workflow.handles id _ ht target List.mem_cons_self)
  | none =>
    have hleads : Leads s₀ .idle (s.unqueue id) :=
      hs.unqueue (fun _ _ _ h => by cases ht.symm.trans h) trivial
    have hrequested := hleads.request (s.unqueue id).config.bootTarget []
    obtain ⟨hunit, hgiven⟩ := (s.unqueue id).request_handle (s.unqueue id).config.bootTarget []
    obtain ⟨hconfig, -⟩ := request_table (s.unqueue id) (s.unqueue id).config.bootTarget []
    have hasked := hdoing.request (.target (tasks_suspend_self _ id _))
    have hhopes := hasked.proceed
      (.hopes (hunit.trans (congrArg Config.bootTarget hconfig.symm))
        (hrequested.ledger.entered hgiven))
    exact hhopes.awaitBootTarget hrequested.ledger hgiven

theorem Leads.steps_pollSession {phase : SessionPhase} (hs : Leads s₀ .idle s)
    (ht : s.tasks[id]? = some (.session phase)) :
    Steps (.poll id) s ((s.unqueue id).pollSession id phase) := by
  have hdoing : Doing s id (.session phase) (s.unqueue id) :=
    doing_unqueue (hs.workflow.id_lt id _ ht) ht
  cases phase with
  | fresh =>
    have hleads : Leads s₀ .idle (s.unqueue id) :=
      hs.unqueue (fun _ _ _ h => by cases ht.symm.trans h) trivial
    obtain ⟨hrequested, hunits, hgiven⟩ := hleads.requestAll [] (s.unqueue id).config.foundation
    have hasked := hdoing.requestAll [] (s.unqueue id).config.foundation fun s' hconfig _ d hd =>
      .foundation (tasks_suspend_self s' id _) (congrArg Config.foundation hconfig ▸ hd)
    have hconfig : ((s.unqueue id).requestAll [] (s.unqueue id).config.foundation).2.config =
        (s.unqueue id).config := hrequested.later.config.trans hleads.later.config.symm
    have hfounds := hasked.proceed
      (.founds (hunits.trans (congrArg Config.foundation hconfig.symm))
        fun h hh => hrequested.ledger.entered (hgiven h hh))
    exact hfounds.awaitFoundation _ patience hrequested.ledger hgiven
  | awaiting handles =>
    exact hdoing.awaitFoundation handles patience (hs.ledger.same rfl rfl rfl)
      (hs.workflow.handles id _ ht)
  | running ticket =>
    rw [Init.pollSession]
    split
    next hsettled =>
      have hsaid := hdoing.say (n := .sessionEnded) trivial
      exact hsaid.power (.session hsettled) patience
    next => exact s.steps_unqueue id

/-! ## Moves -/

theorem Leads.steps_pollQueued (hs : Leads s₀ .idle s) (id : TaskId) :
    Steps (.poll id) s (s.pollQueued id) := by
  have hqueue : s.pollQueued id = (s.unqueue id).poll id := rfl
  have htasks : (s.unqueue id).tasks = s.tasks := rfl
  rw [hqueue, Init.poll, htasks]
  cases ht : s.tasks[id]? with
  | none => exact s.steps_unqueue id
  | some t =>
    have hlt := hs.workflow.id_lt id t ht
    cases t with
    | start unit chain phase => exact hs.steps_pollStart ht
    | watchNetworkManager ticket => exact steps_pollNetworkManager hlt ht
    | watchSignals terminated interrupted => exact steps_pollSignals hlt ht
    | bootChain target => exact hs.steps_pollBootChain ht
    | session phase => exact hs.steps_pollSession ht
    | power state phase => exact steps_pollPower hlt ht
    | reap childEvent phase => exact steps_pollReap hlt ht
    | report c => exact steps_pollReport hlt ht

theorem steps_wakeAll {m : Move σ} (h : Steps m s s') (ids : List TaskId) :
    Steps m s (s'.wakeAll ids) := by
  obtain ⟨queue, heq, -⟩ := s'.wakeAll_eq ids
  rw [heq]
  exact Steps.requeue h queue

theorem steps_inTable {α : Type} {m : Move σ} {f : Supervisor σ → α × Supervisor σ}
    (h : Steps m s { s with toSupervisor := (f s.toSupervisor).2 }) :
    Steps m s (s.inTable f).2 := by
  obtain ⟨queue, heq, -⟩ := inTable_eq f s
  rw [heq]
  exact Steps.requeue h queue

theorem steps_deliverRaised (s : Init σ) : Steps .deliver s s.deliverRaised :=
  deliverRaised_induction (.single (.arrange _ s s.queue s.deferred s.alarms []))
    fun s' signal h => steps_wakeAll (h.tail (.mark s' signal)) _

theorem steps_ring (s : Init σ) : Steps .ring s s.ring :=
  steps_wakeAll (.single (.arrange _ s s.queue s.deferred
    (s.alarms.partition (·.deadline ≤ s.now)).2 s.raised)) _

theorem steps_boot (s : Init σ) : Steps .boot s s.boot := by
  have hbooting : Steps .boot s (s.say .booting) := .single (.remark _ s trivial)
  have hchain := hbooting.tail (.add .boot _ (t := .bootChain none) trivial)
  exact hchain.tail (.add .boot _ (t := .session .fresh) trivial)

theorem steps_spawnAndReport (s : Init σ) (command : String) :
    Steps (.spawnAndReport command) s (s.spawnAndReport command) := by
  have hspawned : Steps (.spawnAndReport command) s (s.spawnAndAwait command).2 :=
    steps_inTable (f := Supervisor.spawnAndAwait command)
      (steps_chores (.single (.spawnAndAwait s.toSupervisor command)) nofun)
  rw [Init.spawnAndReport]
  split
  next c s₁ heq =>
    rw [heq] at hspawned
    exact hspawned.tail (.add _ s₁ (t := .report c) trivial)
  next heq => rwa [heq] at hspawned

/-- Every move is made up of steps. -/
theorem Leads.steps (hs : Leads s₀ .idle s) (m : Move σ) : Steps m s (s.perform m) := by
  cases m with
  | poll id => exact hs.steps_pollQueued id
  | pass time => exact .single (.elapse s time)
  | change machine => exact .single (.change s machine)
  | raise signal =>
    exact .single (.arrange _ s s.queue s.deferred s.alarms (signal :: s.raised))
  | deliver => exact s.steps_deliverRaised
  | ring => exact s.steps_ring
  | takeBack =>
    exact .single (.arrange _ s (s.queue ++ s.deferred.reverse) [] s.alarms s.raised)
  | request unit chain => exact .single (.ask (.outside unit chain))
  | boot => exact s.steps_boot
  | watch => exact .single (.add .watch s (t := .watchSignals false false) trivial)
  | supervise childEvents =>
    exact .single (.add (.supervise childEvents) s (t := .reap _ .fresh) trivial)
  | power state => exact .single (.add (.power state) s (t := .power state .fresh) rfl)
  | powerStage state grace stage => exact .single (.powerStage s state grace stage)
  | stopRestarts => exact .single (.stopRestarts s)
  | rescue =>
    obtain ⟨queue, heq⟩ := runRescue_eq s
    rw [Init.perform, heq]
    exact Steps.requeue (.single (.rescue s)) queue
  | spawn command =>
    exact steps_inTable (f := Supervisor.spawn command)
      (steps_chores (.single (.spawn s.toSupervisor command)) nofun)
  | spawnAndReport command => exact s.steps_spawnAndReport command
  | launch unit u =>
    exact steps_inTable (f := Supervisor.launchService unit u) (.single (.launch s unit u))
  | release pid =>
    exact steps_inTable (f := fun sup => ((), sup.release pid)) (.single (.release s pid))
  | tick clock =>
    exact steps_inTable (f := Supervisor.tick clock)
      (steps_chores (s.toSupervisor.chores_tick clock) nofun)

end InitDaemon.Init
