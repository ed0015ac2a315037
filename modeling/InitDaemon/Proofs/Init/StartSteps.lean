import InitDaemon.Proofs.Init.Loops
import InitDaemon.Proofs.Init.StepEffects

/-!
# A start in steps

However far the start of a unit goes on in one poll, it does so by steps. Between two of them the
init is as if the task had come to rest at the place that it has reached.
-/

namespace InitDaemon.Init

open Std InitDaemon.Units InitDaemon.Journal

variable {σ : Type} {s₀ s s' : Init σ} {id : TaskId} {t t' : Task} {unit : String}
  {chain : List String} {phase : StartPhase} {o : Outcome}

/-! ## The place of a task -/

theorem tasks_suspend_self (s : Init σ) (id : TaskId) (t : Task) :
    (s.suspend id t).tasks[id]? = some t :=
  ExtTreeMap.getElem?_insert_self

theorem suspend_self (ht : s.tasks[id]? = some t) : s.suspend id t = s := by
  have htasks : s.tasks.insert id t = s.tasks := by
    refine ExtTreeMap.ext_getElem? fun c => ?_
    rw [getElem?_insert_task]
    split
    next heq => rw [← heq, ht]
    next => rfl
  rw [Init.suspend, htasks]

theorem suspend_suspend (s : Init σ) (id : TaskId) (t t' : Task) :
    (s.suspend id t).suspend id t' = s.suspend id t' := by
  have htasks : (s.tasks.insert id t).insert id t' = s.tasks.insert id t' := by
    refine ExtTreeMap.ext_getElem? fun c => ?_
    simp only [getElem?_insert_task]
    split <;> rfl
  simp only [Init.suspend, htasks]

theorem endTask_suspend (s : Init σ) (id : TaskId) (t : Task) :
    (s.suspend id t).endTask id = s.endTask id := by
  have htasks : (s.tasks.insert id t).erase id = s.tasks.erase id := by
    refine ExtTreeMap.ext_getElem? fun c => ?_
    simp only [getElem?_insert_task, getElem?_erase_task]
    split <;> rfl
  simp only [Init.suspend, Init.endTask, htasks]

theorem addTask_suspend (hlt : id < s.nextTask) (t t' : Task) :
    (s.suspend id t).addTask t' = (s.addTask t').suspend id t := by
  have htasks : (s.tasks.insert id t).insert s.nextTask t' =
      (s.tasks.insert s.nextTask t').insert id t := by
    refine ExtTreeMap.ext_getElem? fun c => ?_
    simp only [getElem?_insert_task]
    split
    next heq => rw [if_neg (Nat.ne_of_lt (heq ▸ hlt))]
    next => rfl
  simp only [Init.suspend, Init.addTask, htasks]

/-- A request does not look at the tasks. -/
theorem request_suspend (hlt : id < s.nextTask) (t : Task) (unit : String) (chain : List String) :
    (s.suspend id t).request unit chain =
      ((s.request unit chain).1, (s.request unit chain).2.suspend id t) := by
  have hsubscribe : (s.suspend id t).readiness = s.readiness := rfl
  have hrejection : (s.suspend id t).rejection? unit chain = s.rejection? unit chain := rfl
  simp only [Init.request, Init.enter, hsubscribe, hrejection]
  split
  next => rfl
  next =>
    cases s.rejection? unit chain with
    | some e => rfl
    | none =>
      refine congrArg (Prod.mk _) ?_
      exact addTask_suspend (s := s.entering unit chain none) hlt t (.start unit chain .fresh)

theorem request_table (s : Init σ) (unit : String) (chain : List String) :
    (s.request unit chain).2.config = s.config ∧ (s.request unit chain).2.graph = s.graph := by
  simp only [Init.request, Init.enter]
  split
  next => exact ⟨rfl, rfl⟩
  next => cases s.rejection? unit chain <;> exact ⟨rfl, rfl⟩

theorem nextTask_request (s : Init σ) (unit : String) (chain : List String) :
    s.nextTask ≤ (s.request unit chain).2.nextTask := by
  simp only [Init.request, Init.enter]
  split
  next => exact Nat.le_refl _
  next =>
    cases s.rejection? unit chain with
    | some e => exact Nat.le_refl _
    | none => exact Nat.le_succ _

/-- Only whom the outcome wakes depends on the place of the task that ends. -/
theorem resolve_suspend (s : Init σ) (id : TaskId) (t : Task) (unit : String) (o : Outcome) :
    ∃ queue, (s.resolve unit o).endTask id =
      { ((s.suspend id t).resolve unit o).endTask id with queue := queue } := by
  have hreadiness : (s.suspend id t).readiness = s.readiness := rfl
  rw [resolve, resolve, hreadiness]
  cases s.readiness.senders[unit]? with
  | none =>
    refine ⟨s.queue, ?_⟩
    dsimp only
    rw [endTask_suspend]
    rfl
  | some channel =>
    obtain ⟨queue, heq, -⟩ := wakeAll_eq
      ({ s with readiness := s.readiness.send channel o }.note (.resolved unit o))
      (tasksWhere ({ s with readiness := s.readiness.send channel o }.note (.resolved unit o))
        (awaits channel))
    obtain ⟨queue', heq', -⟩ := wakeAll_eq
      ({ s.suspend id t with readiness := s.readiness.send channel o }.note (.resolved unit o))
      (tasksWhere
        ({ s.suspend id t with readiness := s.readiness.send channel o }.note (.resolved unit o))
        (awaits channel))
    refine ⟨queue, ?_⟩
    dsimp only
    rw [heq, heq']
    exact congrArg (fun s : Init σ => { s with queue := queue }) (endTask_suspend
      ({ s with readiness := s.readiness.send channel o }.note (.resolved unit o)) id t).symm

theorem conclude_suspend (s : Init σ) (id : TaskId) (t : Task) (unit : String) (o : Outcome) :
    ∃ queue, s.conclude id unit o = { (s.suspend id t).conclude id unit o with queue := queue } := by
  cases o with
  | ok => exact resolve_suspend s id t unit _
  | error e => exact resolve_suspend (s.say (.startFailed unit e)) id t unit _

variable [Platform σ]

/-! ## Steps of a poll -/

/-- The task has come to a place by steps. -/
structure Doing (s₀ : Init σ) (id : TaskId) (t : Task) (s : Init σ) : Prop where
  steps : Steps (.poll id) s₀ (s.suspend id t)
  id_lt : id < s.nextTask

namespace Doing

theorem of_eq {α : Type} {a : α} {p : α × Init σ} (hs : Doing s₀ id t p.2) (heq : p = (a, s')) :
    Doing s₀ id t s' := by
  rwa [heq] at hs

theorem arrange (hs : Doing s₀ id t s) (queue deferred : List TaskId) (alarms : List Alarm) :
    Doing s₀ id t { s with queue := queue, deferred := deferred, alarms := alarms } :=
  ⟨hs.steps.tail (.arrange _ (s.suspend id t) queue deferred alarms s.raised), hs.id_lt⟩

theorem remark (hs : Doing s₀ id t s) {e : Entry} (he : e.IsRemark) : Doing s₀ id t (s.note e) :=
  ⟨hs.steps.tail (.remark _ (s.suspend id t) he), hs.id_lt⟩

theorem say (hs : Doing s₀ id t s) {n : Notice} (hn : n.IsRemark) : Doing s₀ id t (s.say n) :=
  hs.remark (e := .notice n) hn

theorem host (hs : Doing s₀ id t s) (hrunning : s.stopping = false) (step : HostStep) :
    Doing s₀ id t (s.host step).2 :=
  ⟨hs.steps.tail (.host (s.suspend id t) id step hrunning), hs.id_lt⟩

theorem there (_ : Doing s₀ id t s) (id' : TaskId) (hm : Move.poll (σ := σ) id = .poll id') :
    ∃ t', (s.suspend id t).tasks[id']? = some t' := by
  cases hm
  exact ⟨t, tasks_suspend_self s id t⟩

theorem inTable {α : Type} {f : Supervisor σ → α × Supervisor σ} (hs : Doing s₀ id t s)
    (h : s.toSupervisor.Chores (f s.toSupervisor).2) : Doing s₀ id t (s.inTable f).2 := by
  obtain ⟨queue, heq, -⟩ := inTable_eq f s
  rw [heq]
  have hdone : Doing s₀ id t { s with toSupervisor := (f s.toSupervisor).2 } :=
    ⟨hs.steps.trans (steps_chores (s := s.suspend id t) h hs.there), hs.id_lt⟩
  exact hdone.arrange queue s.deferred s.alarms

theorem spawnAndAwait (hs : Doing s₀ id t s) (command : String) :
    Doing s₀ id t (s.spawnAndAwait command).2 :=
  hs.inTable (.single (.spawnAndAwait s.toSupervisor command))

theorem addTask (hs : Doing s₀ id t s) (t' : Task) (h : Move.Adds (σ := σ) (.poll id) t') :
    Doing s₀ id t (s.addTask t') := by
  have hstep := hs.steps.tail (.add (.poll id) (s.suspend id t) h)
  rw [addTask_suspend hs.id_lt] at hstep
  exact ⟨hstep, Nat.lt_succ_of_lt hs.id_lt⟩

theorem request (hs : Doing s₀ id t s) (h : (s.suspend id t).Wants (.poll id) unit chain) :
    Doing s₀ id t (s.request unit chain).2 := by
  have hstep := hs.steps.tail (.ask h)
  rw [request_suspend hs.id_lt] at hstep
  exact ⟨hstep, Nat.lt_of_lt_of_le hs.id_lt (nextTask_request s unit chain)⟩

theorem proceed (hs : Doing s₀ id t s) (h : (s.suspend id t).Proceeds t t') :
    Doing s₀ id t' s := by
  have hstep := hs.steps.tail (.proceed (tasks_suspend_self s id t) h)
  rw [suspend_suspend] at hstep
  exact ⟨hstep, hs.id_lt⟩

/-! ### Coming to rest -/

theorem suspend (hs : Doing s₀ id t s) : Steps (.poll id) s₀ (s.suspend id t) :=
  hs.steps

theorem defer (hs : Doing s₀ id t s) : Steps (.poll id) s₀ (s.defer id t) :=
  hs.steps.tail (.arrange _ (s.suspend id t) s.queue (s.deferred ++ [id]) s.alarms s.raised)

theorem sleepUntil (hs : Doing s₀ id t s) (deadline : Nat) :
    Steps (.poll id) s₀ (s.sleepUntil id deadline t) :=
  hs.steps.tail (.arrange _ (s.suspend id t) s.queue s.deferred (s.alarms ++ [⟨deadline, id⟩])
    s.raised)

theorem endTask (hs : Doing s₀ id t s) (h : (s.suspend id t).Leaves t) :
    Steps (.poll id) s₀ (s.endTask id) := by
  have hstep := hs.steps.tail (.leave (tasks_suspend_self s id t) h)
  rwa [endTask_suspend] at hstep

theorem refuse {e : StartError} (hs : Doing s₀ id (.start unit chain phase) s)
    (h : (s.suspend id (.start unit chain phase)).Refuses unit phase e) :
    Steps (.poll id) s₀ (s.conclude id unit (.error e)) := by
  have hstep := hs.steps.tail (.refuse (tasks_suspend_self s id _) h)
  obtain ⟨queue, heq⟩ := s.conclude_suspend id (.start unit chain phase) unit (.error e)
  rw [heq]
  exact Steps.requeue hstep queue

end Doing

namespace Doing

theorem begun (hs : Doing s₀ id t s) (hbegun : Begun s₀.journal unit) : Begun s.journal unit :=
  hbegun.mono (Steps.continues hs.steps).journal

theorem act (hs : Doing s₀ id (.start unit chain phase) s) (hbegun : Begun s₀.journal unit)
    (phase' : StartPhase) (hacting : phase'.IsActing) :
    Doing s₀ id (.start unit chain phase') s :=
  hs.proceed (.acts (hs.begun hbegun) hacting)

theorem endAction (hs : Doing s₀ id (.start unit chain phase) s) (hbegun : Begun s₀.journal unit)
    (o : Outcome) : Steps (.poll id) s₀ (s.endAction id unit o) := by
  have hstep := hs.steps.tail (.finish (tasks_suspend_self s id _) (hs.begun hbegun) o)
  obtain ⟨queue, heq⟩ :=
    (s.note (.acted unit o)).conclude_suspend id (.start unit chain phase) unit o
  rw [Init.endAction, heq]
  exact Steps.requeue hstep queue

/-! ### Own actions -/

section

variable (hs : Doing s₀ id (.start unit chain phase) s) (hbegun : Begun s₀.journal unit)

omit hs hbegun in
theorem ensureAll (hs : Doing s₀ id t s) (hrunning : s.stopping = false) (paths : List String) :
    Doing s₀ id t (s.ensureAll paths).2 :=
  (ensureAll_induction (q := fun s => Doing s₀ id t s ∧ s.stopping = false)
    (fun _ _ h => ⟨h.1.host h.2 _, h.2⟩) ⟨hs, hrunning⟩ paths).1

omit hs hbegun in
theorem ensureEach (hs : Doing s₀ id t s) (hrunning : s.stopping = false) (paths : List String) :
    Doing s₀ id t (s.ensureEach paths) :=
  (ensureEach_induction (q := fun s => Doing s₀ id t s ∧ s.stopping = false)
    (fun _ _ h => ⟨h.1.host h.2 _, h.2⟩) (fun _ _ _ h => ⟨h.1.say trivial, h.2⟩)
    ⟨hs, hrunning⟩ paths).1

include hs hbegun

theorem beginBus (hrunning : s.stopping = false) :
    Steps (.poll id) s₀ (s.beginBus id unit chain) := by
  have hensured := hs.ensureAll hrunning busDirectories
  rw [Init.beginBus]
  split
  next heq => exact (hensured.of_eq heq).endAction hbegun _
  next heq =>
    have hspawned := (hensured.of_eq heq).spawnAndAwait uuidgenCommand
    split
    next heq' => exact (hspawned.of_eq heq').endAction hbegun _
    next c _ heq' =>
      exact ((hspawned.of_eq heq').act hbegun (.makingMachineId c.ticket) trivial).suspend

omit hbegun in
theorem judgeMachineId (status : Option ExitStatus) :
    Doing s₀ id (.start unit chain phase) (s.judgeMachineId status) :=
  judgeMachineId_induction (fun _ h => h.say trivial) (fun _ _ h => h.say trivial) hs status

theorem startBus (status : Option ExitStatus) :
    Steps (.poll id) s₀ (s.startBus id unit chain status) := by
  have hspawned := (hs.judgeMachineId status).spawnAndAwait busCommand
  rw [Init.startBus]
  split
  next heq => exact (hspawned.of_eq heq).endAction hbegun _
  next c _ heq =>
    exact ((hspawned.of_eq heq).act hbegun (.startingBus c.ticket) trivial).suspend

theorem finishBus (status : Option ExitStatus) :
    Steps (.poll id) s₀ (s.finishBus id unit status) := by
  cases status with
  | none => exact hs.endAction hbegun _
  | some status =>
    rw [Init.finishBus]
    split
    · exact (hs.say (n := .busUp) trivial).endAction hbegun _
    · exact hs.endAction hbegun _

theorem startNetworkManager : Steps (.poll id) s₀ (s.startNetworkManager id unit) := by
  have hspawned := hs.spawnAndAwait networkManagerCommand
  rw [Init.startNetworkManager]
  split
  next heq => exact (hspawned.of_eq heq).endAction hbegun _
  next c s₁ heq =>
    have hsaid := (hspawned.of_eq heq).say (n := .networkManagerStarted c.pid) trivial
    have hwatched := hsaid.addTask (.watchNetworkManager c.ticket) trivial
    exact hwatched.endAction hbegun _

omit hbegun in
/-- No shutdown begins while `elogind` is started. -/
theorem startElogind (hrunning : s.stopping = false) :
    Doing s₀ id (.start unit chain phase) s.startElogind.2 ∧ s.startElogind.2.stopping = false := by
  refine startElogind_induction
    (q := fun s => Doing s₀ id (.start unit chain phase) s ∧ s.stopping = false)
    (fun _ _ h => ⟨h.1.host h.2 _, h.2⟩) (fun _ h => ⟨h.1.say trivial, h.2⟩) ?_
    (fun _ _ h => ⟨h.1.say trivial, h.2⟩) ⟨hs, hrunning⟩
  rintro s path ⟨hdoing, hstill⟩
  refine ⟨hdoing.inTable (.single (.spawn s.toSupervisor path)), ?_⟩
  obtain ⟨queue, hin, -⟩ := inTable_eq (Supervisor.spawn path) s
  rw [hin]
  exact (Supervisor.stopping_spawn path s.toSupervisor).trans hstill

theorem startUserSessions (hrunning : s.stopping = false) :
    Steps (.poll id) s₀ (s.startUserSessions id unit) := by
  have helogind := hs.startElogind hrunning
  rw [Init.startUserSessions]
  split
  next heq =>
    rw [heq] at helogind
    exact (helogind.1.ensureEach helogind.2 sessionDirectories).endAction hbegun _
  next heq =>
    rw [heq] at helogind
    exact helogind.1.endAction hbegun _

theorem runBuiltin (hrunning : s.stopping = false) (b : Builtin) :
    Steps (.poll id) s₀ (s.runBuiltin id unit chain b) := by
  cases b with
  | mounts => exact (hs.host hrunning .mountAll).endAction hbegun _
  | network => exact (hs.host hrunning .startNetwork).endAction hbegun _
  | hostname => exact (hs.host hrunning .setHostname).endAction hbegun _
  | dbus => exact hs.beginBus hbegun hrunning
  | networkManager => exact hs.startNetworkManager hbegun
  | userSessions => exact hs.startUserSessions hbegun hrunning
  | plymouthQuit => exact hs.endAction hbegun _

theorem letSettle (deadline : Nat) :
    Steps (.poll id) s₀ (s.letSettle id unit chain deadline) := by
  rw [Init.letSettle]
  split
  · exact (hs.act hbegun (.settling deadline) trivial).sleepUntil deadline
  · exact hs.endAction hbegun _

theorem startService (hrunning : s.stopping = false) (u : UnitDef) (left : Nat) :
    Steps (.poll id) s₀ (s.startService id unit chain u left) := by
  have hlaunched := hs.inTable (f := Supervisor.launchService unit u)
    (Supervisor.chores_launchService unit u hrunning)
  rw [Init.startService]
  split
  next heq => exact (hlaunched.of_eq heq).endAction hbegun _
  next heq => exact (hlaunched.of_eq heq).endAction hbegun _
  next heq =>
    dsimp only
    split
    · exact ((hlaunched.of_eq heq).act hbegun (.started _) trivial).defer
    · exact (hlaunched.of_eq heq).letSettle hbegun _

end

/-! ### Waiting for dependencies -/

theorem beginAction (hs : Doing s₀ id (.start unit chain (.awaiting [])) s) (u : UnitDef)
    (left : Nat) : Steps (.poll id) s₀ (s.beginAction id unit chain u left) := by
  rw [Init.beginAction]
  split
  next hstopping => exact hs.refuse (.shutdown hstopping)
  next hstopping =>
    have hrunning : s.stopping = false := by simpa using hstopping
    have hsaid := hs.say (n := .starting unit chain) trivial
    have hbegan := hsaid.steps.tail (.begin (tasks_suspend_self _ id _) hrunning)
    -- From here on the steps are counted from the beginning of the action.
    have hacting : Doing (((s.say (.starting unit chain)).note (.began unit)).suspend id
        (.start unit chain (.awaiting []))) id (.start unit chain (.awaiting []))
        ((s.say (.starting unit chain)).note (.began unit)) := ⟨.refl, hs.id_lt⟩
    have hbegun : Begun (((s.say (.starting unit chain)).note (.began unit)).suspend id
        (.start unit chain (.awaiting []))).journal unit := begun_cons.mpr (.inl rfl)
    refine hbegan.trans ?_
    dsimp only
    split
    next b _ => exact hacting.runBuiltin hbegun hrunning b
    next => exact hacting.startService hbegun hrunning u left

omit [Platform σ] in
theorem outcomeAfter?_wait {h : Handle} (hledger : s.Ledger) (hgiven : Requested s.journal h) :
    s.readiness.wait? h = outcomeAfter? s.journal h.unit := by
  rw [hledger.wait? hgiven, hledger.outcome]

theorem awaitDependencies (handles : List Handle) (left : Nat)
    (hs : Doing s₀ id (.start unit chain (.awaiting handles)) s) (hledger : s.Ledger)
    (hgiven : ∀ h ∈ handles, Requested s.journal h) (u : UnitDef) :
    Steps (.poll id) s₀ (s.awaitDependencies id unit chain u left handles) := by
  induction handles generalizing left with
  | nil =>
    rw [Init.awaitDependencies]
    exact hs.beginAction u left
  | cons h handles ih =>
    obtain ⟨hfirst, hrest⟩ := List.forall_mem_cons.mp hgiven
    cases left with
    | zero => exact hs.defer
    | succ left =>
      rw [Init.awaitDependencies, outcomeAfter?_wait hledger hfirst]
      split
      next hready => exact ih left (hs.proceed (.passes hready)) hrest
      next hfailed => exact hs.refuse (.dependency hfailed)
      next => exact hs.suspend

/-! ### Requests -/

theorem requestAll (chain : List String) (units : List String) (hs : Doing s₀ id t s)
    (hwants : ∀ s' : Init σ, s'.config = s.config → s'.graph = s.graph → ∀ d ∈ units,
      (s'.suspend id t).Wants (.poll id) d chain) :
    Doing s₀ id t (s.requestAll chain units).2 := by
  induction units generalizing s with
  | nil => exact hs
  | cons unit units ih =>
    rw [Init.requestAll]
    refine ih (hs.request (hwants s rfl rfl unit List.mem_cons_self)) fun s' hconfig hgraph d hd => ?_
    obtain ⟨hconfig', hgraph'⟩ := request_table s unit chain
    exact hwants s' (hconfig.trans hconfig') (hgraph.trans hgraph') d (List.mem_cons_of_mem _ hd)

end Doing

theorem doing_unqueue (hlt : id < s.nextTask) (ht : s.tasks[id]? = some t) :
    Doing s id t (s.unqueue id) := by
  refine ⟨?_, hlt⟩
  have hself : (s.unqueue id).suspend id t = s.unqueue id := suspend_self ht
  rw [hself]
  exact .single (.arrange _ s (s.queue.erase id) s.deferred s.alarms s.raised)

theorem steps_unqueue (s : Init σ) (id : TaskId) : Steps (.poll id) s (s.unqueue id) :=
  .single (.arrange _ s (s.queue.erase id) s.deferred s.alarms s.raised)

/-! ## The start of a unit -/

theorem Leads.steps_pollStart (hs : Leads s₀ .idle s)
    (ht : s.tasks[id]? = some (.start unit chain phase)) :
    Steps (.poll id) s ((s.unqueue id).pollStart id unit chain phase) := by
  have hstarts : s.Starts id unit := ⟨chain, phase, ht⟩
  obtain ⟨-, -, ⟨u, hu⟩, -⟩ := hs.workflow.pending id unit hstarts
  obtain ⟨hstage, -⟩ := hs.workflow.phase id unit chain phase ht (by simp [Focus.task?])
  have hdoing : Doing s id (.start unit chain phase) (s.unqueue id) :=
    doing_unqueue (hs.workflow.id_lt id _ ht) ht
  have hu₁ : (s.unqueue id).graph.get? unit = some u := hu
  cases phase with
  | fresh =>
    have hstarting : Leads s₀ (.starting id unit) (s.unqueue id) :=
      hs.unqueue (fun _ _ _ _ => .inl rfl) ⟨hstarts, hstage⟩
    obtain ⟨hrequested, hunits, hgiven⟩ :=
      hstarting.requestAll (unit :: chain) u.dependencies.toList
    have hasked := hdoing.requestAll (unit :: chain) u.dependencies.toList
      fun s' _ hgraph d hd => .dependency (tasks_suspend_self s' id _) (hgraph ▸ hu₁) (by simpa using hd)
    have hu₂ : ((s.unqueue id).requestAll (unit :: chain) u.dependencies.toList).2.graph.get? unit =
        some u := by
      rw [hrequested.graph_eq, ← hs.graph_eq, hu]
    have hentered : ∀ h ∈ ((s.unqueue id).requestAll (unit :: chain) u.dependencies.toList).1,
        ((s.unqueue id).requestAll (unit :: chain) u.dependencies.toList).2.Entered h.unit :=
      fun h hh => hrequested.ledger.entered (hgiven h hh)
    simp only [Init.pollStart, hu₁]
    exact (hasked.proceed (.waits hu₂ hunits hentered)).awaitDependencies _ patience
      hrequested.ledger hgiven u
  | awaiting handles =>
    simp only [Init.pollStart, hu₁]
    exact hdoing.awaitDependencies handles patience (hs.ledger.same rfl rfl rfl)
      (hs.workflow.handles id _ ht) u
  | started deadline => exact hdoing.letSettle hstage.1 deadline
  | settling deadline =>
    rw [Init.pollStart]
    split
    · exact s.steps_unqueue id
    · exact hdoing.endAction hstage.1 _
  | makingMachineId ticket =>
    rw [Init.pollStart]
    split
    · exact hdoing.startBus hstage.1 _
    · exact s.steps_unqueue id
  | startingBus ticket =>
    rw [Init.pollStart]
    split
    · exact hdoing.finishBus hstage.1 _
    · exact s.steps_unqueue id

end InitDaemon.Init
