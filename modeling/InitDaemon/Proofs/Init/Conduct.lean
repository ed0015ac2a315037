import InitDaemon.Proofs.Init.Runs
import InitDaemon.Proofs.Process.Deeds

/-!
# The conduct of start tasks

Whatever a start task does comes down to deeds on the process table. Its own action begins, and
launches the service, only while no shutdown has begun. All that it spawns later is the daemon of
the message bus, once the machine id has been made.
-/

namespace InitDaemon

open Std InitDaemon.Units InitDaemon.Journal Supervisor

/-- What a task goes on to spawn even if a shutdown begins meanwhile. -/
def Task.owed (config : Config) : Task → List String
  | .start _ _ (.makingMachineId _) => [Init.busCommand]
  | .bootChain _ => [config.rescue]
  | .session .fresh | .session (.awaiting _) => [config.session]
  | _ => []

namespace Init

variable {σ : Type} [Platform σ] {allowed : String → Prop} {s₀ s s' : Init σ} {unit : String}
  {chain : List String}

/-- What comes of an init by deeds, and by tasks that owe only what is allowed. While no shutdown
has begun all is allowed. -/
structure Does (allowed : String → Prop) (s s' : Init σ) : Prop where
  deeds : Deeds allowed s.toSupervisor s'.toSupervisor
  owed : ∀ (id : TaskId) t, s'.tasks[id]? = some t → ∀ command ∈ t.owed s.config, allowed command
  free : s.stopping = false → ∀ command, allowed command

namespace Does

theorem of_eq {α : Type} {a : α} {p : α × Init σ} (hs : s₀.Does allowed p.2) (heq : p = (a, s')) :
    s₀.Does allowed s' := by
  rwa [heq] at hs

theorem config (hs : s₀.Does allowed s) : s.config = s₀.config :=
  hs.deeds.settings.1

theorem allows (hs : s₀.Does allowed s) (hrunning : s.stopping = false) (command : String) :
    allowed command := by
  cases hstopping : s₀.stopping with
  | false => exact hs.free hstopping command
  | true => cases (hs.deeds.settings.2 hstopping).symm.trans hrunning

theorem deed (hs : s₀.Does allowed s) (h : Deed allowed s.toSupervisor s'.toSupervisor)
    (htasks : s'.tasks = s.tasks) : s₀.Does allowed s' :=
  ⟨.tail hs.deeds h, htasks ▸ hs.owed, hs.free⟩

theorem world {w : World σ} (hs : s₀.Does allowed s) (h : s.toWorld.Idles w) :
    s₀.Does allowed { s with toWorld := w } :=
  hs.deed (.idle ⟨h, rfl, rfl, rfl, rfl, id⟩) rfl

theorem note (hs : s₀.Does allowed s) (e : Entry) (he : e.IsAside) : s₀.Does allowed (s.note e) :=
  hs.world (World.idles_note _ e he)

theorem say (hs : s₀.Does allowed s) (n : Notice) (hn : (Entry.notice n).IsAside) :
    s₀.Does allowed (s.say n) :=
  hs.note (.notice n) hn

/-! ## Tasks -/

theorem insertTask (hs : s₀.Does allowed s) (id : TaskId) (t : Task)
    (ht : ∀ command ∈ t.owed s₀.config, allowed command) :
    s₀.Does allowed { s with tasks := s.tasks.insert id t } := by
  refine ⟨hs.deeds, fun id' t' ht' => ?_, hs.free⟩
  rw [getElem?_insert_task] at ht'
  split at ht'
  · cases ht'
    exact ht
  · exact hs.owed id' t' ht'

theorem endTask (hs : s₀.Does allowed s) (id : TaskId) : s₀.Does allowed (s.endTask id) := by
  refine ⟨hs.deeds, fun id' t' ht' => ?_, hs.free⟩
  rw [Init.endTask, getElem?_erase_task] at ht'
  split at ht'
  · cases ht'
  · exact hs.owed id' t' ht'

/-- Queues and alarms do not matter. -/
theorem of_fields (hs : s₀.Does allowed s) (htable : s'.toSupervisor = s.toSupervisor)
    (htasks : s'.tasks = s.tasks) : s₀.Does allowed s' :=
  ⟨htable ▸ hs.deeds, htasks ▸ hs.owed, hs.free⟩

theorem addTask (hs : s₀.Does allowed s) (t : Task)
    (ht : ∀ command ∈ t.owed s₀.config, allowed command) : s₀.Does allowed (s.addTask t) :=
  (hs.insertTask s.nextTask t ht).of_fields rfl rfl

theorem suspend (hs : s₀.Does allowed s) (id : TaskId) (t : Task)
    (ht : ∀ command ∈ t.owed s₀.config, allowed command) : s₀.Does allowed (s.suspend id t) :=
  hs.insertTask id t ht

theorem defer (hs : s₀.Does allowed s) (id : TaskId) (t : Task)
    (ht : ∀ command ∈ t.owed s₀.config, allowed command) : s₀.Does allowed (s.defer id t) :=
  (hs.insertTask id t ht).of_fields rfl rfl

theorem sleepUntil (hs : s₀.Does allowed s) (id : TaskId) (deadline : Nat) (t : Task)
    (ht : ∀ command ∈ t.owed s₀.config, allowed command) :
    s₀.Does allowed (s.sleepUntil id deadline t) :=
  (hs.insertTask id t ht).of_fields rfl rfl

theorem wakeAll (hs : s₀.Does allowed s) (ids : List TaskId) : s₀.Does allowed (s.wakeAll ids) := by
  obtain ⟨queue, heq, -⟩ := s.wakeAll_eq ids
  rw [heq]
  exact hs.of_fields rfl rfl

/-! ## The process table -/

theorem inTable {α : Type} {f : Supervisor σ → α × Supervisor σ} (hs : s₀.Does allowed s)
    (h : Deed allowed s.toSupervisor (f s.toSupervisor).2) : s₀.Does allowed (s.inTable f).2 := by
  obtain ⟨queue, heq, -⟩ := inTable_eq f s
  rw [heq]
  exact hs.deed h rfl

theorem spawn (hs : s₀.Does allowed s) (command : String) (h : allowed command) :
    s₀.Does allowed (s.inTable (Supervisor.spawn command)).2 :=
  hs.inTable (.spawn s.toSupervisor command h)

theorem spawnAndAwait (hs : s₀.Does allowed s) (command : String) (h : allowed command) :
    s₀.Does allowed (s.spawnAndAwait command).2 :=
  hs.inTable (.spawnAndAwait s.toSupervisor command h)

/-! ## Requests -/

theorem resolve (hs : s₀.Does allowed s) (unit : String) (o : Outcome) :
    s₀.Does allowed (s.resolve unit o) := by
  rw [Init.resolve]
  split
  next => exact hs
  next channel _ =>
    have hsent : s₀.Does allowed { s with readiness := s.readiness.send channel o } :=
      hs.of_fields rfl rfl
    exact (hsent.note (.resolved unit o) trivial).wakeAll _

theorem request (hs : s₀.Does allowed s) (unit : String) (chain : List String) :
    s₀.Does allowed (s.request unit chain).2 := by
  rw [Init.request]
  split
  next h _ => exact hs.note (.requested h chain) trivial
  next =>
    rw [Init.enter]
    have hentered : s₀.Does allowed
        (s.entering unit chain ((s.rejection? unit chain).map .error)) :=
      (hs.note (.requested ⟨unit, s.readiness.next⟩ chain) trivial).of_fields rfl rfl
    cases hrejected : s.rejection? unit chain with
    | some e =>
      rw [hrejected] at hentered
      exact (hentered.note (.resolved unit (.error e)) trivial).say (.rejected e) trivial
    | none =>
      rw [hrejected] at hentered
      exact hentered.addTask _ (List.forall_mem_nil _)

theorem requestAll (hs : s₀.Does allowed s) (chain : List String) (units : List String) :
    s₀.Does allowed (s.requestAll chain units).2 :=
  requestAll_induction (fun _ unit _ h => h.request unit chain) hs

omit [Platform σ] in
theorem graph_requestAll (chain : List String) (units : List String) (s : Init σ) :
    (s.requestAll chain units).2.graph = s.graph := by
  refine requestAll_induction (q := fun s' => s'.graph = s.graph) (fun s' unit _ h => ?_) rfl
  have hfirst : (s'.request unit chain).2.graph = s'.graph := by
    rw [Init.request]
    split
    next => rfl
    next =>
      rw [Init.enter]
      cases s'.rejection? unit chain <;> rfl
  exact hfirst.trans h

/-! ## Starts -/

theorem conclude (hs : s₀.Does allowed s) (id : TaskId) (unit : String) (o : Outcome) :
    s₀.Does allowed (s.conclude id unit o) := by
  cases o with
  | ok => exact (hs.resolve unit (.ok ())).endTask id
  | error e => exact ((hs.say (.startFailed unit e) trivial).resolve unit (.error e)).endTask id

theorem endAction (hs : s₀.Does allowed s) (id : TaskId) (unit : String) (o : Outcome) :
    s₀.Does allowed (s.endAction id unit o) :=
  (hs.note (.acted unit o) trivial).conclude id unit o

theorem judgeMachineId (hs : s₀.Does allowed s) (status : Option ExitStatus) :
    s₀.Does allowed (s.judgeMachineId status) :=
  judgeMachineId_induction (fun _ h => h.say .uuidgenNotReaped trivial)
    (fun _ status h => h.say (.uuidgenEnded status) trivial) hs status

theorem startBus (hs : s₀.Does allowed s) (hbus : allowed busCommand) (id : TaskId) (unit : String)
    (chain : List String) (status : Option ExitStatus) :
    s₀.Does allowed (s.startBus id unit chain status) := by
  have hspawned := (hs.judgeMachineId status).spawnAndAwait busCommand hbus
  rw [Init.startBus]
  split
  next heq => exact (hspawned.of_eq heq).endAction id unit _
  next c s₁ heq =>
    exact (hspawned.of_eq heq).suspend id (.start unit chain (.startingBus c.ticket))
      (List.forall_mem_nil _)

theorem finishBus (hs : s₀.Does allowed s) (id : TaskId) (unit : String)
    (status : Option ExitStatus) : s₀.Does allowed (s.finishBus id unit status) := by
  cases status with
  | none => exact hs.endAction id unit _
  | some status =>
    rw [Init.finishBus]
    split
    · exact (hs.say .busUp trivial).endAction id unit _
    · exact hs.endAction id unit _

theorem startNetworkManager (hs : s₀.Does allowed s) (hall : ∀ command, allowed command)
    (id : TaskId) (unit : String) : s₀.Does allowed (s.startNetworkManager id unit) := by
  have hspawned := hs.spawnAndAwait networkManagerCommand (hall _)
  rw [Init.startNetworkManager]
  split
  next heq => exact (hspawned.of_eq heq).endAction id unit _
  next c s₁ heq =>
    have hsaid := (hspawned.of_eq heq).say (.networkManagerStarted c.pid) trivial
    have hwatched := hsaid.addTask (.watchNetworkManager c.ticket) (List.forall_mem_nil _)
    exact hwatched.endAction id unit (.ok ())

theorem letSettle (hs : s₀.Does allowed s) (id : TaskId) (unit : String) (chain : List String)
    (deadline : Nat) : s₀.Does allowed (s.letSettle id unit chain deadline) := by
  rw [Init.letSettle]
  split
  · exact hs.sleepUntil id deadline _ (List.forall_mem_nil _)
  · exact hs.endAction id unit (.ok ())

theorem startService {u : UnitDef} (hs : s₀.Does allowed s) (hu : s.graph.get? unit = some u)
    (hrunning : s.stopping = false) (id : TaskId) (chain : List String) (patience : Nat) :
    s₀.Does allowed ((s.note (.began unit)).startService id unit chain u patience) := by
  have hlaunched : s₀.Does allowed
      ((s.note (.began unit)).inTable (Supervisor.launchService unit u)).2 := by
    obtain ⟨queue, heq, -⟩ := inTable_eq (Supervisor.launchService unit u) (s.note (.began unit))
    rw [heq]
    exact hs.deed (.begin s.toSupervisor unit u hu hrunning) rfl
  rw [Init.startService]
  split
  next heq => exact (hlaunched.of_eq heq).endAction id unit _
  next heq => exact (hlaunched.of_eq heq).endAction id unit (.ok ())
  next s₁ heq =>
    dsimp only
    split
    · exact (hlaunched.of_eq heq).defer id _ (List.forall_mem_nil _)
    · exact (hlaunched.of_eq heq).letSettle id unit chain _

/-! ## Built-in actions -/

section

variable [QuietSetup σ]

theorem host (hs : s₀.Does allowed s) (step : HostStep) : s₀.Does allowed (s.host step).2 :=
  hs.world (World.idles_host step _)

theorem ensureAll (hs : s₀.Does allowed s) (paths : List String) :
    s₀.Does allowed (s.ensureAll paths).2 :=
  ensureAll_induction (fun _ _ h => h.host _) hs paths

theorem ensureEach (hs : s₀.Does allowed s) (paths : List String) :
    s₀.Does allowed (s.ensureEach paths) :=
  ensureEach_induction (fun _ _ h => h.host _)
    (fun _ path e h => h.say (.directorySkipped path e) trivial) hs paths

theorem beginBus (hs : s₀.Does allowed s) (hall : ∀ command, allowed command) (id : TaskId)
    (unit : String) (chain : List String) : s₀.Does allowed (s.beginBus id unit chain) := by
  have hensured := hs.ensureAll busDirectories
  rw [Init.beginBus]
  split
  next heq => exact (hensured.of_eq heq).endAction id unit _
  next s₁ heq =>
    have hspawned := (hensured.of_eq heq).spawnAndAwait uuidgenCommand (hall _)
    -- From here on the task owes the daemon.
    split
    next heq' => exact (hspawned.of_eq heq').endAction id unit _
    next heq' => exact (hspawned.of_eq heq').suspend id _ fun command _ => hall command

theorem startElogind (hs : s₀.Does allowed s) (hall : ∀ command, allowed command) :
    s₀.Does allowed s.startElogind.2 :=
  startElogind_induction (fun _ _ h => h.host _) (fun _ h => h.say .elogindMissing trivial)
    (fun _ path h => h.spawn path (hall path)) (fun _ pid h => h.say (.elogindStarted pid) trivial) hs

theorem startUserSessions (hs : s₀.Does allowed s) (hall : ∀ command, allowed command)
    (id : TaskId) (unit : String) : s₀.Does allowed (s.startUserSessions id unit) := by
  have helogind := hs.startElogind hall
  rw [Init.startUserSessions]
  split
  next heq => exact ((helogind.of_eq heq).ensureEach sessionDirectories).endAction id unit _
  next heq => exact (helogind.of_eq heq).endAction id unit _

theorem runBuiltin (hs : s₀.Does allowed s) (hall : ∀ command, allowed command) (id : TaskId)
    (unit : String) (chain : List String) (b : Builtin) :
    s₀.Does allowed (s.runBuiltin id unit chain b) := by
  cases b with
  | mounts => exact (hs.host .mountAll).endAction id unit _
  | network => exact (hs.host .startNetwork).endAction id unit _
  | hostname => exact (hs.host .setHostname).endAction id unit _
  | dbus => exact hs.beginBus hall id unit chain
  | networkManager => exact hs.startNetworkManager hall id unit
  | userSessions => exact hs.startUserSessions hall id unit
  | plymouthQuit => exact hs.endAction id unit (.ok ())

/-! ## A start task -/

/-- An action begins only while no shutdown has begun. -/
theorem beginAction {u : UnitDef} (hs : s₀.Does allowed s) (hu : s.graph.get? unit = some u)
    (id : TaskId) (chain : List String) (patience : Nat) :
    s₀.Does allowed (s.beginAction id unit chain u patience) := by
  rw [Init.beginAction]
  split
  next => exact hs.conclude id unit _
  next hstopping =>
    have hrunning : s.stopping = false := by simpa using hstopping
    have hsaid := hs.say (.starting unit chain) trivial
    dsimp only
    split
    next b _ =>
      exact (hsaid.note (.began unit) trivial).runBuiltin (hs.allows hrunning) id unit chain b
    next => exact hsaid.startService hu hrunning id chain patience

theorem awaitDependencies {u : UnitDef} (hs : s₀.Does allowed s) (hu : s.graph.get? unit = some u)
    (id : TaskId) (chain : List String) (patience : Nat) (handles : List Handle) :
    s₀.Does allowed (s.awaitDependencies id unit chain u patience handles) := by
  induction handles generalizing patience with
  | nil =>
    rw [Init.awaitDependencies]
    exact hs.beginAction hu id chain patience
  | cons h handles ih =>
    cases patience with
    | zero => exact hs.defer id _ (List.forall_mem_nil _)
    | succ patience =>
      rw [Init.awaitDependencies]
      split
      next => exact ih patience
      next => exact hs.conclude id unit _
      next => exact hs.suspend id _ (List.forall_mem_nil _)

theorem pollStart {phase : StartPhase} (hs : s₀.Does allowed s)
    (howed : ∀ command ∈ (Task.start unit chain phase).owed s₀.config, allowed command)
    (id : TaskId) : s₀.Does allowed (s.pollStart id unit chain phase) := by
  cases phase with
  | fresh =>
    rw [Init.pollStart]
    split
    next => exact hs.conclude id unit _
    next u hu =>
      have hrequested := hs.requestAll (unit :: chain) u.dependencies.toList
      exact hrequested.awaitDependencies ((graph_requestAll _ _ s).symm ▸ hu) id chain patience _
  | awaiting handles =>
    rw [Init.pollStart]
    split
    next => exact hs.conclude id unit _
    next u hu => exact hs.awaitDependencies hu id chain patience handles
  | started deadline => exact hs.letSettle id unit chain deadline
  | settling deadline =>
    rw [Init.pollStart]
    split
    · exact hs
    · exact hs.endAction id unit (.ok ())
  | makingMachineId ticket =>
    rw [Init.pollStart]
    split
    · exact hs.startBus (howed busCommand List.mem_cons_self) id unit chain _
    · exact hs
  | startingBus ticket =>
    rw [Init.pollStart]
    split
    · exact hs.finishBus id unit _
    · exact hs

end

end Does

end Init

end InitDaemon
