import InitDaemon.Proofs.Init.Ledger

/-!
# The start tasks

Every unit that has been asked for and has no outcome has one start task. What has happened in a
task so far goes with the place where it waits, and whatever it waits for will wake it. While a task
goes on, this need not hold of the task itself: it is in focus then.
-/

namespace InitDaemon

open Std InitDaemon.Units InitDaemon.Journal

def Task.handles : Task → List Handle
  | .start _ _ (.awaiting hs) | .session (.awaiting hs) => hs
  | .bootChain (some h) => [h]
  | _ => []

inductive Focus
  | idle
  /-- Any task but a unit's start. -/
  | other (id : TaskId)
  /-- The start of a unit whose own action has not begun. -/
  | starting (id : TaskId) (unit : String)
  | acting (id : TaskId) (unit : String)

def Focus.task? : Focus → Option TaskId
  | idle => none
  | other id | starting id _ | acting id _ => some id

namespace Init

variable {σ : Type}

def Runnable (s : Init σ) (id : TaskId) : Prop :=
  id ∈ s.queue ∨ id ∈ s.deferred

/-- The dependencies of a unit before those still waited for are ready. -/
def Remaining (s : Init σ) (unit : String) (hs : List Handle) : Prop :=
  ∃ u before, s.graph.get? unit = some u ∧
    u.dependencies.toList = before ++ hs.map Handle.unit ∧
    ∀ d ∈ before, s.outcome? d = some (.ok ())

def RunsNoCommand (s : Init σ) (unit : String) : Prop :=
  ∀ u, s.graph.get? unit = some u → u.execStart? = none

/-- What has happened in the start of a unit. -/
def Stage (s : Init σ) (unit : String) : StartPhase → Prop
  | .fresh => ¬ Begun s.journal unit
  | .awaiting hs => ¬ Begun s.journal unit ∧ s.Remaining unit hs
  | .started deadline | .settling deadline => Begun s.journal unit ∧
    HasSettled s.graph s.config.settleDelay s.journal deadline unit
  | .makingMachineId ticket | .startingBus ticket => Begun s.journal unit ∧
    s.RunsNoCommand unit ∧ s.Live ticket

/-- A start task that can go on stands in line, and otherwise it will be woken. -/
def Awake (s : Init σ) (id : TaskId) : StartPhase → Prop
  | .fresh | .started _ => s.Runnable id
  | .awaiting [] => False
  | .awaiting (h :: _) => s.outcome? h.unit ≠ none → s.Runnable id
  | .settling deadline => ⟨deadline, id⟩ ∈ s.alarms ∨ deadline ≤ s.now ∧ s.Runnable id
  | .makingMachineId ticket | .startingBus ticket => ticket ∈ s.settled → s.Runnable id

structure Pending (s : Init σ) (unit : String) : Prop where
  entered : s.Entered unit
  unresolved : s.outcome? unit = none
  exists_unit : ∃ u, s.graph.get? unit = some u
  acyclic : s.cycles[unit]? = none

def Focus.Fits (s : Init σ) : Focus → Prop
  | .idle => True
  | .other id => id < s.nextTask ∧ ∀ unit, ¬ s.Starts id unit
  | .starting id unit => s.Starts id unit ∧ ¬ Begun s.journal unit
  | .acting id unit => s.Starts id unit ∧ Begun s.journal unit

/-- The tasks fit the ledger. -/
structure Workflow (s : Init σ) (f : Focus) : Prop where
  id_lt : ∀ (id : TaskId) t, s.tasks[id]? = some t → id < s.nextTask
  handles : ∀ (id : TaskId) t, s.tasks[id]? = some t → ∀ h ∈ t.handles, Requested s.journal h
  pending : ∀ id unit, s.Starts id unit → s.Pending unit
  unique : ∀ id id' unit, s.Starts id unit → s.Starts id' unit → id = id'
  exists_start : ∀ unit, s.Entered unit → s.outcome? unit = none → ∃ id, s.Starts id unit
  phase : ∀ (id : TaskId) unit chain phase, s.tasks[id]? = some (.start unit chain phase) →
    f.task? ≠ some id → s.Stage unit phase ∧ s.Awake id phase
  focus : Focus.Fits s f

variable {s s' : Init σ} {f f' : Focus} {id : TaskId} {unit : String} {phase : StartPhase}

/-! ## The task table -/

theorem getElem?_insert_task {t : Task} (tasks : ExtTreeMap TaskId Task) (id' : TaskId) :
    (tasks.insert id t)[id']? = if id = id' then some t else tasks[id']? := by
  simp [ExtTreeMap.getElem?_insert]

theorem getElem?_erase_task (tasks : ExtTreeMap TaskId Task) (id' : TaskId) :
    (tasks.erase id)[id']? = if id = id' then none else tasks[id']? := by
  simp [ExtTreeMap.getElem?_erase]

/-! ## Later states -/

theorem Remaining.later {hs : List Handle} (h : s.Remaining unit hs) (hl : s.Later s') :
    s'.Remaining unit hs := by
  obtain ⟨u, before, hu, hsplit, hready⟩ := h
  exact ⟨u, before, by rw [hl.graph, hu], hsplit, fun d hd => hl.outcome d _ (hready d hd)⟩

theorem Pending.later (h : s.Pending unit) (hl : s.Later s') (hnone : s'.outcome? unit = none) :
    s'.Pending unit where
  entered := h.entered.later hl
  unresolved := hnone
  exists_unit := by
    rw [hl.graph]
    exact h.exists_unit
  acyclic := by
    rw [hl.cycles]
    exact h.acyclic

theorem Stage.later (h : s.Stage unit phase) (hl : s.Later s')
    (hbegun : Begun s'.journal unit → Begun s.journal unit) : s'.Stage unit phase := by
  have hsettled : ∀ deadline, HasSettled s.graph s.config.settleDelay s.journal deadline unit →
      HasSettled s'.graph s'.config.settleDelay s'.journal deadline unit := by
    intro deadline h
    rw [hl.graph, hl.config]
    exact h.mono hl.journal (Nat.le_refl _)
  have hcommand : s.RunsNoCommand unit → s'.RunsNoCommand unit := by
    intro h u hu
    exact h u (hl.graph ▸ hu)
  cases phase with
  | fresh => exact fun hb => h (hbegun hb)
  | awaiting hs => exact ⟨fun hb => h.1 (hbegun hb), h.2.later hl⟩
  | started deadline => exact ⟨h.1.mono hl.journal, hsettled _ h.2⟩
  | settling deadline => exact ⟨h.1.mono hl.journal, hsettled _ h.2⟩
  | makingMachineId ticket =>
    exact ⟨h.1.mono hl.journal, hcommand h.2.1, hl.live ticket h.2.2⟩
  | startingBus ticket => exact ⟨h.1.mono hl.journal, hcommand h.2.1, hl.live ticket h.2.2⟩

theorem Focus.Fits.later (h : Focus.Fits s f) (hnext : s.nextTask ≤ s'.nextTask)
    (hstarts : ∀ id unit, f.task? = some id → (s'.Starts id unit ↔ s.Starts id unit))
    (hbegun : ∀ unit, Begun s'.journal unit ↔ Begun s.journal unit) : Focus.Fits s' f := by
  cases f with
  | idle => trivial
  | other id =>
    exact ⟨Nat.lt_of_lt_of_le h.1 hnext, fun unit hu => h.2 unit ((hstarts id unit rfl).mp hu)⟩
  | starting id unit =>
    exact ⟨(hstarts id unit rfl).mpr h.1, fun hb => h.2 ((hbegun unit).mp hb)⟩
  | acting id unit => exact ⟨(hstarts id unit rfl).mpr h.1, (hbegun unit).mpr h.2⟩

theorem Workflow.focus_lt (hs : s.Workflow f) (hid : f.task? = some id) : id < s.nextTask := by
  have hstarts : ∀ id unit, s.Starts id unit → id < s.nextTask := fun id unit hstarts => by
    obtain ⟨_, _, ht⟩ := hstarts
    exact hs.id_lt id _ ht
  have hfocus := hs.focus
  cases f with
  | idle => cases hid
  | other => cases hid; exact hfocus.1
  | starting => cases hid; exact hstarts _ _ hfocus.1
  | acting => cases hid; exact hstarts _ _ hfocus.1

def WaitsForTicket (phase : StartPhase) (ticket : Ticket) : Prop :=
  phase = .makingMachineId ticket ∨ phase = .startingBus ticket

/-- A task stays awake if whatever it waits for wakes it when it happens. -/
theorem Awake.mono (h : s.Awake id phase) (hnow : s.now ≤ s'.now)
    (hrunnable : s.Runnable id → s'.Runnable id)
    (halarms : ∀ deadline, ⟨deadline, id⟩ ∈ s.alarms →
      ⟨deadline, id⟩ ∈ s'.alarms ∨ deadline ≤ s'.now ∧ s'.Runnable id)
    (htickets : ∀ ticket, WaitsForTicket phase ticket → ticket ∈ s'.settled →
      ticket ∈ s.settled ∨ s'.Runnable id)
    (hwaits : ∀ h hs, phase = .awaiting (h :: hs) → s'.outcome? h.unit ≠ none →
      s.outcome? h.unit ≠ none ∨ s'.Runnable id) : s'.Awake id phase := by
  cases phase with
  | fresh => exact hrunnable h
  | started deadline => exact hrunnable h
  | awaiting hs =>
    cases hs with
    | nil => exact h
    | cons handle hs =>
      intro ho
      rcases hwaits handle hs rfl ho with hold | hrun
      · exact hrunnable (h hold)
      · exact hrun
  | settling deadline =>
    rcases h with halarm | ⟨hdue, hrun⟩
    · exact halarms deadline halarm
    · exact .inr ⟨Nat.le_trans hdue hnow, hrunnable hrun⟩
  | makingMachineId ticket =>
    intro ht
    rcases htickets ticket (.inl rfl) ht with hold | hrun
    · exact hrunnable (h hold)
    · exact hrun
  | startingBus ticket =>
    intro ht
    rcases htickets ticket (.inr rfl) ht with hold | hrun
    · exact hrunnable (h hold)
    · exact hrun

/-! ## Changes beside the start tasks -/

/-- The start tasks are the same, and whatever happens to time and tickets wakes those that wait for
it. -/
structure Beside (s s' : Init σ) : Prop where
  nextTask_le : s.nextTask ≤ s'.nextTask
  starts : ∀ (id : TaskId) unit chain phase, s'.tasks[id]? = some (.start unit chain phase) ↔
    s.tasks[id]? = some (.start unit chain phase)
  tasks : ∀ (id : TaskId) t, s'.tasks[id]? = some t → s.tasks[id]? = some t ∨
    id < s'.nextTask ∧ ∀ h ∈ t.handles, Requested s.journal h
  runnable : ∀ id, s.Runnable id → s'.Runnable id
  alarms : ∀ id unit deadline, s.Starts id unit → ⟨deadline, id⟩ ∈ s.alarms →
    ⟨deadline, id⟩ ∈ s'.alarms ∨ deadline ≤ s'.now ∧ s'.Runnable id
  tickets : ∀ (id : TaskId) unit chain phase ticket,
    s.tasks[id]? = some (.start unit chain phase) → WaitsForTicket phase ticket →
      ticket ∈ s'.settled → ticket ∈ s.settled ∨ s'.Runnable id

/-- Besides, units that have been asked for keep what they have, and no start of another one gets
under way. -/
structure Calm (s s' : Init σ) : Prop extends Beside s s' where
  later : s.Later s'
  entered : ∀ unit, s'.Entered unit → s'.outcome? unit = none → s.Entered unit
  outcome : ∀ unit, s.Entered unit → s'.outcome? unit = s.outcome? unit

theorem Beside.of_eq (htasks : s'.tasks = s.tasks) (hnext : s'.nextTask = s.nextTask)
    (hqueue : s'.queue = s.queue) (hdeferred : s'.deferred = s.deferred)
    (halarms : s'.alarms = s.alarms) (hsettled : s'.settled = s.settled) : s.Beside s' where
  nextTask_le := Nat.le_of_eq hnext.symm
  starts _ _ _ _ := by rw [htasks]
  tasks _ _ ht := .inl (htasks ▸ ht)
  runnable _ hrun := by rwa [Runnable, hqueue, hdeferred]
  alarms _ _ _ _ ha := .inl (halarms ▸ ha)
  tickets _ _ _ _ _ _ _ ht := .inl (hsettled ▸ ht)

theorem Beside.starts_iff (h : s.Beside s') : s'.Starts id unit ↔ s.Starts id unit := by
  simp only [Starts, h.starts]

theorem Workflow.calm (hs : s.Workflow f) (hchannels : s.Channels) (h : s.Calm s')
    (hfocus : f'.task? = f.task?)
    (hbegun : ∀ id unit, s.Starts id unit → f.task? ≠ some id → Begun s'.journal unit →
      Begun s.journal unit) (hfits : Focus.Fits s' f') : s'.Workflow f' where
  id_lt id t ht := by
    rcases h.tasks id t ht with hold | ⟨hlt, -⟩
    · exact Nat.lt_of_lt_of_le (hs.id_lt id t hold) h.nextTask_le
    · exact hlt
  handles id t ht handle hh := by
    rcases h.tasks id t ht with hold | ⟨-, hnew⟩
    · exact (hs.handles id t hold handle hh).mono h.later.journal
    · exact (hnew handle hh).mono h.later.journal
  pending id unit hstarts := by
    have hpending := hs.pending id unit (h.starts_iff.mp hstarts)
    exact hpending.later h.later ((h.outcome unit hpending.entered).trans hpending.unresolved)
  unique id id' unit hid hid' := hs.unique id id' unit (h.starts_iff.mp hid) (h.starts_iff.mp hid')
  exists_start unit hentered hunresolved := by
    have hold := h.entered unit hentered hunresolved
    rw [h.outcome unit hold] at hunresolved
    obtain ⟨id, hid⟩ := hs.exists_start unit hold hunresolved
    exact ⟨id, h.starts_iff.mpr hid⟩
  phase id unit chain phase hid hne := by
    rw [h.starts] at hid
    rw [hfocus] at hne
    have hstarts : s.Starts id unit := ⟨chain, phase, hid⟩
    obtain ⟨hstage, hawake⟩ := hs.phase id unit chain phase hid hne
    refine ⟨hstage.later h.later (hbegun id unit hstarts hne), ?_⟩
    refine hawake.mono h.later.now_le (h.runnable id)
      (fun deadline => h.alarms id unit deadline hstarts)
      (fun ticket => h.tickets id unit chain phase ticket hid) fun handle rest heq ho => ?_
    have hrequested := hs.handles id _ hid handle (heq ▸ List.mem_cons_self)
    rw [h.outcome _ (hchannels.entered hrequested)] at ho
    exact .inl ho
  focus := hfits

end Init

end InitDaemon
