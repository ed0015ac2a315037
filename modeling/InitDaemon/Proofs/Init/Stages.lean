import InitDaemon.Proofs.Init.Quiet

/-!
# The stages of a start

A start task is left where it waits, begins its unit's own action, or ends with the unit's outcome,
which wakes the tasks that wait for the unit.
-/

namespace InitDaemon.Init

open Std InitDaemon.Units InitDaemon.Journal

variable {σ : Type} {s₀ s s' : Init σ} {f : Focus} {id : TaskId} {unit : String}
  {chain : List String} {phase : StartPhase} {o : Outcome}

theorem Starts.unit_eq {v : String} (hstarts : s.Starts id unit) (h : s.Starts id v) :
    unit = v := by
  obtain ⟨_, _, ht⟩ := hstarts
  obtain ⟨_, _, ht'⟩ := h
  cases ht.symm.trans ht'
  rfl

/-! ## Waiting -/

theorem starts_insert {tasks : ExtTreeMap TaskId Task} {deferred : List TaskId}
    {alarms : List Alarm} (htasks : tasks = s.tasks.insert id (.start unit chain phase))
    (hstarts : s.Starts id unit) {id' : TaskId} {v : String} :
    ({ s with tasks := tasks, deferred := deferred, alarms := alarms } : Init σ).Starts id' v ↔
      s.Starts id' v := by
  subst htasks
  simp only [Starts, getElem?_insert_task]
  split
  next heq =>
    subst heq
    constructor
    · rintro ⟨_, _, ht⟩
      cases ht
      exact hstarts
    · intro h
      cases hstarts.unit_eq h
      exact ⟨_, _, rfl⟩
  next => exact .rfl

/-- Leaves the task in focus at a place where it will be woken. -/
theorem Leads.park {deferred : List TaskId} {alarms : List Alarm} (hs : Leads s₀ f s)
    (hfocus : f.task? = some id) (hstarts : s.Starts id unit)
    (hhandles : ∀ h ∈ (Task.start unit chain phase).handles, Requested s.journal h)
    (hdeferred : ∀ i ∈ s.deferred, i ∈ deferred) (halarms : ∀ a ∈ s.alarms, a ∈ alarms)
    (hstage : s.Stage unit phase)
    (hawake : ({ s with deferred := deferred, alarms := alarms } : Init σ).Awake id phase) :
    Leads s₀ .idle { s with
      tasks := s.tasks.insert id (.start unit chain phase), deferred := deferred
      alarms := alarms } := by
  have hlater : s.Later { s with
      tasks := s.tasks.insert id (.start unit chain phase), deferred := deferred
      alarms := alarms } :=
    { Later.refl s with starts := fun _ _ _ => (starts_insert rfl hstarts).mp }
  refine ⟨hs.later.trans hlater, hs.ledger.same rfl rfl rfl, ?_⟩
  constructor
  case id_lt =>
    intro id' t ht
    change (s.tasks.insert id _)[id']? = _ at ht
    rw [getElem?_insert_task] at ht
    split at ht
    next heq => exact heq ▸ hs.workflow.focus_lt hfocus
    next => exact hs.workflow.id_lt id' t ht
  case handles =>
    intro id' t ht handle hh
    change (s.tasks.insert id _)[id']? = _ at ht
    rw [getElem?_insert_task] at ht
    split at ht
    next =>
      cases ht
      exact hhandles handle hh
    next => exact hs.workflow.handles id' t ht handle hh
  case pending =>
    intro id' v h
    have hold := hs.workflow.pending id' v ((starts_insert rfl hstarts).mp h)
    exact hold.later hlater hold.unresolved
  case unique =>
    intro id' id'' v h h'
    exact hs.workflow.unique id' id'' v ((starts_insert rfl hstarts).mp h)
      ((starts_insert rfl hstarts).mp h')
  case exists_start =>
    intro v hv hnone
    obtain ⟨id', h⟩ := hs.workflow.exists_start v hv hnone
    exact ⟨id', (starts_insert rfl hstarts).mpr h⟩
  case phase =>
    intro id' v chain' phase' ht _
    change (s.tasks.insert id _)[id']? = _ at ht
    rw [getElem?_insert_task] at ht
    split at ht
    next heq =>
      subst heq
      cases ht
      exact ⟨hstage.later hlater fun hb => hb, hawake.mono (Nat.le_refl _) (fun h => h)
        (fun _ h => .inl h) (fun _ _ h => .inl h) (fun _ _ _ h => .inl h)⟩
    next hne =>
      obtain ⟨hstage', hawake'⟩ := hs.workflow.phase id' v chain' phase' ht
        (fun h => hne (Option.some.inj (hfocus.symm.trans h)))
      exact ⟨hstage'.later hlater fun hb => hb, hawake'.mono (Nat.le_refl _)
        (fun h => h.imp_right (hdeferred id')) (fun _ h => .inl (halarms _ h))
        (fun _ _ h => .inl h) (fun _ _ _ h => .inl h)⟩
  case focus => trivial

/-! ## Beginning -/

/-- The own action of a unit begins when all its dependencies are ready. -/
theorem Leads.began (hs : Leads s₀ (.starting id unit) s) (hready : s.DependenciesReady unit) :
    Leads s₀ (.acting id unit) (s.note (.began unit)) := by
  obtain ⟨hstarts, hunbegun⟩ := hs.workflow.focus
  obtain ⟨hentered, -, ⟨u, hu⟩, -⟩ := hs.workflow.pending id unit hstarts
  have hlater : s.Later (s.note (.began unit)) :=
    { Later.refl s with journal := List.suffix_cons _ _ }
  have hbegun : ∀ v, Begun (s.note (.began unit)).journal v ↔ unit = v ∨ Begun s.journal v :=
    fun v => begun_cons.trans (by simp)
  refine ⟨hs.later.trans hlater, ?_, ?_⟩
  · refine hs.ledger.later hlater hs.ledger.consistent ?_ ?_ ?_ ?_ ?_ ?_
    · exact fun handle hh => .inl ((requested_cons.mp hh).resolve_left (by simp))
    · exact fun v => (hs.ledger.outcome v).trans (outcomeAfter?_cons_of_ne (by simp)).symm
    · refine orderly_cons.mpr ⟨hs.ledger.orderly, fun v heq => ?_⟩
      cases heq
      refine ⟨hunbegun, u, hu, fun d hd =>
        ⟨?_, (hs.ledger.justified d _ (hready u hu d hd)).settled rfl⟩⟩
      rw [← hs.ledger.outcome, hready u hu d hd]
    · intro v hb
      rcases (hbegun v).mp hb with rfl | hb
      · exact .inr ⟨hentered, hready⟩
      · exact .inl hb
    · exact fun v o ho => .inl ((acted_cons.mp ho).resolve_left (by simp))
    · exact fun v o ho => .inl ho
  · have hcalm : s.Calm (s.note (.began unit)) :=
      ⟨.of_eq rfl rfl rfl rfl rfl rfl, hlater, fun _ h _ => h, fun _ _ => rfl⟩
    refine hs.workflow.calm hs.ledger.toChannels hcalm rfl ?_
      ⟨hstarts, (hbegun unit).mpr (.inl rfl)⟩
    intro id' v hstarts' hne hb
    refine ((hbegun v).mp hb).resolve_left ?_
    rintro rfl
    exact hne (congrArg some (hs.workflow.unique id id' unit hstarts hstarts'))

/-! ## Ending -/

def concluded (s : Init σ) (id : TaskId) (unit : String) (channel : Channel) (o : Outcome)
    (queue : List TaskId) : Init σ :=
  { { s with readiness := s.readiness.send channel o }.note (.resolved unit o) with
    tasks := s.tasks.erase id, queue := queue }

/-- Whoever waits for the channel stands in line then. -/
theorem resolve_endTask_eq (id : TaskId) (o : Outcome) {channel : Channel}
    (hchannel : s.readiness.senders[unit]? = some channel) :
    ∃ queue, (s.resolve unit o).endTask id = s.concluded id unit channel o queue ∧
      (∀ i ∈ s.queue, i ∈ queue) ∧
      ∀ (i : TaskId) t, s.tasks[i]? = some t → awaits channel t = true →
        i ∈ queue ∨ i ∈ s.deferred := by
  obtain ⟨queue, heq, hold, hwoken⟩ := wakeAll_eq
    ({ s with readiness := s.readiness.send channel o }.note (.resolved unit o))
    (tasksWhere ({ s with readiness := s.readiness.send channel o }.note (.resolved unit o))
      (awaits channel))
  refine ⟨queue, ?_, hold, fun i t ht hawaits => hwoken i (mem_tasksWhere.mpr ⟨t, ht, hawaits⟩)⟩
  rw [resolve, hchannel]
  change endTask (wakeAll _ _) id = _
  rw [heq]
  rfl

section

variable {channel : Channel} {queue : List TaskId}

theorem outcome?_concluded (hs : s.Channels) (hchannel : s.readiness.senders[unit]? = some channel)
    (v : String) : (s.concluded id unit channel o queue).outcome? v =
      if unit = v then some o else s.outcome? v :=
  Readiness.outcomeOf?_send hs.consistent hchannel o

theorem tasks_concluded (i : TaskId) : (s.concluded id unit channel o queue).tasks[i]? =
    if id = i then none else s.tasks[i]? :=
  getElem?_erase_task s.tasks i

theorem starts_concluded {i : TaskId} {v : String} :
    (s.concluded id unit channel o queue).Starts i v ↔ id ≠ i ∧ s.Starts i v := by
  simp only [Starts, tasks_concluded]
  split
  next heq => simp [heq]
  next hne => simp [hne]

theorem begun_concluded (v : String) :
    Begun (s.concluded id unit channel o queue).journal v ↔ Begun s.journal v :=
  begun_cons.trans (by simp)

theorem later_concluded (id : TaskId) (o : Outcome) (queue : List TaskId) (hs : s.Channels)
    (hchannel : s.readiness.senders[unit]? = some channel) (hunresolved : s.outcome? unit = none) :
    s.Later (s.concluded id unit channel o queue) :=
  { Later.refl s with
    journal := List.suffix_cons _ _
    outcome := by
      intro v o' ho
      rw [outcome?_concluded hs hchannel, if_neg, ho]
      rintro rfl
      cases hunresolved.symm.trans ho
    starts := fun _ _ _ h => (starts_concluded.mp h).2 }

theorem Workflow.concluded (hs : s.Workflow f) (hchannels : s.Channels)
    (hchannel : s.readiness.senders[unit]? = some channel) (hfocus : f.task? = some id)
    (hstarts : s.Starts id unit) (hqueue : ∀ i ∈ s.queue, i ∈ queue)
    (hwoken : ∀ (i : TaskId) t, s.tasks[i]? = some t → awaits channel t = true →
      i ∈ queue ∨ i ∈ s.deferred) :
    (s.concluded id unit channel o queue).Workflow .idle := by
  have hlater : s.Later (s.concluded id unit channel o queue) :=
    later_concluded id o queue hchannels hchannel (hs.pending id unit hstarts).unresolved
  -- No other task starts the unit.
  have hother : ∀ i v, id ≠ i → s.Starts i v → unit ≠ v := by
    rintro i v hne h rfl
    exact hne (hs.unique id i unit hstarts h)
  constructor
  case id_lt =>
    intro i t ht
    rw [tasks_concluded] at ht
    split at ht
    next => cases ht
    next => exact hs.id_lt i t ht
  case handles =>
    intro i t ht handle hh
    rw [tasks_concluded] at ht
    split at ht
    next => cases ht
    next => exact (hs.handles i t ht handle hh).mono hlater.journal
  case pending =>
    intro i v h
    obtain ⟨hne, h⟩ := starts_concluded.mp h
    have hold := hs.pending i v h
    refine hold.later hlater ?_
    rw [outcome?_concluded hchannels hchannel, if_neg (hother i v hne h), hold.unresolved]
  case unique =>
    intro i i' v h h'
    exact hs.unique i i' v (starts_concluded.mp h).2 (starts_concluded.mp h').2
  case exists_start =>
    intro v hv hnone
    rw [outcome?_concluded hchannels hchannel] at hnone
    split at hnone
    next => cases hnone
    next hne =>
      obtain ⟨i, h⟩ := hs.exists_start v hv hnone
      refine ⟨i, starts_concluded.mpr ⟨?_, h⟩⟩
      rintro rfl
      exact hne (hstarts.unit_eq h)
  case phase =>
    intro i v chain phase ht _
    rw [tasks_concluded] at ht
    split at ht
    next => cases ht
    next hne =>
      obtain ⟨hstage, hawake⟩ := hs.phase i v chain phase ht
        fun h => hne (Option.some.inj (hfocus.symm.trans h))
      refine ⟨hstage.later hlater (begun_concluded v).mp, ?_⟩
      refine hawake.mono (Nat.le_refl _) (fun h => h.imp_left (hqueue i)) (fun _ h => .inl h)
        (fun _ _ h => .inl h) fun handle rest heq ho => ?_
      rw [outcome?_concluded hchannels hchannel] at ho
      split at ho
      next hunit =>
        have hgiven := hchannels.given handle (hs.handles i _ ht handle (heq ▸ List.mem_cons_self))
        rw [← hunit, hchannel] at hgiven
        refine .inr (hwoken i _ ht ?_)
        rw [heq, Option.some.inj hgiven]
        exact beq_self_eq_true handle.channel
      next => exact .inl ho
  case focus => trivial

end

/-! ## Notes before the end -/

def noting (s : Init σ) (new : List Record) : Init σ :=
  { s with toWorld := { s.toWorld with journal := new ++ s.journal } }

theorem later_noting (s : Init σ) (new : List Record) : s.Later (s.noting new) :=
  { Later.refl s with journal := List.suffix_append _ _ }

theorem Channels.noting {new : List Record} (hs : s.Channels) (hnew : ∀ r ∈ new, IsMinor r) :
    (s.noting new).Channels :=
  ⟨hs.consistent, fun handle hh => hs.given handle ((requested_minor hnew).mp hh)⟩

theorem Workflow.noting {new : List Record} (hs : s.Workflow f) (hchannels : s.Channels)
    (hnew : ∀ r ∈ new, IsMinor r) : (s.noting new).Workflow f :=
  hs.calm hchannels ⟨.of_eq rfl rfl rfl rfl rfl rfl, s.later_noting new, fun _ h _ => h,
    fun _ _ => rfl⟩ rfl (fun _ _ _ _ => (begun_minor hnew).mp)
    (hs.focus.later (Nat.le_refl _) (fun _ _ _ => .rfl) fun _ => begun_minor hnew)

/-- The start in focus ends with an outcome that is as it should be. What is noted just before may
tell of the same outcome. -/
theorem Leads.resolveEnd {new : List Record} (hs : Leads s₀ f s) (hfocus : f.task? = some id)
    (hstarts : s.Starts id unit) (hnew : ∀ r ∈ new, IsMinor r)
    (hacted : ∀ r ∈ new, ∀ v o', r.entry = .acted v o' → v = unit ∧ o' = o)
    (hjustified : (s.noting new).Justified unit o) :
    Leads s₀ .idle (((s.noting new).resolve unit o).endTask id) := by
  have hchannels : (s.noting new).Channels := hs.ledger.toChannels.noting hnew
  have hworkflow : (s.noting new).Workflow f := hs.workflow.noting hs.ledger.toChannels hnew
  have hpending := hworkflow.pending id unit hstarts
  obtain ⟨channel, hchannel⟩ := hpending.entered
  obtain ⟨queue, heq, hqueue, hwoken⟩ := resolve_endTask_eq id o hchannel
  have hconcluded := later_concluded id o queue hchannels hchannel hpending.unresolved
  have hlater := (s.later_noting new).trans hconcluded
  rw [heq]
  exact ⟨hs.later.trans hlater,
    hs.ledger.resolved hlater (hchannels.consistent.send channel o) rfl hnew hacted
      (outcome?_concluded hchannels hchannel) (hjustified.later hconcluded),
    hworkflow.concluded hchannels hchannel hfocus hstarts hqueue hwoken⟩

end InitDaemon.Init
