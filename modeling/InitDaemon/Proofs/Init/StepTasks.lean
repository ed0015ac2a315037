import InitDaemon.Proofs.Init.StepEffects

/-!
# What becomes of tasks and units in a step

A task is at its place after a step because it was there before, because the move has brought it in,
or because it was polled. It is gone only if it was polled. A unit is entered when someone asks for
it, and stays entered.
-/

namespace InitDaemon.Init

open Std InitDaemon.Units InitDaemon.Journal

variable {σ : Type} {s s' : Init σ} {m : Move σ} {id id' : TaskId} {t t' : Task} {unit : String}

section

variable {signal : Signal}

theorem mark_bootChain {target : Option Handle} :
    mark signal t = .bootChain target ↔ t = .bootChain target := by
  unfold mark
  split <;> simp

theorem mark_session {phase : SessionPhase} :
    mark signal t = .session phase ↔ t = .session phase := by
  unfold mark
  split <;> simp

theorem mark_power {state : PowerState} {phase : PowerPhase} :
    mark signal t = .power state phase ↔ t = .power state phase := by
  unfold mark
  split <;> simp

end

/-- Why a task is at a place after a step. -/
inductive Arrives [Platform σ] (s s' : Init σ) (m : Move σ) (id : TaskId) : Task → Prop
  | stayed {t : Task} (ht : s.tasks[id]? = some t) : Arrives s s' m id t
  | marked {t : Task} (ht : s.tasks[id]? = some t) (signal : Signal) :
    Arrives s s' m id (Init.mark signal t)
  | added {t : Task} (hid : id = s.nextTask) (hnext : s'.nextTask = s.nextTask + 1)
    (h : m.Adds t) : Arrives s s' m id t
  | started {unit : String} {chain : List String} (hid : id = s.nextTask)
    (hnext : s'.nextTask = s.nextTask + 1) (hwants : s.Wants m unit chain) (hnew : ¬ s.Entered unit)
    (haccepted : s.rejection? unit chain = none) (hentered : s'.Entered unit) :
    Arrives s s' m id (.start unit chain .fresh)
  | proceeded {t t' : Task} (hm : m = .poll id) (ht : s.tasks[id]? = some t)
    (h : s.Proceeds t t') : Arrives s s' m id t'
  | turned {t : Task} (hm : m = .poll id) (h : s.Turns id s') : Arrives s s' m id t

/-- Why a task is gone after a step. -/
inductive Departs [Platform σ] (s s' : Init σ) (m : Move σ) (id : TaskId) : Task → Prop
  | left {t : Task} (h : s.Leaves t) : Departs s s' m id t
  | refused {unit : String} {chain : List String} {phase : StartPhase} {e : StartError}
    (h : s.Refuses unit phase e) : Departs s s' m id (.start unit chain phase)
  | finished {unit : String} {chain : List String} {phase : StartPhase}
    (hbegun : Begun s.journal unit) : Departs s s' m id (.start unit chain phase)
  | turned {t : Task} (hm : m = .poll id) (h : s.Turns id s') : Departs s s' m id t

theorem Proceeds.start {phase : StartPhase} {chain : List String}
    (h : s.Proceeds (.start unit chain phase) t) : ∃ phase', t = .start unit chain phase' := by
  cases h with
  | waits | passes | acts => exact ⟨_, rfl⟩

/-- What the task is at a turn. -/
theorem Turns.there [Platform σ] (h : s.Turns id s') :
    ∃ t, s.tasks[id]? = some t ∧ ∀ unit chain phase, t ≠ .start unit chain phase := by
  cases h with
  | despair ht | enterSession ht | stage ht => exact ⟨_, ht, fun _ _ _ heq => by cases heq⟩
  | demand ht h =>
    refine ⟨_, ht, fun _ _ _ heq => ?_⟩
    subst heq
    cases h

/-! ## The table of tasks -/

theorem not_gone_of_insert (ht : s.tasks[id']? = some t) (t' : Task) :
    (s.tasks.insert id t')[id']? ≠ none := by
  rw [getElem?_insert_task]
  split
  · exact nofun
  · exact ht ▸ nofun

/-- The boot chain is gone then, or has become a shutdown. -/
theorem tasks_heed (s : Init σ) (id : TaskId) (outcome : Option RescueOutcome) :
    (s.heed id outcome).tasks = s.tasks.erase id ∨ ∃ state deadline,
      (s.heed id outcome).tasks = s.tasks.insert id (.power state (.delayed deadline .terminate)) := by
  rcases outcome with _ | _ | _ | _
  · exact .inl rfl
  · exact .inl rfl
  · exact .inr ⟨.restart, _, rfl⟩
  · exact .inr ⟨.off, _, rfl⟩

section

variable [Platform σ]

theorem tasks_opened (s : Init σ) (id : TaskId) :
    (∃ ticket, (s.opened id).tasks = s.tasks.insert id (.session (.running ticket))) ∨
      ∃ deadline, (s.opened id).tasks =
        s.tasks.insert id (.power .off (.delayed deadline .terminate)) := by
  rw [opened]
  split
  next c sup heq => exact .inl ⟨c.ticket, rfl⟩
  next => exact .inr ⟨_, rfl⟩

theorem tasks_staged (s : Init σ) (id : TaskId) (state : PowerState) (stage : PowerStage) :
    (∃ deadline next, (s.staged id state stage).tasks =
        s.tasks.insert id (.power state (.delayed deadline next))) ∨
      (s.staged id state stage).tasks = s.tasks.erase id := by
  have htasks : (s.powerStage id state stage).2.tasks = s.tasks := rfl
  rw [staged]
  split
  next delay next s₁ heq =>
    rw [heq] at htasks
    exact .inl ⟨_, next, congrArg (ExtTreeMap.insert · id _) htasks⟩
  next r s₁ heq =>
    rw [heq] at htasks
    cases r with
    | ok => exact .inr (congrArg (ExtTreeMap.erase · id) htasks)
    | error => exact .inr (congrArg (ExtTreeMap.erase · id) htasks)

/-- What the task can be after its turn. -/
theorem Turns.task (h : s.Turns id s') (ht' : s'.tasks[id]? = some t') :
    (∃ ticket, t' = .session (.running ticket)) ∨
      ∃ state deadline next, t' = .power state (.delayed deadline next) := by
  have herased {tasks : ExtTreeMap TaskId Task} : (tasks.erase id)[id]? ≠ some t' := by
    rw [getElem?_erase_task, if_pos rfl]
    exact nofun
  have hinserted {tasks : ExtTreeMap TaskId Task} {t : Task}
      (ht : (tasks.insert id t)[id]? = some t') : t' = t := by
    rw [getElem?_insert_task, if_pos rfl] at ht
    exact (Option.some.inj ht).symm
  cases h with
  | despair =>
    rcases s.rescued.tasks_heed id s.toSupervisor.rescue.1 with heq | ⟨state, deadline, heq⟩
    · exact absurd (heq ▸ ht') herased
    · exact .inr ⟨state, deadline, _, hinserted (heq ▸ ht')⟩
  | enterSession =>
    rcases s.tasks_opened id with ⟨ticket, heq⟩ | ⟨deadline, heq⟩
    · exact .inl ⟨ticket, hinserted (heq ▸ ht')⟩
    · exact .inr ⟨_, deadline, _, hinserted (heq ▸ ht')⟩
  | demand => exact .inr ⟨_, _, _, hinserted ht'⟩
  | @stage state phase stage =>
    rcases s.tasks_staged id state stage with ⟨deadline, next, heq⟩ | heq
    · exact .inr ⟨state, deadline, next, hinserted (heq ▸ ht')⟩
    · exact absurd (heq ▸ ht') herased

/-- A turn leaves the other tasks alone. -/
theorem Turns.others (h : s.Turns id s') (hne : id ≠ id') : s'.tasks[id']? = s.tasks[id']? := by
  have herased : (s.tasks.erase id)[id']? = s.tasks[id']? := by
    rw [getElem?_erase_task, if_neg hne]
  have hinserted (t : Task) : (s.tasks.insert id t)[id']? = s.tasks[id']? := by
    rw [getElem?_insert_task, if_neg hne]
  cases h with
  | despair =>
    rcases s.rescued.tasks_heed id s.toSupervisor.rescue.1 with heq | ⟨state, deadline, heq⟩
    · exact heq ▸ herased
    · exact heq ▸ hinserted _
  | enterSession =>
    rcases s.tasks_opened id with ⟨ticket, heq⟩ | ⟨deadline, heq⟩
    · exact heq ▸ hinserted _
    · exact heq ▸ hinserted _
  | demand => exact hinserted _
  | @stage state phase stage =>
    rcases s.tasks_staged id state stage with ⟨deadline, next, heq⟩ | heq
    · exact heq ▸ hinserted _
    · exact heq ▸ herased

section

variable {id₀ : TaskId}

omit [Platform σ] in
theorem getElem?_insert_cases {tasks : ExtTreeMap TaskId Task}
    (ht' : (tasks.insert id₀ t)[id]? = some t') : id₀ = id ∧ t = t' ∨ tasks[id]? = some t' := by
  rw [getElem?_insert_task] at ht'
  split at ht'
  next heq => exact .inl ⟨heq, Option.some.inj ht'⟩
  next => exact .inr ht'

omit [Platform σ] in
theorem getElem?_of_erase {tasks : ExtTreeMap TaskId Task}
    (ht' : (tasks.erase id₀)[id]? = some t') : tasks[id]? = some t' := by
  rw [getElem?_erase_task] at ht'
  split at ht'
  next => cases ht'
  next => exact ht'

end

theorem Step.arrives (h : Step m s s') (ht' : s'.tasks[id]? = some t') : Arrives s s' m id t' := by
  cases h with
  | arrange | remark | elapse | change | host | chore | launch | release | stopRestarts
  | powerStage | rescue | begin => exact .stayed ht'
  | mark _ signal =>
    change (s.tasks.map _)[id]? = _ at ht'
    rw [ExtTreeMap.getElem?_map, Option.map_eq_some_iff] at ht'
    obtain ⟨t, ht, rfl⟩ := ht'
    exact .marked ht signal
  | add _ _ h =>
    rcases getElem?_insert_cases ht' with ⟨hid, rfl⟩ | ht
    · exact .added hid.symm rfl h
    · exact .stayed ht
  | @ask _ _ unit chain hwants =>
    rcases s.request_cases unit chain with ⟨-, h, -, heq⟩ | ⟨-, e, -, heq⟩ | ⟨hnew, hnone, heq⟩
    · rw [heq] at ht'
      exact .stayed ht'
    · rw [heq] at ht'
      exact .stayed ht'
    · have hentered : (s.takenUp unit chain).Entered unit :=
        (entered_entering unit chain none unit).mpr (.inl rfl)
      rw [heq] at ht'
      rcases getElem?_insert_cases ht' with ⟨hid, rfl⟩ | ht
      · exact .started hid.symm (heq ▸ rfl) hwants hnew hnone (heq ▸ hentered)
      · exact .stayed ht
  | proceed ht₀ h =>
    rcases getElem?_insert_cases ht' with ⟨rfl, rfl⟩ | ht
    · exact .proceeded rfl ht₀ h
    · exact .stayed ht
  | leave => exact .stayed (getElem?_of_erase ht')
  | refuse =>
    rw [tasks_conclude] at ht'
    exact .stayed (getElem?_of_erase ht')
  | finish =>
    rw [endAction, tasks_conclude] at ht'
    exact .stayed (getElem?_of_erase ht')
  | @turn _ _ id₀ h =>
    by_cases heq : id₀ = id
    · subst heq
      exact .turned rfl h
    · exact .stayed (h.others heq ▸ ht')

theorem Step.departs (h : Step m s s') (ht : s.tasks[id]? = some t)
    (hgone : s'.tasks[id]? = none) : Departs s s' m id t := by
  -- Only the task that the step is about is gone.
  have hfound {id₀ : TaskId} {t₀ : Task} (ht₀ : s.tasks[id₀]? = some t₀)
      (hdeparts : Departs s s' m id t₀) (hgone : (s.tasks.erase id₀)[id]? = none) :
      Departs s s' m id t := by
    rw [getElem?_erase_task] at hgone
    split at hgone
    next heq =>
      cases (heq ▸ ht₀).symm.trans ht
      exact hdeparts
    next => cases ht.symm.trans hgone
  cases h with
  | arrange | remark | elapse | change | host | chore | launch | release | stopRestarts
  | powerStage | rescue | begin => cases ht.symm.trans hgone
  | mark =>
    change (s.tasks.map _)[id]? = _ at hgone
    rw [ExtTreeMap.getElem?_map, ht] at hgone
    cases hgone
  | add => exact absurd hgone (not_gone_of_insert ht _)
  | @ask _ _ unit chain hwants =>
    rcases s.request_cases unit chain with ⟨-, h, -, heq⟩ | ⟨-, e, -, heq⟩ | ⟨hnew, hnone, heq⟩
    · rw [heq] at hgone
      cases ht.symm.trans hgone
    · rw [heq] at hgone
      cases ht.symm.trans hgone
    · rw [heq] at hgone
      exact absurd hgone (not_gone_of_insert ht _)
  | proceed => exact absurd hgone (not_gone_of_insert ht _)
  | leave ht₀ h => exact hfound ht₀ (.left h) hgone
  | refuse ht₀ h =>
    have hgone' := hgone
    rw [tasks_conclude] at hgone'
    exact hfound ht₀ (.refused h) hgone'
  | finish ht₀ hbegun =>
    have hgone' := hgone
    rw [endAction, tasks_conclude] at hgone'
    exact hfound ht₀ (.finished hbegun) hgone'
  | @turn _ _ id₀ h =>
    by_cases heq : id₀ = id
    · subst heq
      exact .turned rfl h
    · cases ht.symm.trans ((h.others heq).symm.trans hgone)

/-- Where a task is after a step that is no turn of its own. -/
theorem Step.goes (h : Step m s s') (hid : id < s.nextTask) (ht : s.tasks[id]? = some t)
    (hno : m = .poll id → ¬ s.Turns id s') :
    (s'.tasks[id]? = none ∧ Departs s s' m id t) ∨ ∃ t', s'.tasks[id]? = some t' ∧
      (t' = t ∨ (∃ signal, t' = Init.mark signal t) ∨ s.Proceeds t t') := by
  cases ht' : s'.tasks[id]? with
  | none => exact .inl ⟨rfl, h.departs ht ht'⟩
  | some t' =>
    refine .inr ⟨t', rfl, ?_⟩
    cases h.arrives ht' with
    | stayed ht₀ => exact .inl (Option.some.inj (ht₀.symm.trans ht))
    | marked ht₀ signal =>
      cases ht₀.symm.trans ht
      exact .inr (.inl ⟨signal, rfl⟩)
    | added hnew | started hnew => exact absurd hid (hnew ▸ Nat.lt_irrefl _)
    | proceeded _ ht₀ hproceeds =>
      cases ht₀.symm.trans ht
      exact .inr (.inr hproceeds)
    | turned hm hturns => exact absurd hturns (hno hm)

/-- A task gets a number that no task has had. -/
theorem Step.id_lt (h : Step m s s')
    (hs : ∀ (id : TaskId) t, s.tasks[id]? = some t → id < s.nextTask) :
    ∀ (id : TaskId) t, s'.tasks[id]? = some t → id < s'.nextTask := by
  intro id t ht
  have hold {t : Task} (ht : s.tasks[id]? = some t) : id < s'.nextTask :=
    Nat.lt_of_lt_of_le (hs id t ht) h.continues.nextTask_le
  cases h.arrives ht with
  | stayed ht => exact hold ht
  | marked ht₀ => exact hold ht₀
  | added hid hnext | started hid hnext => exact hid ▸ hnext ▸ Nat.lt_succ_self _
  | proceeded _ ht₀ => exact hold ht₀
  | turned _ hturns =>
    obtain ⟨t₀, ht₀, -⟩ := hturns.there
    exact hold ht₀

/-! ## Start tasks -/

/-- A start task is new, or it was there before and has stayed or gone on. -/
theorem Step.start_arrives {chain : List String} {phase : StartPhase} (h : Step m s s')
    (ht' : s'.tasks[id]? = some (.start unit chain phase)) :
    (∃ phase₀, s.tasks[id]? = some (.start unit chain phase₀) ∧
      (phase₀ = phase ∨ s.Proceeds (.start unit chain phase₀) (.start unit chain phase))) ∨
    phase = .fresh ∧ s.Wants m unit chain ∧ ¬ s.Entered unit ∧
      s.rejection? unit chain = none ∧ s'.Entered unit ∧ id = s.nextTask := by
  have harrives := h.arrives ht'
  generalize heq : Task.start unit chain phase = task at harrives
  cases harrives with
  | stayed ht => exact .inl ⟨phase, heq ▸ ht, .inl rfl⟩
  | marked ht signal => exact .inl ⟨phase, mark_eq_start.mp heq.symm ▸ ht, .inl rfl⟩
  | added _ _ hadds =>
    subst heq
    cases m <;> exact hadds.elim
  | started hid _ hwants hnew haccepted hentered =>
    cases heq
    exact .inr ⟨rfl, hwants, hnew, haccepted, hentered, hid⟩
  | proceeded _ ht hproceeds =>
    subst heq
    cases hproceeds with
    | waits hu hunits hentered => exact .inl ⟨_, ht, .inr (.waits hu hunits hentered)⟩
    | passes hready => exact .inl ⟨_, ht, .inr (.passes hready)⟩
    | acts hbegun hacting => exact .inl ⟨_, ht, .inr (.acts hbegun hacting)⟩
  | turned _ hturns =>
    subst heq
    rcases hturns.task ht' with ⟨ticket, heq⟩ | ⟨state, deadline, next, heq⟩
    · cases heq
    · cases heq

theorem Step.start_stays {chain : List String} {phase : StartPhase} (h : Step m s s')
    (hid : id < s.nextTask) (ht : s.tasks[id]? = some (.start unit chain phase)) :
    s'.tasks[id]? = none ∨ ∃ phase', s'.tasks[id]? = some (.start unit chain phase') := by
  have hno : m = .poll id → ¬ s.Turns id s' := fun _ hturns => by
    obtain ⟨t, ht₀, hother⟩ := hturns.there
    exact hother _ _ _ (Option.some.inj (ht₀.symm.trans ht))
  rcases h.goes hid ht hno with ⟨hgone, -⟩ | ⟨t', ht', rfl | ⟨signal, rfl⟩ | hproceeds⟩
  · exact .inl hgone
  · exact .inr ⟨phase, ht'⟩
  · exact .inr ⟨phase, ht'.trans (congrArg some (mark_eq_start.mpr rfl))⟩
  · obtain ⟨phase', rfl⟩ := hproceeds.start
    exact .inr ⟨phase', ht'⟩

/-! ## Units -/

theorem Turns.senders (h : s.Turns id s') : s'.readiness.senders = s.readiness.senders := by
  cases h with
  | despair =>
    rcases s.toSupervisor.rescue.1 with _ | _ | _ | _
    all_goals rfl
  | enterSession =>
    rw [opened]
    split
    all_goals rfl
  | demand => rfl
  | @stage state phase stage =>
    have hstaged : (s.powerStage id state stage).2.readiness = s.readiness := rfl
    rw [staged]
    split
    next heq =>
      rw [heq] at hstaged
      exact congrArg Readiness.senders hstaged
    next r _ heq =>
      rw [heq] at hstaged
      cases r with
      | ok => exact congrArg Readiness.senders hstaged
      | error => exact congrArg Readiness.senders hstaged

/-- Nothing but a request enters units. -/
theorem Step.senders (h : Step m s s') : s'.readiness.senders = s.readiness.senders ∨
    ∃ unit chain, s.Wants m unit chain ∧ s' = (s.request unit chain).2 := by
  have hconcluded (s : Init σ) (id : TaskId) (unit : String) (o : Outcome) :
      (s.conclude id unit o).readiness.senders = s.readiness.senders := by
    obtain ⟨new, readiness, queue, heq, hsenders, -⟩ := s.conclude_eq id unit o
    rw [heq]
    exact hsenders
  cases h with
  | ask hwants => exact .inr ⟨_, _, hwants, rfl⟩
  | refuse => exact .inl (hconcluded _ _ _ _)
  | finish => exact .inl (hconcluded _ _ _ _)
  | turn h => exact .inl h.senders
  | _ => exact .inl rfl

theorem Step.entered (h : Step m s s') (hunit : s.Entered unit) : s'.Entered unit := by
  rcases h.senders with heq | ⟨unit', chain, -, rfl⟩
  · obtain ⟨channel, hchannel⟩ := hunit
    exact ⟨channel, heq ▸ hchannel⟩
  · rcases s.request_cases unit' chain with ⟨-, h, -, heq⟩ | ⟨-, e, -, heq⟩ | ⟨-, -, heq⟩
    · exact heq ▸ hunit
    · exact heq ▸ (entered_entering unit' chain (some (.error e)) unit).mpr (.inr hunit)
    · exact heq ▸ (entered_entering unit' chain none unit).mpr (.inr hunit)

theorem Step.enters (h : Step m s s') (hunit : s'.Entered unit) : s.Entered unit ∨
    ¬ s.Entered unit ∧ ∃ chain, s.Wants m unit chain ∧ s' = (s.request unit chain).2 := by
  rcases h.senders with heq | ⟨unit', chain, hwants, rfl⟩
  · obtain ⟨channel, hchannel⟩ := hunit
    exact .inl ⟨channel, heq ▸ hchannel⟩
  · by_cases hold : s.Entered unit
    · exact .inl hold
    · refine .inr ⟨hold, ?_⟩
      rcases s.request_cases unit' chain with ⟨-, h, -, heq⟩ | ⟨-, e, -, heq⟩ | ⟨-, -, heq⟩
      · rw [heq] at hunit
        exact absurd hunit hold
      · obtain rfl := ((entered_entering unit' chain _ unit).mp (heq ▸ hunit)).resolve_right hold
        exact ⟨chain, hwants, rfl⟩
      · obtain rfl := ((entered_entering unit' chain _ unit).mp (heq ▸ hunit)).resolve_right hold
        exact ⟨chain, hwants, rfl⟩

end

end InitDaemon.Init
