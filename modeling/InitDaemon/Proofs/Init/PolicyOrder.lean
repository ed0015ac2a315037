import InitDaemon.Proofs.Init.MoveCourse

/-!
# The program keeps the order

The policy takes tasks from the head of the queue, and its root looks after processes and never
pauses. So whatever the program does on its own is a run in order.
-/

namespace InitDaemon.Init

open Std

variable {σ : Type} {wakes : Task → Prop} {id r : TaskId} {t : Task} {s₀ s s' s'' : Init σ}
  {config : Config} {p : Policy}

/-- The task starts a unit or looks after a process, or it has ended. -/
structure HasAide (s : Init σ) (r : TaskId) : Prop where
  lt : r < s.nextTask
  aide : ∀ t, s.tasks[r]? = some t → t.IsAide

/-- What is done to a task is done to no other. -/
structure SparesOthers (id : TaskId) (s s' : Init σ) : Prop where
  nextTask : s'.nextTask = s.nextTask
  tasks : ∀ c : TaskId, c ≠ id → s'.tasks[c]? = s.tasks[c]?

namespace SparesOthers

theorem trans (h : s.SparesOthers id s') (h' : s'.SparesOthers id s'') : s.SparesOthers id s'' where
  nextTask := h'.nextTask.trans h.nextTask
  tasks c hc := (h'.tasks c hc).trans (h.tasks c hc)

theorem of_eq (hnext : s'.nextTask = s.nextTask) (htasks : s'.tasks = s.tasks) :
    s.SparesOthers id s' :=
  ⟨hnext, fun _ _ => by rw [htasks]⟩

theorem insert (hnext : s'.nextTask = s.nextTask) (htasks : s'.tasks = s.tasks.insert id t) :
    s.SparesOthers id s' := by
  refine ⟨hnext, fun c hc => ?_⟩
  rw [htasks, getElem?_insert_task, if_neg hc.symm]

theorem erase (hnext : s'.nextTask = s.nextTask) (htasks : s'.tasks = s.tasks.erase id) :
    s.SparesOthers id s' := by
  refine ⟨hnext, fun c hc => ?_⟩
  rw [htasks, getElem?_erase_task, if_neg hc.symm]

theorem powerEnded (s : Init σ) (id : TaskId) (result : Except Errno Unit) :
    s.SparesOthers id (s.powerEnded id result) := by
  cases result with
  | ok => exact erase rfl rfl
  | error e => exact erase rfl rfl

theorem afterStage {progress : PowerProgress × Init σ} (h : s.SparesOthers id progress.2)
    (state : PowerState) (left : Nat) :
    s.SparesOthers id (afterStage id state left progress) := by
  obtain ⟨progress, s'⟩ := progress
  cases progress with
  | ended result => exact h.trans (powerEnded s' id result)
  | pause delay next =>
    rw [Init.afterStage]
    split
    · exact h.trans (insert rfl rfl)
    · exact h.trans (insert rfl rfl)

variable [Platform σ]

theorem powerStage (s : Init σ) (id : TaskId) (state : PowerState) (stage : PowerStage) :
    s.SparesOthers id (s.powerStage id state stage).2 :=
  of_eq rfl rfl

theorem runPower (s : Init σ) (id : TaskId) (state : PowerState) (stage : PowerStage)
    (left : Nat) : s.SparesOthers id (s.runPower id state stage left) := by
  have hstage := powerStage s id state stage
  unfold Init.runPower
  split
  next heq =>
    rw [heq] at hstage
    exact (hstage.trans (powerStage _ id state .kill)).afterStage state _
  next => exact hstage.afterStage state _

theorem power (s : Init σ) (id : TaskId) (cause : PowerCause) (state : PowerState) (left : Nat) :
    s.SparesOthers id (s.power id cause state left) := by
  have hbegun : s.SparesOthers id (s.note (.powerRequested id cause state)).beginShutdown := by
    rw [beginShutdown]
    split
    · exact of_eq rfl rfl
    · exact of_eq rfl rfl
  exact hbegun.trans (runPower _ id state .terminate left)

theorem pollPower (s : Init σ) (id : TaskId) (state : PowerState) (phase : PowerPhase) :
    s.SparesOthers id (s.pollPower id state phase) := by
  cases phase with
  | fresh => exact power s id .request state patience
  | delayed deadline next =>
    rw [Init.pollPower]
    split
    · exact insert rfl rfl
    · exact runPower s id state next patience
  | pausing deadline next =>
    rw [Init.pollPower]
    split
    · exact of_eq rfl rfl
    · exact runPower s id state next patience

theorem fate (h : Fate id t s s') : s.SparesOthers id s' := by
  cases h with
  | stay => exact of_eq rfl rfl
  | suspend => exact insert rfl rfl
  | defer => exact insert rfl rfl
  | sleep => exact insert rfl rfl
  | ended => exact erase rfl rfl
  | halted => exact erase rfl rfl
  | request ht cause state left => exact power s id cause state left

end SparesOthers

theorem isAide_mark (signal : Signal) (h : t.IsAide) : (mark signal t).IsAide := by
  cases t with
  | start | watchNetworkManager | report => cases signal <;> exact trivial
  | reap childEvent => cases signal <;> cases childEvent <;> exact trivial
  | watchSignals | bootChain | session | power => exact h.elim

namespace HasAide

theorem pause?_eq (h : s.HasAide r) : s.pause? r = none := by
  cases ht : s.tasks[r]? with
  | none =>
    rw [Init.pause?, ht]
    rfl
  | some t =>
    rw [Init.pause?_eq ht]
    exact (h.aide t ht).pause?_eq

theorem spared (h : s.HasAide r) (hs : s.SparesOthers id s') (hne : r ≠ id) : s'.HasAide r where
  lt := hs.nextTask ▸ h.lt
  aide t ht := h.aide t (hs.tasks r hne ▸ ht)

theorem stirs (h : s.HasAide r) (hs : s.Stirs wakes id s') : s'.HasAide r where
  lt := Nat.lt_of_lt_of_le h.lt hs.nextTask_le
  aide t ht := h.aide t (hs.task_eq h.lt ▸ ht)

theorem insert {t' : Task} (h : s.HasAide r) (ht' : t'.IsAide) (hnext : s'.nextTask = s.nextTask)
    (htasks : s'.tasks = s.tasks.insert r t') : s'.HasAide r := by
  refine ⟨hnext ▸ h.lt, fun t ht => ?_⟩
  rw [htasks, getElem?_insert_task, if_pos rfl] at ht
  cases ht
  exact ht'

theorem erase (h : s.HasAide r) (hnext : s'.nextTask = s.nextTask)
    (htasks : s'.tasks = s.tasks.erase r) : s'.HasAide r := by
  refine ⟨hnext ▸ h.lt, fun t ht => ?_⟩
  rw [htasks, getElem?_erase_task, if_pos rfl] at ht
  cases ht

variable [Platform σ]

/-- An aide comes to rest as an aide. -/
theorem fate (h : s.HasAide r) (ht : t.IsAide) (hfate : Fate r t s s') : s'.HasAide r := by
  have hbecomes : ∀ {t' : Task}, t.Becomes s.config t' → t'.IsAide := by
    rintro t' (⟨-, haide⟩ | ⟨hcaller, -⟩)
    · exact haide
    · exact absurd hcaller ht.not_isCaller
  cases hfate with
  | stay => exact h
  | suspend t' ht' => exact h.insert (hbecomes ht') rfl rfl
  | defer t' ht' => exact h.insert (hbecomes ht') rfl rfl
  | sleep deadline t' _ haide => exact h.insert haide rfl rfl
  | ended => exact h.erase rfl rfl
  | halted => exact h.erase rfl rfl
  | request hcaller => exact absurd hcaller ht.not_isCaller

theorem pollQueued (h : s.HasAide r) (hready : s.Ready config)
    (hpatient : config.foundation.length + 2 ≤ patience) (id : TaskId) :
    (s.pollQueued id).HasAide r := by
  have hunqueued : (s.unqueue id).HasAide r := ⟨h.lt, h.aide⟩
  have hqueue : s.pollQueued id = (s.unqueue id).poll id := rfl
  rw [hqueue, Init.poll]
  split
  next t ht =>
    by_cases hid : r = id
    · subst hid
      have haide := hunqueued.aide t ht
      obtain ⟨s₁, hstirs, hfate⟩ := goes_aide haide r (s.unqueue r)
      exact (hunqueued.stirs hstirs).fate haide hfate
    · have hfits : t.Fits s.config := (hready.tidy.placed id t ht).fits
      rcases hfits.kind with haide | hcaller | ⟨state, deadline, next, rfl⟩
      · obtain ⟨s₁, hstirs, hfate⟩ := goes_aide haide id (s.unqueue id)
        exact (hunqueued.stirs hstirs).spared (.fate hfate) hid
      · obtain ⟨wakes, -, -, s₁, hstirs, hfate⟩ := goes_caller (s := s.unqueue id) hcaller id hfits
          (hready.config_eq ▸ hpatient)
        exact (hunqueued.stirs hstirs).spared (.fate hfate) hid
      · exact hunqueued.spared (.pollPower (s.unqueue id) id state (.pausing deadline next)) hid
  next => exact hunqueued

omit [Platform σ] in
theorem deliver (h : s.HasAide r) (signal : Signal) : (s.deliver signal).HasAide r := by
  obtain ⟨queue, heq, -⟩ := wakeAll_eq { s with tasks := s.tasks.map fun _ t => mark signal t }
    (s.tasksWhere (Init.wakes signal))
  rw [Init.deliver, heq]
  refine ⟨h.lt, fun t ht => ?_⟩
  change (s.tasks.map _)[r]? = _ at ht
  rw [ExtTreeMap.getElem?_map, Option.map_eq_some_iff] at ht
  obtain ⟨t, ht, rfl⟩ := ht
  exact isAide_mark signal (h.aide t ht)

omit [Platform σ] in
theorem lookOutside (h : s.HasAide r) : s.lookOutside.HasAide r := by
  have hdelivered : s.deliverRaised.HasAide r :=
    deliverRaised_induction (q := (HasAide · r)) ⟨h.lt, h.aide⟩ fun _ signal hs => hs.deliver signal
  obtain ⟨queue, heq, -⟩ := wakeAll_eq
    { s.deliverRaised with
      alarms := s.deliverRaised.alarms.filter (s.deliverRaised.now < ·.deadline) }
    (s.deliverRaised.due.map Alarm.task)
  rw [Init.lookOutside, ring_eq, heq]
  exact ⟨hdelivered.lt, hdelivered.aide⟩

end HasAide

/-! ## Turns -/

variable [Platform σ]

theorem RunsInOrder.move {move : Move σ} (h : s₀.RunsInOrder s) (hmove : s.InOrder move) :
    s₀.RunsInOrder (s.perform move) := by
  obtain ⟨moves, hmoves, rfl⟩ := h
  exact ⟨moves ++ [move], allInOrder_append hmoves ⟨hmove, trivial⟩, by rw [run_append]; rfl⟩

/-- The state of a program that has kept the order so far and can go on doing so. -/
structure OnCourse (config : Config) (p : Policy) (s₀ s : Init σ) : Prop where
  runs : s₀.RunsInOrder s
  ready : s.halt = none → s.Ready config
  root : ∀ r ∈ p.root, s.HasAide r

namespace OnCourse

variable (hpatient : config.foundation.length + 2 ≤ patience)

include hpatient

theorem poll (h : s₀.OnCourse config p s) (hmove : s.InOrder (.poll id)) :
    s₀.OnCourse config p (s.pollQueued id) := by
  have hready := h.ready hmove.1
  exact {
    runs := h.runs.move hmove
    ready := hready.progress (hready.poll hpatient hmove)
    root := fun r hr => (h.root r hr).pollQueued hready hpatient id }

theorem pollRoot (hobeys : p.obeysHalt = true) (h : s₀.OnCourse config p s) :
    s₀.OnCourse config p (s.pollRoot p) := by
  rw [Init.pollRoot]
  split
  next id hid =>
    split
    next hrun =>
      obtain ⟨hrun, hqueue⟩ := Bool.and_eq_true_iff.mp hrun
      have hhalt : s.halt = none := by simpa [mayRun, hobeys] using hrun
      refine h.poll hpatient ⟨hhalt, by simpa using hqueue, fun hpausing => ?_⟩
      rw [(h.root id hid).pause?_eq] at hpausing
      cases hpausing
    next => exact h
  next => exact h

theorem pollTasks (hobeys : p.obeysHalt = true) (n : Nat) (h : s₀.OnCourse config p s) :
    s₀.OnCourse config p (s.pollTasks p n) := by
  induction n generalizing s with
  | zero => exact h
  | succ n ih =>
    rw [Init.pollTasks]
    split
    next hrun =>
      split
      next id hnext =>
        have hroot : ∀ root ∈ p.root, s.pause? root = none := fun root hr =>
          (h.root root hr).pause?_eq
        exact ih (h.poll hpatient (inOrder_next hobeys hrun hroot hnext))
      next => exact h
    next => exact h

theorem lookOutside (h : s₀.OnCourse config p s) : s₀.OnCourse config p s.lookOutside := by
  have hmoves : s.AllInOrder [.deliver, .ring, .takeBack] := ⟨trivial, trivial, trivial, trivial⟩
  obtain ⟨moves, hruns, rfl⟩ := h.runs
  exact {
    runs := ⟨moves ++ [.deliver, .ring, .takeBack], allInOrder_append hruns hmoves,
      by rw [run_append]; rfl⟩
    ready := Ready.run h.ready hpatient hmoves
    root := fun r hr => (h.root r hr).lookOutside }

end OnCourse

/-- The program on its own keeps the order of shutdowns. -/
theorem RunsInOrder.settle {graph : Units.Graph} {machine : σ} {notices : List Notice}
    (h : (fresh config graph machine notices).RunsInOrder s)
    (hpatient : config.foundation.length + 2 ≤ patience) (hobeys : p.obeysHalt = true)
    (hroot : ∀ r ∈ p.root, s.HasAide r) (fuel : Nat) :
    (fresh config graph machine notices).RunsInOrder (s.settle p fuel) := by
  have hready : s.halt = none → s.Ready config := by
    obtain ⟨moves, hmoves, rfl⟩ := h
    exact Ready.run (fun _ => ready_fresh config graph machine notices) hpatient hmoves
  have hcourse : (fresh config graph machine notices).OnCourse config p s := ⟨h, hready, hroot⟩
  clear h hready hroot
  induction fuel generalizing s with
  | zero => exact hcourse.runs
  | succ fuel ih =>
    rw [Init.settle]
    split
    · exact hcourse.runs
    · have hturn := (hcourse.pollRoot hpatient hobeys).pollTasks hpatient hobeys turnLength
      exact ih (hturn.lookOutside hpatient)

end InitDaemon.Init
