import InitDaemon.Proofs.Init.PollCourse

/-!
# Places

A task that pauses in a shutdown stands in the queue once or has one alarm set. Whoever may yet ask
for a shutdown has no alarm, and one place at most where it can go on. So a shutdown has no other
places than those of its pauses.
-/

namespace InitDaemon.Init

open Std InitDaemon.Journal

variable {σ : Type} {wakes : Task → Prop} {id c : TaskId} {t t' : Task} {s s' s'' : Init σ}
  {config : Config} {signal : Signal}

/-- What is left of the shutdown that a task pauses in. -/
def pause? (s : Init σ) (c : TaskId) : Option Pause :=
  s.tasks[c]?.bind Task.pause?

def pauses (s : Init σ) : Pauses where
  now := s.now
  line := s.queue.filter fun c => (s.pause? c).isSome
  asleep := s.alarms.filter fun a => (s.pause? a.task).isSome
  pause? := s.pause?

theorem pause?_eq (h : s.tasks[c]? = some t) : s.pause? c = t.pause? := by
  rw [pause?, h]
  rfl

structure Placed (s : Init σ) (c : TaskId) (t : Task) : Prop where
  lt : c < s.nextTask
  fits : t.Fits s.config
  once : t.IsCaller → (s.queue ++ s.deferred).count c ≤ 1
  no_alarm : t.IsCaller → ∀ a ∈ s.alarms, a.task ≠ c
  not_deferred : ¬ t.IsFree → c ∉ s.deferred

structure Tidy (s : Init σ) : Prop where
  queue_lt : ∀ c ∈ s.queue, c < s.nextTask
  deferred_lt : ∀ c ∈ s.deferred, c < s.nextTask
  alarm_lt : ∀ a ∈ s.alarms, a.task < s.nextTask
  placed : ∀ c t, s.tasks[c]? = some t → s.Placed c t

/-- The shutdowns that pause stay in their places, and no other one begins or ends. -/
structure Keeps (s s' : Init σ) : Prop where
  tidy : s'.Tidy
  config : s'.config = s.config
  now_le : s.now ≤ s'.now
  pauses : s'.pauses = { s.pauses with now := s'.now }
  calm : StaysCalm s.journal s'.journal
  halt : s.halt.isSome → s'.halt.isSome

theorem Tidy.keeps (h : s.Tidy) : s.Keeps s where
  tidy := h
  config := rfl
  now_le := Nat.le_refl _
  pauses := rfl
  calm := .refl _
  halt := id

theorem Keeps.trans (h : s.Keeps s') (h' : s'.Keeps s'') : s.Keeps s'' where
  tidy := h'.tidy
  config := h'.config.trans h.config
  now_le := Nat.le_trans h.now_le h'.now_le
  pauses := by rw [h'.pauses, h.pauses]
  calm := h.calm.trans h'.calm
  halt hhalt := h'.halt (h.halt hhalt)

/-- Nobody begins or ends a shutdown. -/
structure Advances (s s' : Init σ) : Prop where
  tidy : s'.Tidy
  config : s'.config = s.config
  calm : StaysCalm s.journal s'.journal
  halt : s.halt.isSome → s'.halt.isSome
  step : s.pauses.Step s'.pauses

theorem Keeps.advances (h : s.Keeps s') : s.Advances s' where
  tidy := h.tidy
  config := h.config
  calm := h.calm
  halt := h.halt
  step := by
    rw [h.pauses]
    exact .pass _ _ h.now_le

section

variable (htasks : s'.tasks = s.tasks) (hqueue : s'.queue = s.queue)
  (halarms : s'.alarms = s.alarms)

include htasks hqueue halarms

theorem pauses_of_fields : s'.pauses = { s.pauses with now := s'.now } := by
  have hpause : s'.pause? = s.pause? := by
    funext c
    rw [Init.pause?, htasks, Init.pause?]
  simp only [Init.pauses, hpause, hqueue, halarms]

/-- Only the tasks and their places matter. -/
theorem Tidy.of_fields (h : s.Tidy) (hnext : s'.nextTask = s.nextTask)
    (hdeferred : s'.deferred = s.deferred) (hconfig : s'.config = s.config) : s'.Tidy := by
  constructor
  case queue_lt =>
    rw [hqueue, hnext]
    exact h.queue_lt
  case deferred_lt =>
    rw [hdeferred, hnext]
    exact h.deferred_lt
  case alarm_lt =>
    rw [halarms, hnext]
    exact h.alarm_lt
  case placed =>
    intro c t ht
    have hold := h.placed c t (htasks ▸ ht)
    constructor
    case lt => exact hnext ▸ hold.lt
    case fits => exact hconfig ▸ hold.fits
    case once =>
      rw [hqueue, hdeferred]
      exact hold.once
    case no_alarm =>
      rw [halarms]
      exact hold.no_alarm
    case not_deferred =>
      rw [hdeferred]
      exact hold.not_deferred

theorem Tidy.keeps_of_fields (h : s.Tidy) (hnext : s'.nextTask = s.nextTask)
    (hdeferred : s'.deferred = s.deferred) (hconfig : s'.config = s.config) (hnow : s.now ≤ s'.now)
    (hcalm : StaysCalm s.journal s'.journal) (hhalt : s.halt.isSome → s'.halt.isSome) :
    s.Keeps s' where
  tidy := h.of_fields htasks hqueue halarms hnext hdeferred hconfig
  config := hconfig
  now_le := hnow
  pauses := pauses_of_fields htasks hqueue halarms
  calm := hcalm
  halt := hhalt

end

theorem Tidy.task_eq_none (h : s.Tidy) (hc : s.nextTask ≤ c) : s.tasks[c]? = none := by
  cases ht : s.tasks[c]? with
  | none => rfl
  | some t => exact absurd (h.placed c t ht).lt (Nat.not_lt_of_le hc)

theorem Tidy.pause?_eq_none (h : s.Tidy) (hc : s.nextTask ≤ c) : s.pause? c = none := by
  rw [Init.pause?, h.task_eq_none hc]
  rfl

/-! ## Others stir -/

/-- Whom nothing is to be done with may be left out. -/
theorem filter_eq_of_filter_ne {alarms alarms' : List Alarm} {p : TaskId → Bool}
    (h : alarms'.filter (·.task != id) = alarms.filter (·.task != id)) (hid : p id = false) :
    alarms'.filter (p ·.task) = alarms.filter (p ·.task) := by
  have hsplit : ∀ l : List Alarm, (l.filter (·.task != id)).filter (p ·.task) =
      l.filter (p ·.task) := by
    intro l
    rw [List.filter_filter]
    refine List.filter_congr fun a _ => ?_
    by_cases ha : a.task = id
    · simp [ha, hid]
    · simp [ha]
  rw [← hsplit, h, hsplit]

theorem filter_pausing_eq_nil {l : List TaskId} (h : ∀ c ∈ l, s.pause? c = none) :
    l.filter (fun c => (s.pause? c).isSome) = [] := by
  rw [List.filter_eq_nil_iff]
  intro c hc
  rw [h c hc]
  exact Bool.false_ne_true

theorem filter_pausing_append {l l' : List TaskId} (h : ∀ c ∈ l', s.pause? c = none) :
    (l ++ l').filter (fun c => (s.pause? c).isSome) =
      l.filter fun c => (s.pause? c).isSome := by
  rw [List.filter_append, filter_pausing_eq_nil h, List.append_nil]

theorem Tidy.not_deferred (h : s.Tidy) (hc : c ∈ s.deferred) : s.pause? c = none := by
  cases ht : s.tasks[c]? with
  | none =>
    rw [Init.pause?, ht]
    rfl
  | some t =>
    rw [Init.pause?_eq ht]
    by_contra hpausing
    exact (h.placed c t ht).not_deferred hpausing hc

theorem Tidy.pause?_stirs (h : s.Tidy) (hs : s.Stirs wakes id s') : s'.pause? = s.pause? := by
  funext c
  rcases hs.tasks c with heq | ⟨hge, -, t, ht, haide⟩
  · rw [Init.pause?, heq, Init.pause?]
  · rw [Init.pause?_eq ht, h.pause?_eq_none hge, haide.pause?_eq]

theorem Tidy.of_stirs (h : s.Tidy) (hs : s.Stirs wakes id s') : s'.Tidy := by
  obtain ⟨woken, hqueue, hwoken⟩ := hs.queue
  constructor
  case queue_lt =>
    intro c hc
    rw [hqueue] at hc
    rcases List.mem_append.mp hc with hc | hc
    · exact Nat.lt_of_lt_of_le (h.queue_lt c hc) hs.nextTask_le
    · rcases hwoken c hc with hnew | ⟨t, ht, -⟩
      · exact hnew.2
      · exact Nat.lt_of_lt_of_le (h.placed c t ht).lt hs.nextTask_le
  case deferred_lt =>
    intro c hc
    exact Nat.lt_of_lt_of_le (h.deferred_lt c (hs.deferred ▸ hc)) hs.nextTask_le
  case alarm_lt =>
    intro a ha
    exact Nat.lt_of_lt_of_le (h.alarm_lt a (hs.alarms_sublist.subset ha)) hs.nextTask_le
  case placed =>
    intro c t ht
    rcases hs.tasks c with heq | ⟨-, hlt, t', ht', haide⟩
    · have hold := h.placed c t (heq ▸ ht)
      exact {
        lt := Nat.lt_of_lt_of_le hold.lt hs.nextTask_le
        fits := hs.config ▸ hold.fits
        once := fun hcaller => hs.once c hold.lt (hold.once hcaller)
        no_alarm := fun hcaller a ha => hold.no_alarm hcaller a (hs.alarms_sublist.subset ha)
        not_deferred := fun hpausing => hs.deferred ▸ hold.not_deferred hpausing }
    · cases ht.symm.trans ht'
      exact {
        lt := hlt
        fits := haide.fits _
        once := fun hcaller => absurd hcaller haide.not_isCaller
        no_alarm := fun hcaller => absurd hcaller haide.not_isCaller
        not_deferred := fun hpausing => absurd haide.pause?_eq hpausing }

theorem Tidy.stirs (h : s.Tidy) (hs : s.Stirs wakes id s') (hwakes : ∀ t, wakes t → t.IsFree)
    (hid : s.pause? id = none) : s.Keeps s' := by
  refine ⟨h.of_stirs hs, hs.config, hs.now_le, ?_, hs.calm, fun hhalt => hs.halt ▸ hhalt⟩
  obtain ⟨woken, hqueue, hwoken⟩ := hs.queue
  have hnone : ∀ c ∈ woken, s.pause? c = none := by
    intro c hc
    rcases hwoken c hc with ⟨hge, -⟩ | ⟨t, ht, hfree⟩
    · exact h.pause?_eq_none hge
    · rw [Init.pause?_eq ht]
      exact hwakes t hfree
  have hasleep := filter_eq_of_filter_ne (p := fun c => (s.pause? c).isSome) hs.other_alarms
    (by rw [hid]; rfl)
  simp only [Init.pauses, h.pause?_stirs hs, hqueue, filter_pausing_append hnone, hasleep]

/-! ## A task takes a place -/

/-- A task has come to rest and has been given some places. -/
def atRest (s : Init σ) (id : TaskId) (t : Task) (deferred : List TaskId) (alarms : List Alarm) :
    Init σ :=
  { s with
    tasks := s.tasks.insert id t, deferred := s.deferred ++ deferred, alarms := s.alarms ++ alarms }

theorem suspend_eq (s : Init σ) (id : TaskId) (t : Task) :
    s.suspend id t = s.atRest id t [] [] := by
  simp only [atRest, List.append_nil]
  rfl

theorem defer_eq (s : Init σ) (id : TaskId) (t : Task) :
    s.defer id t = s.atRest id t [id] [] := by
  simp only [atRest, List.append_nil]
  rfl

theorem sleepUntil_eq (s : Init σ) (id : TaskId) (deadline : Nat) (t : Task) :
    s.sleepUntil id deadline t = s.atRest id t [] [⟨deadline, id⟩] := by
  simp only [atRest, List.append_nil]
  rfl

section

variable {deferred : List TaskId} {alarms : List Alarm}

theorem pause?_atRest (s : Init σ) (id c : TaskId) :
    (s.atRest id t deferred alarms).pause? c = if c = id then t.pause? else s.pause? c := by
  rw [pause?, atRest]
  dsimp only
  rw [getElem?_insert_task]
  by_cases h : c = id
  · rw [if_pos h, if_pos h.symm]
    rfl
  · rw [if_neg h, if_neg (Ne.symm h)]
    rfl

theorem Tidy.atRest (h : s.Tidy) (hdeferred : ∀ c ∈ deferred, c = id)
    (halarms : ∀ a ∈ alarms, a.task = id)
    (hplaced : (s.atRest id t deferred alarms).Placed id t) :
    (s.atRest id t deferred alarms).Tidy := by
  constructor
  case queue_lt => exact h.queue_lt
  case deferred_lt =>
    intro c hc
    rcases List.mem_append.mp hc with hc | hc
    · exact h.deferred_lt c hc
    · exact hdeferred c hc ▸ hplaced.lt
  case alarm_lt =>
    intro a ha
    rcases List.mem_append.mp ha with ha | ha
    · exact h.alarm_lt a ha
    · exact halarms a ha ▸ hplaced.lt
  case placed =>
    intro c t' ht'
    change (s.tasks.insert id t)[c]? = _ at ht'
    rw [getElem?_insert_task] at ht'
    split at ht'
    next heq =>
      subst heq
      cases ht'
      exact hplaced
    next hne =>
      have hold := h.placed c t' ht'
      have hc : c ∉ deferred := fun hc => hne (hdeferred c hc).symm
      refine { lt := hold.lt, fits := hold.fits, once := ?_, no_alarm := ?_, not_deferred := ?_ }
      · intro hcaller
        have hcount := hold.once hcaller
        rw [List.count_append] at hcount
        change (s.queue ++ (s.deferred ++ deferred)).count c ≤ 1
        rw [List.count_append, List.count_append, List.count_eq_zero.mpr hc]
        exact hcount
      · intro hcaller a ha heq
        rcases List.mem_append.mp ha with ha | ha
        · exact hold.no_alarm hcaller a ha heq
        · exact hne ((halarms a ha).symm.trans heq)
      · intro hpausing hmem
        exact (List.mem_append.mp hmem).elim (hold.not_deferred hpausing) hc

theorem Tidy.keeps_atRest (h : s.Tidy) (hid : s.pause? id = none) (ht : t.IsFree)
    (hdeferred : ∀ c ∈ deferred, c = id) (halarms : ∀ a ∈ alarms, a.task = id)
    (hplaced : (s.atRest id t deferred alarms).Placed id t) :
    s.Keeps (s.atRest id t deferred alarms) := by
  have hpause : (s.atRest id t deferred alarms).pause? = s.pause? := by
    funext c
    rw [pause?_atRest]
    split
    next heq => rw [heq, hid, ht]
    next => rfl
  have hnone : alarms.filter (fun a => (s.pause? a.task).isSome) = [] := by
    rw [List.filter_eq_nil_iff]
    intro a ha
    rw [halarms a ha, hid]
    exact Bool.false_ne_true
  refine { h.keeps with tidy := h.atRest hdeferred halarms hplaced, pauses := ?_ }
  rw [Init.pauses, hpause]
  simp only [Init.atRest, Init.pauses, List.filter_append, hnone, List.append_nil]

end

theorem Tidy.keeps_endTask (h : s.Tidy) (hid : s.pause? id = none) : s.Keeps (s.endTask id) := by
  have htask : ∀ c : TaskId, (s.endTask id).tasks[c]? = if id = c then none else s.tasks[c]? :=
    getElem?_erase_task s.tasks
  have hpause : (s.endTask id).pause? = s.pause? := by
    funext c
    rw [Init.pause?, htask]
    split
    next heq => exact heq ▸ hid.symm
    next => rfl
  refine { h.keeps with tidy := { h with placed := fun c t ht => ?_ }, pauses := ?_ }
  · rw [htask] at ht
    split at ht
    next => cases ht
    next =>
      have hold := h.placed c t ht
      exact ⟨hold.lt, hold.fits, hold.once, hold.no_alarm, hold.not_deferred⟩
  · rw [Init.pauses, hpause]
    rfl

theorem Tidy.keeps_stop (h : s.Tidy) (hid : s.pause? id = none) (halt : Halt) :
    s.Keeps (s.stop id halt) := by
  have hended := h.keeps_endTask hid
  exact hended.trans (hended.tidy.keeps_of_fields rfl rfl rfl rfl rfl rfl (Nat.le_refl _) (.refl _)
    fun _ => s.isSome_halt_stop id halt)

/-! ## A task is polled -/

theorem Tidy.unqueue (h : s.Tidy) (id : TaskId) : (s.unqueue id).Tidy := by
  refine { h with queue_lt := fun c hc => h.queue_lt c (List.mem_of_mem_erase hc), placed := ?_ }
  intro c t ht
  have hold := h.placed c t ht
  refine ⟨hold.lt, hold.fits, fun hcaller => ?_, hold.no_alarm, hold.not_deferred⟩
  have hsub : (s.queue.erase id ++ s.deferred).Sublist (s.queue ++ s.deferred) :=
    List.erase_sublist.append_right s.deferred
  exact Nat.le_trans (hsub.count_le c) (hold.once hcaller)

theorem pauses_unqueue (s : Init σ) (id : TaskId) :
    (s.unqueue id).pauses = { s.pauses with line := s.pauses.line.erase id } := by
  simp only [pauses, List.erase_filter]
  rfl

section

variable {grace : Nat} (hsound : s.pauses.Sound grace) (hid : id ∈ s.pauses.line)

include hsound hid

/-- Who stands in line stands in the queue once and has no alarm. -/
theorem not_mem_erase_of_line : id ∉ s.queue.erase id := by
  have hcount : s.pauses.line.count id = s.queue.count id :=
    List.count_filter (List.mem_filter.mp hid).2
  have hone := List.nodup_iff_count_le_one.mp hsound.nodup.of_append_left id
  rw [← List.count_eq_zero, List.count_erase_self]
  omega

theorem no_alarm_of_line : ∀ a ∈ s.alarms, a.task ≠ id := by
  rintro a ha rfl
  have hasleep : a ∈ s.pauses.asleep := List.mem_filter.mpr ⟨ha, (List.mem_filter.mp hid).2⟩
  exact (List.nodup_append'.mp hsound.nodup).2.2 hid (List.mem_map_of_mem hasleep)

end

theorem Tidy.keeps_unqueue (h : s.Tidy) (hid : s.pause? id = none) : s.Keeps (s.unqueue id) := by
  refine { h.keeps with tidy := h.unqueue id, pauses := ?_ }
  have hnot : id ∉ s.pauses.line := by
    intro hmem
    have hsome := (List.mem_filter.mp hmem).2
    rw [hid] at hsome
    cases hsome
  rw [pauses_unqueue, List.erase_of_not_mem hnot]
  rfl

/-- A task comes to rest as a task of its own kind. -/
theorem Placed.becomes {deferred : List TaskId} (h : s.Placed id t) (ht : t.Becomes s.config t')
    (hout : t.IsCaller → id ∉ s.queue ++ s.deferred) (hdeferred : deferred.count id ≤ 1) :
    (s.atRest id t' deferred []).Placed id t' := by
  refine ⟨h.lt, ?_, fun hcaller => ?_, fun hcaller => ?_, fun hpausing => absurd ht.isFree hpausing⟩
  · exact ht.elim (fun haide => haide.2.fits _) fun hcaller => hcaller.2.2
  · rcases ht with ⟨-, haide⟩ | ⟨hbefore, -⟩
    · exact absurd hcaller haide.not_isCaller
    · have hzero := List.count_eq_zero.mpr (hout hbefore)
      rw [List.count_append] at hzero
      change (s.queue ++ (s.deferred ++ deferred)).count id ≤ 1
      rw [List.count_append, List.count_append]
      omega
  · rcases ht with ⟨-, haide⟩ | ⟨hbefore, -⟩
    · exact absurd hcaller haide.not_isCaller
    · intro a ha
      exact h.no_alarm hbefore a (by simpa [atRest] using ha)

/-- Who goes on has no place in the meantime. -/
theorem Placed.out (h : s.Placed id t) (ht : s.tasks[id]? = some t) (hcaller : t.IsCaller)
    (hid : id ∈ s.queue) (hs : (s.unqueue id).Stirs wakes id s') (hnot : ¬ wakes t) :
    id ∉ s'.queue ++ s'.deferred := by
  have hcount := h.once hcaller
  have hpos := List.count_pos_iff.mpr hid
  rw [List.count_append] at hcount
  have hqueue : id ∉ s.queue.erase id := by
    rw [← List.count_eq_zero, List.count_erase_self]
    omega
  have hdeferred : id ∉ s.deferred := by
    rw [← List.count_eq_zero]
    omega
  obtain ⟨woken, heq, hwoken⟩ := hs.queue
  rw [heq, hs.deferred]
  intro hmem
  rcases List.mem_append.mp hmem with hmem | hmem
  · rcases List.mem_append.mp hmem with hmem | hmem
    · exact hqueue hmem
    · rcases hwoken id hmem with ⟨hge, -⟩ | ⟨t', ht', hwakes⟩
      · exact Nat.not_lt_of_le hge h.lt
      · cases ht'.symm.trans ht
        exact hnot hwakes
  · exact hdeferred hmem

theorem Tidy.pauseUntil (h : s.Tidy) (hlt : id < s.nextTask) (hdeferred : id ∉ s.deferred)
    (state : PowerState) (deadline : Nat) (next : PowerStage) :
    (s.pauseUntil id state deadline next).Tidy := by
  rw [Init.pauseUntil, sleepUntil_eq]
  refine h.atRest (List.forall_mem_nil _) (List.forall_mem_singleton.mpr rfl)
    ⟨hlt, trivial, False.elim, False.elim, fun _ hmem => hdeferred ?_⟩
  simpa [Init.atRest] using hmem

theorem pauses_pauseUntil (hqueue : id ∉ s.queue) (halarms : ∀ a ∈ s.alarms, a.task ≠ id)
    (state : PowerState) (deadline : Nat) (next : PowerStage) :
    (s.pauseUntil id state deadline next).pauses = s.pauses.sleep id ⟨state, deadline, next⟩ := by
  rw [Init.pauseUntil, sleepUntil_eq]
  have hpause : (s.atRest id (.power state (.pausing deadline next)) [] [⟨deadline, id⟩]).pause? =
      (s.pauses.sleep id ⟨state, deadline, next⟩).pause? := funext fun c => s.pause?_atRest id c
  have hself : (s.pauses.sleep id ⟨state, deadline, next⟩).pause? id =
      some ⟨state, deadline, next⟩ := if_pos rfl
  have hother : ∀ c, c ≠ id → (s.pauses.sleep id ⟨state, deadline, next⟩).pause? c = s.pause? c :=
    fun c hc => if_neg hc
  rw [pauses, hpause, Pauses.mk.injEq]
  refine ⟨rfl, List.filter_congr fun c hc => ?_, ?_, rfl⟩
  · rw [hother c fun heq => hqueue (heq ▸ hc)]
  · have hold := List.filter_congr fun a (ha : a ∈ s.alarms) =>
      congrArg Option.isSome (hother a.task (halarms a ha))
    rw [Init.atRest]
    dsimp only
    rw [List.filter_append, hold, List.filter_cons_of_pos (by rw [hself]; rfl)]
    rfl

variable [Platform σ]

/-- A task that does not pause leaves all pauses as they are, unless it asks for another power
state. -/
theorem Tidy.fate (h : s.Tidy) (ht : s.tasks[id]? = some t) (hfree : t.IsFree)
    (hout : t.IsCaller → id ∉ s.queue ++ s.deferred) (hfate : Fate id t s s') :
    s.Keeps s' ∨ t.IsCaller ∧ ∃ cause state left, 2 ≤ left ∧ s' = s.power id cause state left := by
  have hid : s.pause? id = none := (Init.pause?_eq ht).trans hfree
  have hold := h.placed id t ht
  cases hfate with
  | stay => exact .inl h.keeps
  | suspend t' hbecomes =>
    rw [suspend_eq]
    exact .inl (h.keeps_atRest hid hbecomes.isFree (List.forall_mem_nil _) (List.forall_mem_nil _)
      (hold.becomes hbecomes hout (Nat.zero_le _)))
  | defer t' hbecomes =>
    rw [defer_eq]
    exact .inl (h.keeps_atRest hid hbecomes.isFree (List.forall_mem_singleton.mpr rfl)
      (List.forall_mem_nil _) (hold.becomes hbecomes hout (by simp)))
  | sleep deadline t' haide haide' =>
    rw [sleepUntil_eq]
    have hplaced : (s.atRest id t' [] [⟨deadline, id⟩]).Placed id t' := {
      lt := hold.lt
      fits := haide'.fits _
      once := fun hcaller => absurd hcaller haide'.not_isCaller
      no_alarm := fun hcaller => absurd hcaller haide'.not_isCaller
      not_deferred := fun hpausing => absurd haide'.pause?_eq hpausing }
    exact .inl (h.keeps_atRest hid haide'.pause?_eq (List.forall_mem_nil _)
      (List.forall_mem_singleton.mpr rfl) hplaced)
  | ended => exact .inl (h.keeps_endTask hid)
  | halted halt => exact .inl (h.keeps_stop hid halt)
  | request hcaller cause state left hleft => exact .inr ⟨hcaller, cause, state, left, hleft, rfl⟩

/-- The task asks for another power state, and has no place any more. -/
structure Asks (s s' : Init σ) (id : TaskId) : Prop where
  free : s.pause? id = none
  lt : id < s.nextTask
  out : id ∉ s.queue ++ s.deferred
  no_alarm : ∀ a ∈ s.alarms, a.task ≠ id
  eq : ∃ cause state left, 2 ≤ left ∧ s' = s.power id cause state left

theorem Tidy.poll (h : s.Tidy) (hid : id ∈ s.queue) (hfree : s.pause? id = none)
    (hpatient : s.config.foundation.length + 2 ≤ patience) :
    s.Keeps (s.pollQueued id) ∨ ∃ s₁, s.Keeps s₁ ∧ s₁.Asks (s.pollQueued id) id := by
  have hunqueued := h.keeps_unqueue hfree
  have hqueue : s.pollQueued id = (s.unqueue id).poll id := rfl
  rw [hqueue, Init.poll]
  split
  next t ht =>
    have hold := h.placed id t ht
    have htfree : t.IsFree := (Init.pause?_eq ht).symm.trans hfree
    have hcourse : ∃ wakes : Task → Prop, (∀ t', wakes t' → t'.IsFree) ∧
        (t.IsCaller → ¬ wakes t) ∧
          Goes wakes id t (s.unqueue id) ((s.unqueue id).pollTask id t) := by
      rcases hold.fits.kind with haide | hcaller | ⟨state, deadline, next, rfl⟩
      · refine ⟨Task.IsFree, fun _ h => h, fun hcaller => ?_, goes_aide haide id _⟩
        exact absurd hcaller haide.not_isCaller
      · obtain ⟨wakes, hwakes, hnot, hgoes⟩ :=
          goes_caller (s := s.unqueue id) hcaller id hold.fits hpatient
        exact ⟨wakes, hwakes, fun _ => hnot, hgoes⟩
      · cases htfree
    obtain ⟨wakes, hwakes, hnot, s₁, hstirs, hfate⟩ := hcourse
    have hkeeps := hunqueued.trans (hunqueued.tidy.stirs hstirs hwakes hfree)
    have ht₁ : s₁.tasks[id]? = some t := (hstirs.task_eq hold.lt).trans ht
    have hold₁ := hkeeps.tidy.placed id t ht₁
    have hout : t.IsCaller → id ∉ s₁.queue ++ s₁.deferred := fun hcaller =>
      hold.out ht hcaller hid hstirs (hnot hcaller)
    rcases hkeeps.tidy.fate ht₁ htfree hout hfate with hrest | ⟨hcaller, hpower⟩
    · exact .inl (hkeeps.trans hrest)
    · have hfree₁ : s₁.pause? id = none := (Init.pause?_eq ht₁).trans htfree
      exact .inr ⟨s₁, hkeeps, hfree₁, hold₁.lt, hout hcaller, hold₁.no_alarm hcaller, hpower⟩
  next => exact .inl hunqueued

end InitDaemon.Init
