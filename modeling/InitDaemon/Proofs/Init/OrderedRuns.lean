import InitDaemon.Proofs.Init.Places
import InitDaemon.Proofs.Init.Runs

/-!
# Runs that keep the order of shutdowns

Tasks may be polled in any order, with one exception: of the shutdowns whose pauses have ended the
one that was woken first goes on first. Signals, alarms and whatever is asked of the init from
outside come at any time, and nobody goes on after a halt.
-/

namespace InitDaemon.Init

open Std InitDaemon.Journal

variable {σ : Type} {id c : TaskId} {t : Task} {s s' : Init σ} {grace : Nat}

/-! ## Signals -/

theorem pause?_mark (signal : Signal) (t : Task) : (mark signal t).pause? = t.pause? := by
  unfold mark
  split
  all_goals rfl

theorem isCaller_mark (signal : Signal) (t : Task) : (mark signal t).IsCaller ↔ t.IsCaller := by
  unfold mark
  split
  all_goals exact .rfl

theorem fits_mark {config : Config} (signal : Signal) (h : t.Fits config) :
    (mark signal t).Fits config := by
  unfold mark
  split
  case h_4 => exact h
  all_goals trivial

theorem isFree_of_wakes {signal : Signal} (h : wakes signal t = true) : t.IsFree := by
  cases t with
  | power => cases signal <;> cases h
  | _ => rfl

theorem Tidy.keeps_mark (h : s.Tidy) (signal : Signal) :
    s.Keeps { s with tasks := s.tasks.map fun _ t => mark signal t } := by
  have htask : ∀ c : TaskId, ({ s with
      tasks := s.tasks.map fun _ t => mark signal t } : Init σ).tasks[c]? =
        s.tasks[c]?.map (mark signal) := fun c => by
    change (s.tasks.map _)[c]? = _
    rw [ExtTreeMap.getElem?_map]
  have hpause : ({ s with
      tasks := s.tasks.map fun _ t => mark signal t } : Init σ).pause? = s.pause? := by
    funext c
    rw [Init.pause?, htask, Init.pause?]
    cases s.tasks[c]? with
    | none => rfl
    | some t => exact pause?_mark signal t
  refine { h.keeps with tidy := { h with placed := fun c t ht => ?_ }, pauses := ?_ }
  · rw [htask, Option.map_eq_some_iff] at ht
    obtain ⟨t, ht, rfl⟩ := ht
    have hold := h.placed c t ht
    constructor
    case lt => exact hold.lt
    case fits => exact fits_mark signal hold.fits
    case once => exact fun hcaller => hold.once ((isCaller_mark signal t).mp hcaller)
    case no_alarm => exact fun hcaller => hold.no_alarm ((isCaller_mark signal t).mp hcaller)
    case not_deferred =>
      intro hpausing
      exact hold.not_deferred fun hfree => hpausing ((pause?_mark signal t).trans hfree)
  · rw [Init.pauses, hpause]
    rfl

theorem Tidy.keeps_deliver (h : s.Tidy) (signal : Signal) : s.Keeps (s.deliver signal) := by
  have hmarked := h.keeps_mark signal
  have hnext := hmarked.tidy.pause?_eq_none (Nat.le_refl s.nextTask)
  refine hmarked.trans (hmarked.tidy.stirs ((Stirs.refl Task.IsFree s.nextTask _).wakeAll ?_)
    (fun _ hfree => hfree) hnext)
  intro c hc
  obtain ⟨t, ht, hwakes⟩ := mem_tasksWhere.mp hc
  refine ⟨mark signal t, ?_, (pause?_mark signal t).trans (isFree_of_wakes hwakes)⟩
  change (s.tasks.map _)[c]? = _
  rw [ExtTreeMap.getElem?_map, ht]
  rfl

theorem Tidy.keeps_deliverRaised (h : s.Tidy) : s.Keeps s.deliverRaised := by
  have hraised : s.Keeps { s with raised := [] } :=
    h.keeps_of_fields rfl rfl rfl rfl rfl rfl (Nat.le_refl _) (.refl _) id
  exact deliverRaised_induction (q := s.Keeps) hraised fun s' signal hs =>
    hs.trans (hs.tidy.keeps_deliver signal)

/-! ## Those that let others go first -/

theorem Tidy.keeps_takeBack (h : s.Tidy) : s.Keeps s.takeBack := by
  refine { h.keeps with tidy := ?_, pauses := ?_ }
  · constructor
    case queue_lt =>
      intro c hc
      rcases List.mem_append.mp hc with hc | hc
      · exact h.queue_lt c hc
      · exact h.deferred_lt c (List.mem_reverse.mp hc)
    case deferred_lt => exact List.forall_mem_nil _
    case alarm_lt => exact h.alarm_lt
    case placed =>
      intro c t ht
      have hold := h.placed c t ht
      refine ⟨hold.lt, hold.fits, fun hcaller => ?_, hold.no_alarm, fun _ => List.not_mem_nil⟩
      have hcount := hold.once hcaller
      simpa [takeBack, List.count_append] using hcount
  · have hnone : ∀ c ∈ s.deferred.reverse, s.pause? c = none := fun c hc =>
      h.not_deferred (List.mem_reverse.mp hc)
    rw [Init.pauses, Init.pauses, ← filter_pausing_append (l := s.queue) hnone]
    rfl

/-! ## New tasks -/

theorem tasks_addTask (s : Init σ) (t : Task) (c : TaskId) :
    (s.addTask t).tasks[c]? = if s.nextTask = c then some t else s.tasks[c]? :=
  getElem?_insert_task s.tasks c

theorem Tidy.addTask (h : s.Tidy) (ht : t.IsFree) (hfits : t.Fits s.config) :
    (s.addTask t).Tidy := by
  have hnew : s.nextTask ∉ s.queue ++ s.deferred := by
    intro hmem
    rcases List.mem_append.mp hmem with hmem | hmem
    · exact Nat.lt_irrefl _ (h.queue_lt _ hmem)
    · exact Nat.lt_irrefl _ (h.deferred_lt _ hmem)
  constructor
  case queue_lt =>
    intro c hc
    rcases List.mem_append.mp hc with hc | hc
    · exact Nat.lt_succ_of_lt (h.queue_lt c hc)
    · exact List.mem_singleton.mp hc ▸ Nat.lt_succ_self _
  case deferred_lt => exact fun c hc => Nat.lt_succ_of_lt (h.deferred_lt c hc)
  case alarm_lt => exact fun a ha => Nat.lt_succ_of_lt (h.alarm_lt a ha)
  case placed =>
    intro c t' ht'
    rw [tasks_addTask] at ht'
    split at ht'
    next heq =>
      subst heq
      cases ht'
      refine ⟨Nat.lt_succ_self _, hfits, fun _ => ?_, fun _ a ha => ?_, fun hpausing => ?_⟩
      · have hzero : (s.queue ++ s.deferred).count s.nextTask ≤ 1 := by
          rw [List.count_eq_zero.mpr hnew]
          exact Nat.zero_le 1
        exact once_append hnew hzero
      · exact Nat.ne_of_lt (h.alarm_lt a ha)
      · exact absurd ht hpausing
    next hne =>
      have hold := h.placed c t' ht'
      refine ⟨Nat.lt_succ_of_lt hold.lt, hold.fits, fun hcaller => ?_, hold.no_alarm,
        hold.not_deferred⟩
      exact once_append hnew (hold.once hcaller)

theorem Tidy.keeps_addTask (h : s.Tidy) (ht : t.IsFree) (hfits : t.Fits s.config) :
    s.Keeps (s.addTask t) := by
  have hfree := h.pause?_eq_none (Nat.le_refl s.nextTask)
  have hpause : (s.addTask t).pause? = s.pause? := by
    funext c
    rw [Init.pause?, tasks_addTask]
    split
    next heq => exact heq ▸ ht.trans hfree.symm
    next => rfl
  have hnone : ∀ c ∈ [s.nextTask], s.pause? c = none := List.forall_mem_singleton.mpr hfree
  refine { h.keeps with tidy := h.addTask ht hfits, pauses := ?_ }
  rw [Init.pauses, hpause, Init.pauses, ← filter_pausing_append (l := s.queue) hnone]
  rfl

/-! ## Alarms -/

/-- Those that are known to wait are woken in their order, and nobody is woken twice. -/
theorem wakeAll_line (p : TaskId → Bool) (ids : List TaskId) (s : Init σ)
    (hnodup : (ids.filter p).Nodup)
    (hwaiting : ∀ c ∈ ids, p c = true → c ∉ s.queue ++ s.deferred) :
    ∃ woken, s.wakeAll ids = { s with queue := s.queue ++ woken } ∧ woken ⊆ ids ∧
      woken.filter p = ids.filter p ∧ ∀ c, (s.queue ++ s.deferred).count c ≤ 1 →
        (s.queue ++ woken ++ s.deferred).count c ≤ 1 := by
  induction ids generalizing s with
  | nil =>
    refine ⟨[], ?_, List.Subset.refl _, rfl, fun c hcount => ?_⟩
    · rw [List.append_nil]
      rfl
    · rwa [List.append_nil]
  | cons c ids ih =>
    have hsub : (ids.filter p).Nodup := hnodup.sublist ((List.sublist_cons_self c ids).filter p)
    rcases s.wake_cases c with ⟨hc, heq⟩ | ⟨hc, heq⟩
    · obtain ⟨woken, hwoken, hids, hfilter, hcount⟩ := ih (s.wake c) hsub fun c' hc' hp => by
        have hne : c' ≠ c := by
          rintro rfl
          rw [List.filter_cons_of_pos hp] at hnodup
          exact (List.nodup_cons.mp hnodup).1 (List.mem_filter.mpr ⟨hc', hp⟩)
        have hold := hwaiting c' (List.mem_cons_of_mem c hc') hp
        rw [heq]
        simpa [hne] using hold
      rw [heq] at hwoken hcount
      refine ⟨c :: woken, ?_, ?_, ?_, fun c' hc' => ?_⟩
      · rw [wakeAll, List.foldl_cons, heq]
        rw [wakeAll] at hwoken
        rw [hwoken, List.append_assoc]
        rfl
      · exact List.cons_subset_cons c hids
      · rw [List.filter_cons, List.filter_cons, hfilter]
      · have hone := hcount c' (once_append hc hc')
        simpa [List.append_assoc] using hone
    · -- Who is not woken does not wait, so it is none of those that are known to.
      obtain ⟨woken, hwoken, hids, hfilter, hcount⟩ := ih s hsub fun c' hc' hp =>
        hwaiting c' (List.mem_cons_of_mem c hc') hp
      have hp : ¬ p c = true := fun hp => hwaiting c List.mem_cons_self hp hc
      refine ⟨woken, ?_, fun c' hc' => List.mem_cons_of_mem c (hids hc'), ?_, hcount⟩
      · rw [wakeAll, List.foldl_cons, heq]
        exact hwoken
      · rw [List.filter_cons_of_neg hp, hfilter]

/-- The alarms that are due, in the order in which they ring. -/
def due (s : Init σ) : List Alarm :=
  (s.alarms.filter (·.deadline ≤ s.now)).mergeSort fun a b => a.deadline ≤ b.deadline

theorem ring_eq (s : Init σ) : s.ring = ({ s with
    alarms := s.alarms.filter (s.now < ·.deadline) } : Init σ).wakeAll (s.due.map Alarm.task) := by
  have hlater : s.alarms.filter (not ∘ fun a => decide (a.deadline ≤ s.now)) =
      s.alarms.filter (s.now < ·.deadline) := by
    refine List.filter_congr fun a _ => ?_
    simp only [Function.comp_apply, ← decide_not, Nat.not_le]
  rw [Init.ring, List.partition_eq_filter_filter, hlater]
  rfl

/-- Alarms that were set in the order of their deadlines ring in this order. -/
theorem due_of_sorted (h : s.alarms.Pairwise fun a b => a.deadline ≤ b.deadline) :
    s.due = s.alarms.filter (·.deadline ≤ s.now) := by
  have hsorted := h.sublist (List.filter_sublist (p := fun a => decide (a.deadline ≤ s.now)))
  exact List.mergeSort_of_pairwise (hsorted.imp decide_eq_true)

theorem rings_due (s : Init σ) :
    s.pauses.Rings (s.due.filter fun a => (s.pause? a.task).isSome) := by
  have htrans : ∀ a b c : Alarm, decide (a.deadline ≤ b.deadline) = true →
      decide (b.deadline ≤ c.deadline) = true → decide (a.deadline ≤ c.deadline) = true := by
    simp only [decide_eq_true_eq]
    omega
  have htotal : ∀ a b : Alarm,
      (decide (a.deadline ≤ b.deadline) || decide (b.deadline ≤ a.deadline)) = true := by
    simp only [Bool.or_eq_true, decide_eq_true_eq]
    omega
  constructor
  case perm =>
    have hperm := (List.mergeSort_perm (s.alarms.filter (·.deadline ≤ s.now))
      fun a b => decide (a.deadline ≤ b.deadline)).filter fun a => (s.pause? a.task).isSome
    rwa [List.filter_comm] at hperm
  case sorted =>
    have hsorted := List.pairwise_mergeSort htrans htotal (s.alarms.filter (·.deadline ≤ s.now))
    simp only [decide_eq_true_eq] at hsorted
    exact hsorted.sublist List.filter_sublist
  case stable =>
    intro a b hpair hdue hle
    have hsome : ∀ x ∈ [a, b], (s.pause? x.task).isSome = true := fun x hx =>
      (List.mem_filter.mp (hpair.subset hx)).2
    have hringing : ∀ x ∈ [a, b], decide (x.deadline ≤ s.now) = true := by
      simp only [List.mem_cons, List.not_mem_nil, or_false, forall_eq_or_imp, forall_eq,
        decide_eq_true_eq]
      exact ⟨Nat.le_trans hle hdue, hdue⟩
    have halarms := (hpair.trans List.filter_sublist).filter fun x : Alarm => x.deadline ≤ s.now
    rw [List.filter_eq_self.mpr hringing] at halarms
    have hsorted := (List.pair_sublist_mergeSort htrans htotal (decide_eq_true hle) halarms).filter
      fun x => (s.pause? x.task).isSome
    rwa [List.filter_eq_self.mpr hsome] at hsorted

theorem mem_alarms_of_due {a : Alarm} (h : a ∈ s.due) : a ∈ s.alarms :=
  (List.mem_filter.mp ((List.mergeSort_perm _ _).mem_iff.mp h)).1

/-- The shutdowns that are due fall in behind those that stand in line. -/
theorem Tidy.ring_eq_queue (h : s.Tidy) (hsound : s.pauses.Sound grace) : ∃ woken,
    s.ring = { s with
      alarms := s.alarms.filter (s.now < ·.deadline), queue := s.queue ++ woken } ∧
    woken ⊆ s.due.map Alarm.task ∧
    woken.filter (fun c => (s.pause? c).isSome) =
      (s.due.filter fun a => (s.pause? a.task).isSome).map Alarm.task ∧
    ∀ c, (s.queue ++ s.deferred).count c ≤ 1 → (s.queue ++ woken ++ s.deferred).count c ≤ 1 := by
  have hline : (s.due.map Alarm.task).filter (fun c => (s.pause? c).isSome) =
      (s.due.filter fun a => (s.pause? a.task).isSome).map Alarm.task := by
    rw [List.filter_map]
    rfl
  have hnodup : ((s.due.map Alarm.task).filter fun c => (s.pause? c).isSome).Nodup := by
    rw [hline, (s.rings_due.perm.map Alarm.task).nodup_iff]
    exact hsound.nodup.of_append_right.sublist (List.filter_sublist.map Alarm.task)
  have hwaiting : ∀ c ∈ s.due.map Alarm.task, (s.pause? c).isSome = true →
      c ∉ s.queue ++ s.deferred := by
    intro c hc hsome hplace
    obtain ⟨a, ha, rfl⟩ := List.mem_map.mp hc
    rcases List.mem_append.mp hplace with hqueue | hdeferred
    · have hidline : a.task ∈ s.pauses.line := List.mem_filter.mpr ⟨hqueue, hsome⟩
      exact no_alarm_of_line hsound hidline a (mem_alarms_of_due ha) rfl
    · rw [h.not_deferred hdeferred] at hsome
      cases hsome
  have hwoken := wakeAll_line (fun c => (s.pause? c).isSome) (s.due.map Alarm.task)
    { s with alarms := s.alarms.filter (s.now < ·.deadline) } hnodup hwaiting
  rwa [← ring_eq, hline] at hwoken

theorem Tidy.advances_ring (h : s.Tidy) (hsound : s.pauses.Sound grace) : s.Advances s.ring := by
  obtain ⟨woken, hring, hids, hfilter, hcount⟩ := h.ring_eq_queue hsound
  rw [hring]
  constructor
  case config => rfl
  case calm => exact .refl _
  case halt => exact id
  case step =>
    have hstep := Pauses.Step.ring s.pauses _ s.rings_due
    have hqueue : s.pauses.line ++ woken.filter (fun c => (s.pause? c).isSome) =
        (s.queue ++ woken).filter fun c => (s.pause? c).isSome := (List.filter_append ..).symm
    have halarms : s.pauses.asleep.filter (s.pauses.now < ·.deadline) =
        (s.alarms.filter (s.now < ·.deadline)).filter fun a => (s.pause? a.task).isSome :=
      List.filter_comm ..
    rw [← hfilter, hqueue, halarms] at hstep
    exact hstep
  case tidy =>
    constructor
    case queue_lt =>
      intro c hc
      rcases List.mem_append.mp hc with hc | hc
      · exact h.queue_lt c hc
      · obtain ⟨a, ha, rfl⟩ := List.mem_map.mp (hids hc)
        exact h.alarm_lt a (mem_alarms_of_due ha)
    case deferred_lt => exact h.deferred_lt
    case alarm_lt => exact fun a ha => h.alarm_lt a (List.mem_filter.mp ha).1
    case placed =>
      intro c t ht
      have hold := h.placed c t ht
      exact ⟨hold.lt, hold.fits, fun hcaller => hcount c (hold.once hcaller),
        fun hcaller a ha => hold.no_alarm hcaller a (List.mem_filter.mp ha).1, hold.not_deferred⟩

/-! ## Moves -/

theorem Tidy.keeps_stirs {wakes : Task → Prop} (h : s.Tidy) (hs : s.Stirs wakes s.nextTask s')
    (hwakes : ∀ t, wakes t → t.IsFree) : s.Keeps s' :=
  h.stirs hs hwakes (h.pause?_eq_none (Nat.le_refl _))

def InOrder (s : Init σ) : Move σ → Prop
  | .poll id => s.halt = none ∧ id ∈ s.queue ∧
      ((s.pause? id).isSome → s.pauses.line.head? = some id)
  | .powerStage .. => False
  | _ => True

instance decidableInOrder (s : Init σ) : DecidablePred s.InOrder
  | .poll id => inferInstanceAs (Decidable (s.halt = none ∧ id ∈ s.queue ∧
      ((s.pause? id).isSome → s.pauses.line.head? = some id)))
  | .powerStage .. => .isFalse not_false
  | .pass _ | .change _ | .raise _ | .deliver | .ring | .takeBack | .request .. | .boot | .watch
  | .supervise _ | .power _ | .stopRestarts | .rescue | .spawn _ | .spawnAndReport _ | .launch ..
  | .release _ | .tick _ => .isTrue trivial

/-- The policy of the program polls in this order if its root never pauses. -/
theorem inOrder_next {p : Policy} (hobeys : p.obeysHalt = true) (hrun : s.mayRun p = true)
    (hroot : ∀ root ∈ p.root, s.pause? root = none)
    (hnext : s.queue.find? (fun id => p.root != some id) = some id) : s.InOrder (.poll id) := by
  have hhalt : s.halt = none := by simpa [mayRun, hobeys] using hrun
  refine ⟨hhalt, List.mem_of_find?_eq_some hnext, fun hpausing => ?_⟩
  obtain ⟨-, before, after, hqueue, hbefore⟩ := List.find?_eq_some_iff_append.mp hnext
  have hnone : ∀ c ∈ before, s.pause? c = none := fun c hc =>
    hroot c (by simpa using hbefore c hc)
  have hline : s.pauses.line = id :: after.filter fun c => (s.pause? c).isSome := by
    have hsplit : s.pauses.line = (before ++ id :: after).filter fun c => (s.pause? c).isSome := by
      rw [← hqueue]
      rfl
    rw [hsplit, List.filter_append, filter_pausing_eq_nil hnone, List.nil_append]
    exact List.filter_cons_of_pos hpausing
  rw [hline]
  rfl

variable [Platform σ]

def AllInOrder (s : Init σ) : List (Move σ) → Prop
  | [] => True
  | move :: moves => s.InOrder move ∧ (s.perform move).AllInOrder moves

instance decidableAllInOrder : (s : Init σ) → DecidablePred s.AllInOrder
  | _, [] => .isTrue trivial
  | s, move :: moves =>
    have := decidableAllInOrder (s.perform move) moves
    inferInstanceAs (Decidable (s.InOrder move ∧ (s.perform move).AllInOrder moves))

/-- A run that keeps the order of shutdowns leads from one state to the other. -/
def RunsInOrder (s s' : Init σ) : Prop :=
  ∃ moves, s.AllInOrder moves ∧ s' = s.run moves

theorem allInOrder_append {moves moves' : List (Move σ)} (h : s.AllInOrder moves)
    (h' : (s.run moves).AllInOrder moves') : s.AllInOrder (moves ++ moves') := by
  induction moves generalizing s with
  | nil => exact h'
  | cons move moves ih => exact ⟨h.1, ih h.2 h'⟩

/-- Something is asked of the process table, or a unit is asked for. -/
def Move.IsErrand : Move σ → Prop
  | .request .. | .rescue | .spawn _ | .spawnAndReport _ | .launch .. | .release _ | .tick _ => True
  | _ => False

theorem stirs_perform {move : Move σ} (h : move.IsErrand) (id : TaskId) (s : Init σ) :
    s.Stirs Task.HoldsTicket id (s.perform move) := by
  have hs := Stirs.refl Task.HoldsTicket id s
  cases move with
  | request unit chain => exact hs.request unit chain
  | rescue => exact hs.runRescue
  | spawn command => exact hs.inTable (fun _ h => h) (Supervisor.works_spawn command _)
  | launch unit u => exact hs.inTable (fun _ h => h) (Supervisor.works_launchService unit u _)
  | release pid =>
    exact hs.inTable (f := fun sup => ((), sup.release pid)) (fun _ h => h)
      (Supervisor.works_release _ pid)
  | tick clock => exact hs.inTable (fun _ h => h) (Supervisor.works_tick clock _)
  | spawnAndReport command =>
    have hspawned := hs.inTable (fun _ h => h) (Supervisor.works_spawnAndAwait command _)
    rw [perform, Init.spawnAndReport]
    split
    next heq => exact (hspawned.of_eq heq).addTask trivial
    next heq => exact hspawned.of_eq heq
  | poll | pass | change | raise | deliver | ring | takeBack | boot | watch | supervise | power
  | powerStage | stopRestarts => exact h.elim

/-- Whatever happens between two polls, nobody begins or ends a shutdown. -/
theorem Tidy.advances_perform (h : s.Tidy) (hsound : s.pauses.Sound grace) {move : Move σ}
    (hmove : s.InOrder move) (hpoll : ∀ id, move ≠ .poll id) : s.Advances (s.perform move) := by
  have herrand : move.IsErrand → s.Advances (s.perform move) := fun herrand =>
    (h.keeps_stirs (stirs_perform herrand s.nextTask s) fun _ => Task.HoldsTicket.isFree).advances
  cases move with
  | poll id => exact absurd rfl (hpoll id)
  | powerStage => exact hmove.elim
  | request | rescue | spawn | spawnAndReport | launch | release | tick => exact herrand trivial
  | ring => exact h.advances_ring hsound
  | deliver => exact h.keeps_deliverRaised.advances
  | takeBack => exact h.keeps_takeBack.advances
  | pass time =>
    exact Keeps.advances
      (h.keeps_of_fields rfl rfl rfl rfl rfl rfl (Nat.le_max_left ..) (.refl _) fun hhalt => hhalt)
  | change | raise | stopRestarts =>
    exact Keeps.advances
      (h.keeps_of_fields rfl rfl rfl rfl rfl rfl (Nat.le_refl _) (.refl _) fun hhalt => hhalt)
  | boot =>
    have hsaid := h.keeps_stirs ((Stirs.refl Task.IsFree s.nextTask s).say .booting) fun _ h => h
    have hchain := hsaid.trans (hsaid.tidy.keeps_addTask (t := .bootChain none) rfl trivial)
    exact (hchain.trans (hchain.tidy.keeps_addTask (t := .session .fresh) rfl trivial)).advances
  | watch | supervise | power => exact Keeps.advances (h.keeps_addTask rfl trivial)

omit [Platform σ] in
theorem deliverRaised_eq (s : Init σ) : ∃ tasks queue,
    s.deliverRaised = { s with raised := [], tasks := tasks, queue := queue } := by
  refine deliverRaised_induction (q := fun s' => ∃ tasks queue,
    s' = { s with raised := [], tasks := tasks, queue := queue }) ⟨s.tasks, s.queue, rfl⟩ ?_
  rintro s' signal ⟨tasks, queue, rfl⟩
  obtain ⟨queue', hqueue, -⟩ := wakeAll_eq
    { s with raised := [], tasks := tasks.map fun _ t => mark signal t, queue := queue }
    (({ s with raised := [], tasks := tasks, queue := queue } : Init σ).tasksWhere (wakes signal))
  exact ⟨_, queue', hqueue⟩

/-- A halt is for ever, and the last call is not made again. -/
theorem calm_perform {move : Move σ} (hmove : s.InOrder move) (hpoll : ∀ id, move ≠ .poll id) :
    StaysCalm s.journal (s.perform move).journal ∧ (s.perform move).halt = s.halt := by
  have herrand : move.IsErrand →
      StaysCalm s.journal (s.perform move).journal ∧ (s.perform move).halt = s.halt := fun h =>
    ⟨(stirs_perform h s.nextTask s).calm, (stirs_perform h s.nextTask s).halt⟩
  cases move with
  | poll id => exact absurd rfl (hpoll id)
  | powerStage => exact hmove.elim
  | request | rescue | spawn | spawnAndReport | launch | release | tick => exact herrand trivial
  | ring =>
    obtain ⟨queue, heq, -⟩ := wakeAll_eq
      { s with alarms := s.alarms.filter (s.now < ·.deadline) } (s.due.map Alarm.task)
    rw [perform, ring_eq, heq]
    exact ⟨.refl _, rfl⟩
  | deliver =>
    obtain ⟨tasks, queue, heq⟩ := s.deliverRaised_eq
    rw [perform, heq]
    exact ⟨.refl _, rfl⟩
  | boot => exact ⟨.note (.notice .booting) trivial _ _, rfl⟩
  | takeBack | pass | change | raise | stopRestarts | watch | supervise | power =>
    exact ⟨.refl _, rfl⟩

end InitDaemon.Init
