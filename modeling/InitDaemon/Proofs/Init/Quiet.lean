import InitDaemon.Init.Poll
import InitDaemon.Proofs.Init.Workflow

/-!
# What leaves the start of units alone

Most of what an init does has nothing to do with the start of units: notices, processes, other
tasks, signals and the clock. Each such step keeps the ledger and the workflow.
-/

namespace InitDaemon.Init

open Std InitDaemon.Units InitDaemon.Journal

variable {σ : Type} {s₀ s s' : Init σ} {f : Focus} {id : TaskId} {unit : String}

/-- A state that has come from `s₀`, and in which everything fits. -/
structure Leads (s₀ : Init σ) (f : Focus) (s : Init σ) : Prop where
  later : s₀.Later s
  ledger : s.Ledger
  workflow : s.Workflow f

theorem Leads.restart (h : Leads s₀ f s) : Leads s f s :=
  { h with later := .refl s }

theorem Leads.after (h : Leads s f s') (hlater : s₀.Later s) : Leads s₀ f s' :=
  { h with later := hlater.trans h.later }

/-- The readiness stays the same, and the journal gets no entry about the start of units. -/
structure Quiet (s s' : Init σ) : Prop extends Beside s s' where
  table : s.toSupervisor.Grows s'.toSupervisor
  readiness : s'.readiness = s.readiness
  cycles : s'.cycles = s.cycles

namespace Quiet

theorem begun_iff (h : s.Quiet s') : Begun s'.journal unit ↔ Begun s.journal unit := by
  obtain ⟨new, hnew, hplain⟩ := h.table.world.journal
  rw [hnew]
  exact begun_minor fun r hr => isMinor_of_isPlain (hplain r hr)

theorem outcome? (h : s.Quiet s') (unit : String) : s'.outcome? unit = s.outcome? unit := by
  rw [Init.outcome?, Init.outcome?, h.readiness]

theorem later (h : s.Quiet s') : s.Later s' where
  config := h.table.config
  graph := h.table.graph
  cycles := h.cycles
  now_le := h.table.world.now_le
  stopping := h.table.stopping
  journal := by
    obtain ⟨new, hnew, -⟩ := h.table.world.journal
    exact ⟨new, hnew.symm⟩
  live := h.table.live
  bounded := h.table.bounded
  entered unit channel hu := by rw [h.readiness, hu]
  outcome unit o ho := by rw [h.outcome?, ho]
  starts id unit _ := h.starts_iff.mp

theorem calm (h : s.Quiet s') : s.Calm s' where
  toBeside := h.toBeside
  later := h.later
  entered unit := by
    rintro ⟨channel, hchannel⟩ -
    exact ⟨channel, h.readiness ▸ hchannel⟩
  outcome unit _ := h.outcome? unit

theorem ledger (h : s.Quiet s') (hs : s.Ledger) : s'.Ledger := by
  obtain ⟨new, hnew, hplain⟩ := h.table.world.journal
  have hminor : ∀ r ∈ new, IsMinor r := fun r hr => isMinor_of_isPlain (hplain r hr)
  refine hs.later h.later ?_ ?_ ?_ ?_ ?_ ?_ ?_
  · rw [h.readiness]
    exact hs.consistent
  · rw [hnew]
    exact fun handle hh => .inl ((requested_minor hminor).mp hh)
  · intro unit
    rw [h.outcome?, hs.outcome, hnew, outcomeAfter?_minor hminor]
  · rw [hnew]
    exact hs.orderly.minor hminor
  · exact fun unit hu => .inl (h.begun_iff.mp hu)
  · rw [hnew]
    intro unit o hacted
    refine .inl ((acted_append.mp hacted).resolve_left ?_)
    rintro ⟨r, hr, heq⟩
    have hr := hplain r hr
    rw [heq] at hr
    exact hr
  · exact fun unit o ho => .inl (h.outcome? unit ▸ ho)

end Quiet

theorem Leads.quiet (h : Leads s₀ f s) (hq : s.Quiet s') : Leads s₀ f s' where
  later := h.later.trans hq.later
  ledger := hq.ledger h.ledger
  workflow := h.workflow.calm h.ledger.toChannels hq.calm rfl (fun _ _ _ _ => hq.begun_iff.mp)
    (h.workflow.focus.later hq.nextTask_le (fun _ _ _ => hq.starts_iff) fun _ => hq.begun_iff)

/-! ## The world and the process table -/

theorem quiet_table {sup : Supervisor σ} (h : s.toSupervisor.Grows sup)
    (hsettled : sup.settled = s.settled) : s.Quiet { s with toSupervisor := sup } where
  toBeside := .of_eq rfl rfl rfl rfl rfl hsettled
  table := h
  readiness := rfl
  cycles := rfl

theorem quiet_world {w : World σ} (h : s.toWorld.Grows w) :
    s.Quiet { s with toWorld := w } :=
  quiet_table (Supervisor.grows_inWorld h) rfl

theorem quiet_note (e : Entry) (he : e.IsPlain) : s.Quiet (s.note e) :=
  quiet_world (World.grows_note _ e he)

theorem quiet_say (n : Notice) : s.Quiet (s.say n) :=
  quiet_world (World.grows_say _ n)

theorem quiet_inWorld {α : Type} {f : World σ → α × World σ}
    (h : s.toWorld.Grows (f s.toWorld).2) : s.Quiet (s.inWorld f).2 :=
  quiet_world h

/-! ## Waking -/

/-- Waking changes nothing but the queue. -/
theorem wakeAll_eq (s : Init σ) (ids : List TaskId) :
    ∃ queue, s.wakeAll ids = { s with queue := queue } ∧ (∀ id ∈ s.queue, id ∈ queue) ∧
      ∀ id ∈ ids, id ∈ queue ∨ id ∈ s.deferred := by
  induction ids generalizing s with
  | nil => exact ⟨s.queue, rfl, fun _ h => h, by simp⟩
  | cons next ids ih =>
    obtain ⟨queue, heq, hold, hnext⟩ : ∃ queue, s.wake next = { s with queue := queue } ∧
        (∀ id ∈ s.queue, id ∈ queue) ∧ (next ∈ queue ∨ next ∈ s.deferred) := by
      rw [wake]
      split
      next => exact ⟨s.queue ++ [next], rfl, fun _ h => List.mem_append_left _ h, by simp⟩
      next hwaiting =>
        refine ⟨s.queue, rfl, fun _ h => h, ?_⟩
        simp only [isWaiting, Bool.and_eq_true, Bool.not_eq_true', List.contains_eq_mem,
          decide_eq_false_iff_not] at hwaiting
        exact Classical.or_iff_not_imp_left.mpr fun hq => Classical.not_not.mp fun hd =>
          hwaiting ⟨hq, hd⟩
    obtain ⟨queue', heq', hold', hwoken⟩ := ih { s with queue := queue }
    refine ⟨queue', ?_, fun id hid => hold' id (hold id hid), ?_⟩
    · rw [wakeAll, List.foldl_cons, heq]
      exact heq'
    · intro id hid
      rcases List.mem_cons.mp hid with rfl | hid
      · exact hnext.imp_left (hold' id)
      · exact hwoken id hid

theorem mem_tasksWhere {p : Task → Bool} :
    id ∈ s.tasksWhere p ↔ ∃ t, s.tasks[id]? = some t ∧ p t = true := by
  rw [tasksWhere, ExtTreeMap.mem_keys, ExtTreeMap.mem_iff_isSome_getElem?,
    ExtTreeMap.getElem?_filter']
  cases s.tasks[id]? with
  | none => simp
  | some t => by_cases hp : p t = true <;> simp [Option.filter, hp]

theorem quiet_wakeAll (ids : List TaskId) : s.Quiet (s.wakeAll ids) := by
  obtain ⟨queue, heq, hold, -⟩ := s.wakeAll_eq ids
  rw [heq]
  exact {
    table := .refl _, readiness := rfl, cycles := rfl, nextTask_le := Nat.le_refl _
    starts := fun _ _ _ _ => .rfl
    tasks := fun _ _ ht => .inl ht
    runnable := fun id hrun => hrun.imp_left (hold id)
    alarms := fun _ _ _ _ ha => .inl ha
    tickets := fun _ _ _ _ _ _ _ ht => .inl ht }

/-- What is done with the process table wakes whoever waits for a ticket that is settled then. -/
theorem inTable_eq {α : Type} (f : Supervisor σ → α × Supervisor σ) (s : Init σ) :
    ∃ queue, s.inTable f = ((f s.toSupervisor).1,
        { s with toSupervisor := (f s.toSupervisor).2, queue := queue }) ∧
      (∀ id ∈ s.queue, id ∈ queue) ∧ ∀ (id : TaskId) t, s.tasks[id]? = some t →
        holdsSettled (f s.toSupervisor).2.settled t = true → id ∈ queue ∨ id ∈ s.deferred := by
  obtain ⟨queue, heq, hold, hwoken⟩ := wakeAll_eq { s with toSupervisor := (f s.toSupervisor).2 }
    (tasksWhere { s with toSupervisor := (f s.toSupervisor).2 }
      (holdsSettled (f s.toSupervisor).2.settled))
  exact ⟨queue, congrArg (Prod.mk _) heq, hold,
    fun id t ht hsettled => hwoken id (mem_tasksWhere.mpr ⟨t, ht, hsettled⟩)⟩

theorem toSupervisor_inTable {α : Type} {f : Supervisor σ → α × Supervisor σ} {a : α}
    (h : s.inTable f = (a, s')) : f s.toSupervisor = (a, s'.toSupervisor) := by
  obtain ⟨queue, heq, -⟩ := inTable_eq f s
  cases heq.symm.trans h
  rfl

theorem quiet_inTable {α : Type} {f : Supervisor σ → α × Supervisor σ}
    (h : s.toSupervisor.Grows (f s.toSupervisor).2) : s.Quiet (s.inTable f).2 := by
  obtain ⟨queue, heq, hold, hwoken⟩ := inTable_eq f s
  rw [heq]
  refine {
    table := h, readiness := rfl, cycles := rfl, nextTask_le := Nat.le_refl _
    starts := fun _ _ _ _ => .rfl
    tasks := fun _ _ ht => .inl ht
    runnable := fun id hrun => hrun.imp_left (hold id)
    alarms := fun _ _ _ _ ha => .inl ha
    tickets := ?_ }
  intro id unit chain phase ticket hid hwaits hticket
  refine .inr (hwoken id _ hid ?_)
  rcases hwaits with rfl | rfl <;> exact decide_eq_true hticket

end InitDaemon.Init
