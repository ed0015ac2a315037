import InitDaemon.Proofs.Init.Quiet

/-!
# Tasks that start no unit

What happens to any other task, to signals and to the clock leaves the start tasks as they are.
-/

namespace InitDaemon

open InitDaemon.Units InitDaemon.Journal

def Task.IsOther : Task → Prop
  | .start .. => False
  | _ => True

theorem Task.IsOther.ne_start {t : Task} (h : t.IsOther) (unit : String) (chain : List String)
    (phase : StartPhase) : t ≠ .start unit chain phase := by
  rintro rfl
  exact h

namespace Init

open Std

variable {σ : Type} {s₀ s s' : Init σ} {f : Focus} {id : TaskId} {unit : String} {t : Task}

/-! ## The task table -/

/-- Puts another task into the table, at a place where no start task is. Tasks may be woken and
alarms set by that, but not the reverse. -/
theorem quiet_insert {nextTask : TaskId} {queue deferred : List TaskId} {alarms : List Alarm}
    (hid : ∀ unit, ¬ s.Starts id unit) (ht : t.IsOther)
    (hhandles : ∀ h ∈ t.handles, Requested s.journal h) (hlt : id < nextTask)
    (hnext : s.nextTask ≤ nextTask) (hqueue : ∀ i ∈ s.queue, i ∈ queue)
    (hdeferred : ∀ i ∈ s.deferred, i ∈ deferred) (halarms : ∀ a ∈ s.alarms, a ∈ alarms) :
    s.Quiet { s with
      tasks := s.tasks.insert id t, nextTask := nextTask, queue := queue, deferred := deferred
      alarms := alarms } where
  table := .refl _
  readiness := rfl
  cycles := rfl
  nextTask_le := hnext
  starts id' unit chain phase := by
    change (s.tasks.insert id t)[id']? = _ ↔ _
    rw [getElem?_insert_task]
    split
    next heq =>
      subst heq
      have hold : s.tasks[id]? ≠ some (.start unit chain phase) := fun h =>
        hid unit ⟨chain, phase, h⟩
      simp [hold, ht.ne_start unit chain phase]
    next => exact .rfl
  tasks id' t' ht' := by
    change (s.tasks.insert id t)[id']? = _ at ht'
    rw [getElem?_insert_task] at ht'
    split at ht'
    next heq =>
      subst heq
      cases ht'
      exact .inr ⟨hlt, hhandles⟩
    next => exact .inl ht'
  runnable id' hrun := hrun.imp (hqueue id') (hdeferred id')
  alarms _ _ _ _ ha := .inl (halarms _ ha)
  tickets _ _ _ _ _ _ _ hticket := .inl hticket

theorem quiet_erase (hid : ∀ unit, ¬ s.Starts id unit) : s.Quiet (s.endTask id) where
  table := .refl _
  readiness := rfl
  cycles := rfl
  nextTask_le := Nat.le_refl _
  starts id' unit chain phase := by
    change (s.tasks.erase id)[id']? = _ ↔ _
    rw [getElem?_erase_task]
    split
    next heq =>
      subst heq
      have hold : s.tasks[id]? ≠ some (.start unit chain phase) := fun h =>
        hid unit ⟨chain, phase, h⟩
      simp [hold]
    next => exact .rfl
  tasks id' t' ht' := by
    change (s.tasks.erase id)[id']? = _ at ht'
    rw [getElem?_erase_task] at ht'
    split at ht'
    next => cases ht'
    next => exact .inl ht'
  runnable _ hrun := hrun
  alarms _ _ _ _ ha := .inl ha
  tickets _ _ _ _ _ _ _ hticket := .inl hticket

namespace Leads

theorem unfocus (h : Leads s₀ (.other id) s) : Leads s₀ .idle s where
  later := h.later
  ledger := h.ledger
  workflow := { h.workflow with
    phase := fun id' unit chain phase hid _ => by
      refine h.workflow.phase id' unit chain phase hid ?_
      rintro heq
      cases heq
      exact h.workflow.focus.2 unit ⟨chain, phase, hid⟩
    focus := trivial }

theorem not_starts (h : Leads s₀ (.other id) s) : ∀ unit, ¬ s.Starts id unit :=
  h.workflow.focus.2

theorem suspend (h : Leads s₀ (.other id) s) (ht : t.IsOther)
    (hhandles : ∀ h ∈ t.handles, Requested s.journal h) : Leads s₀ .idle (s.suspend id t) :=
  h.unfocus.quiet (quiet_insert h.not_starts ht hhandles h.workflow.focus.1 (Nat.le_refl _)
    (fun _ h => h) (fun _ h => h) (fun _ h => h))

theorem defer (h : Leads s₀ (.other id) s) (ht : t.IsOther)
    (hhandles : ∀ h ∈ t.handles, Requested s.journal h) : Leads s₀ .idle (s.defer id t) :=
  h.unfocus.quiet (quiet_insert h.not_starts ht hhandles h.workflow.focus.1 (Nat.le_refl _)
    (fun _ h => h) (fun _ h => List.mem_append_left _ h) (fun _ h => h))

theorem sleepUntil (h : Leads s₀ (.other id) s) (deadline : Nat) (ht : t.IsOther)
    (hhandles : ∀ h ∈ t.handles, Requested s.journal h) :
    Leads s₀ .idle (s.sleepUntil id deadline t) :=
  h.unfocus.quiet (quiet_insert h.not_starts ht hhandles h.workflow.focus.1 (Nat.le_refl _)
    (fun _ h => h) (fun _ h => h) (fun _ h => List.mem_append_left _ h))

theorem endTask (h : Leads s₀ (.other id) s) : Leads s₀ .idle (s.endTask id) :=
  h.unfocus.quiet (quiet_erase h.not_starts)

theorem addTask (h : Leads s₀ f s) (ht : t.IsOther)
    (hhandles : ∀ h ∈ t.handles, Requested s.journal h) : Leads s₀ f (s.addTask t) := by
  refine h.quiet (quiet_insert ?_ ht hhandles (Nat.lt_succ_self _) (Nat.le_succ _)
    (fun _ h => List.mem_append_left _ h) (fun _ h => h) (fun _ h => h))
  rintro unit ⟨chain, phase, hid⟩
  exact Nat.lt_irrefl _ (h.workflow.id_lt _ _ hid)

end Leads

end Init

end InitDaemon
