import InitDaemon.Proofs.Process.Chores
import InitDaemon.Proofs.Process.Deaths

/-!
# Ticks in a shutdown

Once a shutdown has begun, nothing is launched and no crash is counted any more, whatever is done
with the process table. A process that has ended is collected as before.
-/

namespace InitDaemon.Supervisor

open Std InitDaemon.Journal

variable {σ : Type} {s s' s'' : Supervisor σ}

/-- No crash is counted and no process is filed under a unit. -/
structure Rests (s s' : Supervisor σ) : Prop where
  crashes : s'.crashes = s.crashes
  filed : ∀ pid unit, s'.FiledUnder pid unit → s.FiledUnder pid unit

namespace Rests

theorem refl (s : Supervisor σ) : s.Rests s :=
  ⟨rfl, fun _ _ h => h⟩

theorem trans (h : s.Rests s') (h' : s'.Rests s'') : s.Rests s'' :=
  ⟨h'.crashes.trans h.crashes, fun pid unit hfiled => h.filed pid unit (h'.filed pid unit hfiled)⟩

end Rests

theorem rests_of_eq (hcrashes : s'.crashes = s.crashes) (hprocesses : s'.processes = s.processes) :
    s.Rests s' := by
  refine ⟨hcrashes, fun pid unit hfiled => ?_⟩
  rwa [FiledUnder, hprocesses] at hfiled

theorem rests_inWorld (s : Supervisor σ) (w : World σ) : s.Rests { s with toWorld := w } :=
  rests_of_eq rfl rfl

theorem rests_say (s : Supervisor σ) (n : Notice) : s.Rests (s.say n) :=
  rests_of_eq rfl rfl

theorem rests_of_erase {pid : Pid} (hcrashes : s'.crashes = s.crashes)
    (hprocesses : s'.processes = s.processes.erase pid) : s.Rests s' :=
  ⟨hcrashes, fun _ _ hfiled => ((filed_of_erase hprocesses).mp hfiled).2⟩

theorem rests_release (s : Supervisor σ) (pid : Pid) : s.Rests (s.release pid) := by
  obtain ⟨waiters, settled, heq⟩ := s.release_eq pid
  rw [heq]
  exact rests_of_erase rfl rfl

variable [Platform σ]

theorem rests_spawn (command : String) (s : Supervisor σ) : s.Rests (s.spawn command).2 where
  crashes := by
    rw [Supervisor.spawn]
    split
    next => rfl
    next => split <;> rfl
  filed pid unit := (spares_spawn unit command s).filed pid

theorem rests_spawnAndAwait (command : String) (s : Supervisor σ) :
    s.Rests (s.spawnAndAwait command).2 := by
  have hspawned := rests_spawn command s
  rw [Supervisor.spawnAndAwait]
  split
  next pid t heq =>
    rw [heq] at hspawned
    obtain ⟨waiters, settled, hsettled⟩ := t.settle_eq pid none
    rw [hsettled]
    exact hspawned.trans (rests_of_eq rfl rfl)
  next heq => rwa [heq] at hspawned

theorem Chore.rests (h : s.Chore s') (hstopping : s.stopping = true) : s.Rests s' := by
  cases h with
  | remark | look => exact rests_of_eq rfl rfl
  | boast _ hrunning | count _ hrunning | file _ _ hrunning => cases hstopping.symm.trans hrunning
  | spawn command => exact rests_spawn command s
  | spawnAndAwait command => exact rests_spawnAndAwait command s
  | collect =>
    obtain ⟨display, waiters, settled, heq⟩ :=
      collect_eq { s with toWorld := s.toWorld.tryWaitAny.2 } _ _
    rw [heq]
    exact rests_of_erase rfl rfl

theorem Errands.rests (h : s.Errands s') (hstopping : s.stopping = true) : s.Rests s' := by
  induction h with
  | refl => exact .refl s
  | tail herrands herrand ih =>
    refine ih.trans ?_
    cases herrand with
    | chore h => exact h.rests ((Errands.stopping herrands).trans hstopping)
    | wait => exact rests_of_eq rfl rfl
    | release pid => exact rests_release _ pid

/-- The restart policy looks for a shutdown before it counts a crash. -/
theorem applyRestartPolicy_stopping (hstopping : s.stopping = true) (unit : String) (clock : Nat) :
    s.applyRestartPolicy unit clock = s ∨
      s.applyRestartPolicy unit clock = s.say (.restartSuppressed unit) := by
  rw [applyRestartPolicy, hstopping]
  split
  next => exact .inl rfl
  next =>
    split
    · exact .inl rfl
    · exact .inr rfl

theorem tick_collects (hstopping : s.stopping = true) {pid : Pid} {status : ExitStatus}
    (hended : s.toWorld.tryWaitAny.1 = .ok (some (pid, status))) (clock : Nat) :
    (s.tick clock).1 = .reaped pid ∧ Supervisor.Collects pid status s (s.tick clock).2 := by
  have hcollected := collects_collect { s with toWorld := s.toWorld.tryWaitAny.2 } pid status
  rw [tick, launchDueRestarts, if_pos hstopping]
  split
  next pid' status' w heq =>
    obtain ⟨hended', rfl⟩ := Prod.ext_iff.mp heq
    cases hended.symm.trans hended'
    refine ⟨rfl, ?_⟩
    rw [handleExit_eq]
    split
    next unit _ =>
      have hstill := hcollected.stopping.trans hstopping
      rcases applyRestartPolicy_stopping hstill unit clock with heq | heq
      all_goals
        rw [heq]
        exact { hcollected with }
    next => exact { hcollected with }
  next heq => cases hended.symm.trans (congrArg Prod.fst heq)
  next heq => cases hended.symm.trans (congrArg Prod.fst heq)
  next heq => cases hended.symm.trans (congrArg Prod.fst heq)

end InitDaemon.Supervisor
