import InitDaemon.Proofs.Host.Naturality
import InitDaemon.Simulation.Script

/-!
# What setup steps say

However a setup step ends, it has told of nothing but itself.
-/

namespace InitDaemon

/-- The step says nothing but what is preparatory. -/
def Host.Setup.Prepares {ε σ α : Type} (step : Setup ε σ α) : Prop :=
  ∀ c, (∀ n ∈ c.notices, n.IsPreparatory) →
    ∀ n ∈ (after (step c)).notices, n.IsPreparatory

theorem Direct.prepares_setup {σ : Type} [Files σ] (step : HostStep) :
    (setup step : Host.Setup HostError σ Unit).Prepares := by
  intro c hc
  obtain ⟨-, hafter⟩ := agrees_setup .id step c hc
  exact hafter

instance {σ : Type} [Files σ] [Kernel σ] : PlainSetup (Direct σ) where
  host_preparatory now step d := by
    have hstep := Direct.prepares_setup step ⟨Kernel.setTime now d.machine, []⟩
      (List.forall_mem_nil _)
    simp only [Platform.host, Direct.lift, Direct.perform]
    split
    next heq => rwa [heq] at hstep
    next heq => rwa [heq] at hstep

instance : PlainSetup Simulation.Script where
  host_preparatory now step machine := by
    simp only [Platform.host]
    split
    · exact List.forall_mem_nil _
    · exact List.forall_mem_nil _

end InitDaemon
