import InitDaemon.Init.Poll

/-!
# Loops of an init

What every part of a loop keeps is kept by the loop, however many rounds it takes. The directories
of an action are made one after the other, the units of a list are asked for one after the other,
and a look for processes that have ended is repeated until something is left to wait for.
-/

namespace InitDaemon.Init

variable {σ : Type} {q r : Init σ → Prop} {s : Init σ}

theorem requestAll_induction {chain units : List String}
    (hrequest : ∀ s, ∀ unit ∈ units, q s → q (s.request unit chain).2) (hs : q s) :
    q (s.requestAll chain units).2 := by
  induction units generalizing s with
  | nil => exact hs
  | cons unit units ih =>
    rw [Init.requestAll]
    exact ih (fun s d hd => hrequest s d (List.mem_cons_of_mem unit hd))
      (hrequest s unit List.mem_cons_self hs)

/-- What the delivery of any one signal keeps. -/
theorem deliverRaised_induction (hraised : q { s with raised := [] })
    (hdeliver : ∀ s signal, q s → q (s.deliver signal)) : q s.deliverRaised := by
  have hall : ∀ (signals : List Signal) (s : Init σ), q s → q (signals.foldl Init.deliver s) := by
    intro signals
    induction signals with
    | nil => exact fun _ hs => hs
    | cons signal signals ih => exact fun s hs => ih _ (hdeliver s signal hs)
  exact hall _ _ hraised

theorem judgeMachineId_induction (hmissing : ∀ s, q s → q (s.say .uuidgenNotReaped))
    (hended : ∀ s status, q s → q (s.say (.uuidgenEnded status))) (hs : q s)
    (status : Option ExitStatus) : q (s.judgeMachineId status) := by
  cases status with
  | none => exact hmissing s hs
  | some status =>
    rw [Init.judgeMachineId]
    split
    · exact hs
    · exact hended s status hs

variable [Platform σ]

/-! ## Parts of an action -/

section

variable (hhost : ∀ s path, q s → q (s.host (.ensureDirectory path)).2)

include hhost

theorem ensureAll_induction (hs : q s) (paths : List String) : q (s.ensureAll paths).2 := by
  induction paths generalizing s with
  | nil => exact hs
  | cons path paths ih =>
    have hstep := hhost s path hs
    rw [Init.ensureAll]
    split
    next heq =>
      rw [heq] at hstep
      exact ih hstep
    next heq => rwa [heq] at hstep

theorem ensureEach_induction
    (hskipped : ∀ s path e, q s → q (s.say (.directorySkipped path e))) (hs : q s)
    (paths : List String) : q (s.ensureEach paths) := by
  induction paths generalizing s with
  | nil => exact hs
  | cons path paths ih =>
    have hstep := hhost s path hs
    rw [Init.ensureEach]
    split
    next heq =>
      rw [heq] at hstep
      exact ih hstep
    next e s₁ heq =>
      rw [heq] at hstep
      exact ih (hskipped s₁ path e hstep)

theorem startElogind_induction (hmissing : ∀ s, q s → q (s.say .elogindMissing))
    (hspawn : ∀ s path, q s → q (s.inTable (Supervisor.spawn path)).2)
    (hstarted : ∀ s pid, q s → q (s.say (.elogindStarted pid))) (hs : q s) :
    q s.startElogind.2 := by
  rw [Init.startElogind]
  split
  next => exact hmissing s hs
  next path _ =>
    have hensured := hhost s elogindDirectory hs
    split
    next heq => rwa [heq] at hensured
    next s₁ heq =>
      rw [heq] at hensured
      have hspawned := hspawn s₁ path hensured
      split
      next heq' => rwa [heq'] at hspawned
      next pid s₂ heq' =>
        rw [heq'] at hspawned
        exact hstarted s₂ pid hspawned

end

/-! ## Collecting processes -/

section

variable {id : TaskId} (htick : ∀ s, q s → q (s.inTable (Supervisor.tick s.now)).2)
  (hyield : ∀ s childEvent, q s → r (s.defer id (.reap childEvent .yielding)))
  (hlater : ∀ s childEvent failed, q s → r (s.reapLater id childEvent failed))

include htick hyield hlater

theorem reap_induction (hs : q s) (childEvent : Option Bool) (patience : Nat) :
    r (s.reap id childEvent patience) := by
  induction patience generalizing s childEvent with
  | zero => exact hyield s childEvent hs
  | succ patience ih =>
    have hticked := htick s hs
    rw [Init.reap]
    split
    next s₁ heq =>
      rw [heq] at hticked
      exact hyield s₁ childEvent hticked
    next s₁ heq =>
      rw [heq] at hticked
      split
      · exact ih hticked (some false)
      · split
        · exact ih hticked childEvent
        · exact hlater s₁ childEvent false hticked
    next s₁ heq =>
      rw [heq] at hticked
      split
      · exact ih hticked childEvent
      · exact hlater s₁ childEvent true hticked

/-- The task stays where it is, or it looks for processes that have ended. -/
theorem pollReap_induction (hdrop : ∀ s, q s → q (s.dropAlarms id)) (hstay : r s) (hs : q s)
    (childEvent : Option Bool) (phase : ReapPhase) : r (s.pollReap id childEvent phase) := by
  have hreap : ∀ s, q s → ∀ childEvent, r (s.reap id childEvent patience) := fun s hs childEvent =>
    reap_induction htick hyield hlater hs childEvent patience
  cases phase with
  | fresh => exact hreap s hs childEvent
  | yielding => exact hreap s hs childEvent
  | idle deadline =>
    rw [Init.pollReap]
    split
    · exact hreap _ (hdrop s hs) (some false)
    · split
      · exact hstay
      · exact hreap _ (hdrop s hs) childEvent
  | failing deadline =>
    rw [Init.pollReap]
    split
    · exact hstay
    · exact hreap s hs childEvent

end

end InitDaemon.Init
