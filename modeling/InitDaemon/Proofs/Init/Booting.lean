import InitDaemon.Proofs.Init.FirmOutcomes
import InitDaemon.Proofs.Init.StepTables

/-!
# Boot chain and session

The boot chain waits for the boot target and the session task for the foundation units, whatever
goes on beside them. What the journal tells of them is in order after every step.
-/

namespace InitDaemon

open Std InitDaemon.Units InitDaemon.Journal

/-- Belongs to a boot or a shutdown. -/
def Task.IsConductor : Task → Prop
  | .bootChain _ | .session _ | .power .. => True
  | _ => False

namespace Init

variable {σ : Type} {s s' : Init σ} {m : Move σ} {id chain : TaskId} {t : Task} {n : Notice}

theorem Move.IsAmbient.adds (hm : m.IsAmbient) (h : m.Adds t) : ¬ t.IsConductor := by
  cases t with
  | bootChain | session | power =>
    cases m with
    | boot | power | powerStage | rescue | release => exact hm.elim
    | _ => exact h.elim
  | _ => exact False.elim

/-! ## Where the two tasks have got to -/

/-- What is known of the session task at its place. -/
def SessionAt (s : Init σ) : SessionPhase → Prop
  | .fresh => ¬ Told .sessionStarting s.journal
  | .awaiting handles => ¬ Told .sessionStarting s.journal ∧ ∃ ready,
    s.config.foundation = ready ++ handles.map Handle.unit ∧
      ∀ unit ∈ ready, outcomeAfter? s.journal unit = some (.ok ())
  | .running ticket => ∃ pid tried, SessionSpawned s.config.session pid tried ∧ tried <:+ s.journal ∧
    (Reaps pid tried s.journal ∨ s.waiters[pid]? = some ticket ∧ pid ∈ uncollected s.journal)

/-- The boot chain ends only after the boot target is reached, or after its failure and the rescue
shell. -/
def ChainFate (s : Init σ) (chain : TaskId) : Prop :=
  (∃ target, s.tasks[chain]? = some (.bootChain target)) ∨
    outcomeAfter? s.journal s.config.bootTarget = some (.ok ()) ∨
    ShellTried s.config.rescue s.journal ∧
      ∃ e, outcomeAfter? s.journal s.config.bootTarget = some (.error e)

/-- The session task ends only after the session has been tried, or because a foundation unit has
failed. -/
def SessionFate (s : Init σ) (id : TaskId) : Prop :=
  (∃ phase, s.tasks[id]? = some (.session phase)) ∨
    SessionTried s.config.session s.journal ∨
    ∃ unit ∈ s.config.foundation, ∃ e, outcomeAfter? s.journal unit = some (.error e)

/-- A boot whose chain has a number goes on, or has yet to begin. -/
structure Booting (chain : TaskId) (s : Init σ) : Prop where
  firm : s.Firm
  neat : s.table.Neat
  chainTask : ∀ (id : TaskId) target, s.tasks[id]? = some (.bootChain target) →
    id = chain ∧ ¬ Told .rescueEntered s.journal ∧ ∀ h ∈ target, h.unit = s.config.bootTarget
  sessionTask : ∀ (id : TaskId) phase, s.tasks[id]? = some (.session phase) →
    id = chain + 1 ∧ s.SessionAt phase
  unasked : ∀ (id : TaskId) state, s.tasks[id]? ≠ some (.power state .fresh)
  chainFate : chain < s.nextTask → s.ChainFate chain
  sessionFate : chain + 1 < s.nextTask → s.SessionFate (chain + 1)
  untold : s.nextTask ≤ chain → ∀ n : Notice, n.IsTrial → ¬ Told n s.journal
  conducts : Conducts s.config chain s.journal

variable [Platform σ]

theorem SessionAt.step {phase : SessionPhase} (h : s.SessionAt phase) (hfirm : s.Firm)
    (hstep : Step m s s')
    (htold : Told .sessionStarting s'.journal → Told .sessionStarting s.journal)
    (hwaits : ∀ pid ticket, pid ∈ uncollected s.journal → s.waiters[pid]? = some ticket →
      StillWaits pid ticket s s') : s'.SessionAt phase := by
  have hcontinues := hstep.continues
  cases phase with
  | fresh => exact mt htold h
  | awaiting handles =>
    obtain ⟨hnew, ready, hunits, hready⟩ := h
    refine ⟨mt htold hnew, ready, hcontinues.config ▸ hunits, fun unit hunit => ?_⟩
    exact hfirm.outcome hstep (hready unit hunit)
  | running ticket =>
    obtain ⟨pid, tried, hspawned, hsuffix, hstill⟩ := h
    refine ⟨pid, tried, hcontinues.config ▸ hspawned, hsuffix.trans hcontinues.journal, ?_⟩
    rcases hstill with hreaps | ⟨hwaiting, hpid⟩
    · exact .inl (hreaps.later hcontinues.journal)
    · exact (hwaits pid ticket hpid hwaiting).imp_left fun hreaps => hreaps.earlier hsuffix

theorem ChainFate.step (h : s.ChainFate chain) (hfirm : s.Firm) (hstep : Step m s s')
    (hthere : ∀ target, s.tasks[chain]? = some (.bootChain target) → s'.ChainFate chain) :
    s'.ChainFate chain := by
  have hcontinues := hstep.continues
  rcases h with ⟨target, ht⟩ | hready | ⟨htried, e, hfailed⟩
  · exact hthere target ht
  · rw [← hcontinues.config] at hready
    exact .inr (.inl (hfirm.outcome hstep hready))
  · rw [← hcontinues.config] at htried hfailed
    exact .inr (.inr ⟨htried.mono hcontinues.journal, e, hfirm.outcome hstep hfailed⟩)

theorem SessionFate.step (h : s.SessionFate id) (hfirm : s.Firm) (hstep : Step m s s')
    (hthere : ∀ phase, s.tasks[id]? = some (.session phase) → s'.SessionFate id) :
    s'.SessionFate id := by
  have hcontinues := hstep.continues
  rcases h with ⟨phase, ht⟩ | htried | ⟨unit, hunit, e, hfailed⟩
  · exact hthere phase ht
  · rw [← hcontinues.config] at htried
    exact .inr (.inl (htried.mono hcontinues.journal))
  · exact .inr (.inr ⟨unit, hcontinues.config ▸ hunit, e, hfirm.outcome hstep hfailed⟩)

/-! ## Steps without a turn -/

theorem Step.untold [PlainSetup σ] (hstep : Step m s s') (hm : m.IsAmbient)
    (hno : ∀ id, m = .poll id → ¬ s.Turns id s') (hn : n.IsTrial) (htold : Told n s'.journal) :
    Told n s.journal :=
  ((hstep.calm hm hno).told htold).resolve_right fun hne => hne hn

namespace Booting

section

variable (h : s.Booting chain) (hstep : Step m s s') (hno : ∀ id, m = .poll id → ¬ s.Turns id s')

include h hstep hno

/-- The boot chain stays, or leaves because the boot target is reached. -/
theorem calm_chainFate (hlt : chain < s.nextTask) : s'.ChainFate chain := by
  refine (h.chainFate hlt).step h.firm hstep fun target ht => ?_
  rcases hstep.goes hlt ht (hno chain) with ⟨-, hdeparts⟩ | ⟨t', ht', rfl | ⟨signal, rfl⟩ | hproceeds⟩
  · cases hdeparts with
    | left hleaves =>
      cases hleaves with
      | @reached u hready =>
        have hunit := (h.chainTask chain _ ht).2.2 u rfl
        rw [hunit, ← hstep.continues.config] at hready
        exact .inr (.inl (h.firm.outcome hstep hready))
    | turned heq hturns => exact absurd hturns (hno _ heq)
  · exact .inl ⟨target, ht'⟩
  · exact .inl ⟨target, ht'.trans (congrArg some (mark_bootChain.mpr rfl))⟩
  · cases hproceeds with
    | hopes => exact .inl ⟨_, ht'⟩

theorem calm_sessionFate (hlt : chain + 1 < s.nextTask) : s'.SessionFate (chain + 1) := by
  refine (h.sessionFate hlt).step h.firm hstep fun phase ht => ?_
  rcases hstep.goes hlt ht (hno _) with ⟨-, hdeparts⟩ | ⟨t', ht', rfl | ⟨signal, rfl⟩ | hproceeds⟩
  · cases hdeparts with
    | left hleaves =>
      cases hleaves with
      | @refused u rest e hfailed =>
        obtain ⟨-, -, ready, hunits, -⟩ := h.sessionTask _ _ ht
        have hunit : u.unit ∈ s.config.foundation :=
          hunits ▸ List.mem_append_right _ List.mem_cons_self
        rw [← hstep.continues.config] at hunit
        exact .inr (.inr ⟨u.unit, hunit, e, h.firm.outcome hstep hfailed⟩)
    | turned heq hturns => exact absurd hturns (hno _ heq)
  · exact .inl ⟨phase, ht'⟩
  · exact .inl ⟨phase, ht'.trans (congrArg some (mark_session.mpr rfl))⟩
  · cases hproceeds with
    | founds | finds => exact .inl ⟨_, ht'⟩

variable (hm : m.IsAmbient)

include hm

theorem calm_chain {target : Option Handle} (ht' : s'.tasks[id]? = some (.bootChain target)) :
    ∃ target₀, s.tasks[id]? = some (.bootChain target₀) ∧
      ∀ u ∈ target, u.unit = s.config.bootTarget := by
  generalize heq : Task.bootChain target = task at ht'
  cases hstep.arrives ht' with
  | stayed ht =>
    subst heq
    exact ⟨target, ht, (h.chainTask id target ht).2.2⟩
  | marked ht =>
    have ht := mark_bootChain.mp heq.symm ▸ ht
    exact ⟨target, ht, (h.chainTask id target ht).2.2⟩
  | added _ _ hadds => exact absurd (heq ▸ trivial) (hm.adds hadds)
  | started => cases heq
  | proceeded _ ht hproceeds =>
    subst heq
    cases hproceeds with
    | hopes hunit =>
      refine ⟨none, ht, fun u hu => ?_⟩
      exact Option.some.inj hu ▸ hunit
  | turned heq hturns => exact absurd hturns (hno _ heq)

theorem calm_session {phase : SessionPhase} (ht' : s'.tasks[id]? = some (.session phase)) :
    id = chain + 1 ∧ s.SessionAt phase := by
  generalize heq : Task.session phase = task at ht'
  cases hstep.arrives ht' with
  | stayed ht => exact h.sessionTask id phase (heq ▸ ht)
  | marked ht => exact h.sessionTask id phase (mark_session.mp heq.symm ▸ ht)
  | added _ _ hadds => exact absurd (heq ▸ trivial) (hm.adds hadds)
  | started => cases heq
  | proceeded _ ht hproceeds =>
    subst heq
    cases hproceeds with
    | founds hunits =>
      obtain ⟨hid, hnew⟩ := h.sessionTask id _ ht
      exact ⟨hid, hnew, [], hunits.symm, List.forall_mem_nil _⟩
    | @finds u rest hready =>
      obtain ⟨hid, hnew, ready, hunits, hfound⟩ := h.sessionTask id _ ht
      refine ⟨hid, hnew, ready ++ [u.unit], ?_, ?_⟩
      · rw [hunits, List.map_cons, List.append_assoc]
        rfl
      · exact List.forall_mem_append.mpr ⟨hfound, List.forall_mem_singleton.mpr hready⟩
  | turned heq hturns => exact absurd hturns (hno _ heq)

theorem calm_unasked (state : PowerState) : s'.tasks[id]? ≠ some (.power state .fresh) := by
  intro ht'
  generalize heq : Task.power state .fresh = task at ht'
  cases hstep.arrives ht' with
  | stayed ht => exact h.unasked id state (heq ▸ ht)
  | marked ht => exact h.unasked id state (mark_power.mp heq.symm ▸ ht)
  | added _ _ hadds => exact absurd (heq ▸ trivial) (hm.adds hadds)
  | started => cases heq
  | proceeded _ _ hproceeds =>
    subst heq
    cases hproceeds
  | turned heq hturns => exact absurd hturns (hno _ heq)

theorem calm [PlainSetup σ] (hside : s'.nextTask ≤ chain ∨ chain + 1 < s.nextTask)
    (hfresh : FreshNumbers s'.journal) : s'.Booting chain := by
  have hcontinues := hstep.continues
  have hgains := hstep.calm hm hno
  constructor
  case firm => exact h.firm.step hstep
  case neat => exact hstep.neat h.neat
  case chainTask =>
    intro id target ht'
    obtain ⟨target₀, ht, hunit⟩ := h.calm_chain hstep hno hm ht'
    obtain ⟨hid, hnew, -⟩ := h.chainTask id target₀ ht
    exact ⟨hid, mt (hstep.untold hm hno trivial) hnew, hcontinues.config ▸ hunit⟩
  case sessionTask =>
    intro id phase ht'
    obtain ⟨hid, hphase⟩ := h.calm_session hstep hno hm ht'
    refine ⟨hid, hphase.step h.firm hstep (hstep.untold hm hno trivial) ?_⟩
    exact fun pid ticket hpid hwaits => hstep.waits hm hno hfresh hpid hwaits
  case unasked => exact fun id state => h.calm_unasked hstep hno hm state
  case chainFate =>
    intro hlt
    have hbooted := hside.resolve_left (Nat.not_le.mpr hlt)
    exact h.calm_chainFate hstep hno (Nat.lt_of_succ_lt hbooted)
  case sessionFate =>
    intro hlt
    have hbooted := hside.resolve_left (Nat.not_le.mpr (Nat.lt_of_succ_lt hlt))
    exact h.calm_sessionFate hstep hno hbooted
  case untold =>
    intro hle n hn
    exact mt (hstep.untold hm hno hn) (h.untold (Nat.le_trans hcontinues.nextTask_le hle) n hn)
  case conducts => exact hcontinues.config ▸ hgains.conducts h.conducts

end

end Booting

end Init

end InitDaemon
