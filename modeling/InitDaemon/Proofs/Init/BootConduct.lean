import InitDaemon.Proofs.Host.Quiet
import InitDaemon.Proofs.Init.BootTurns
import InitDaemon.Proofs.Init.FinalCalls

/-!
# The conduct of a boot

In every run with one boot, the rescue shell and the session are tried once at most and only for
their reasons, and apart from signals nobody asks for another power state but the boot chain, when
the operator of the rescue shell says so, and the session task at the end of the session.
-/

namespace InitDaemon

open Std Traced InitDaemon.Units InitDaemon.Journal

namespace Traced

variable {calls calls' : List TimedCall}

theorem Makes.verdicts (h : Makes (fun call => call.verdict? = none) calls calls') :
    calls'.filterMap (·.call.verdict?) = calls.filterMap (·.call.verdict?) := by
  obtain ⟨new, rfl, hnew⟩ := h
  have hnone : new.filterMap (·.call.verdict?) = [] := List.filterMap_eq_nil_iff.mpr hnew
  rw [List.filterMap_append, hnone, List.nil_append]

end Traced

theorem KernelCall.verdict?_of_isFinal {call : KernelCall} (h : call.isFinal = true) :
    call.verdict? = none := by
  cases call with
  | signalAll | sync | reboot => rfl
  | _ => cases h

theorem World.makes_powerStage {σ : Type} [Platform σ] (state : PowerState) (grace : Nat)
    (stage : PowerStage) (w : World (Traced σ)) :
    Makes (fun call => call.isFinal = true) w.calls (w.powerStage state grace stage).2.calls := by
  have hcons {c : TimedCall} (hc : c.call.isFinal = true) (calls : List TimedCall) :
      Makes (fun call => call.isFinal = true) calls (c :: calls) := .cons hc calls
  cases stage with
  | terminate =>
    rcases w.calls_terminate state grace with ⟨w', heq, -, hcalls⟩ | ⟨e, r, w', heq, hcalls⟩
    · rw [heq, hcalls]
      exact hcons rfl _
    · rw [heq, hcalls]
      exact ((hcons rfl _).trans (hcons rfl _)).trans (hcons rfl _)
  | kill =>
    obtain ⟨answer, w', heq, -, hcalls⟩ := w.calls_kill state grace
    rw [heq, hcalls]
    exact hcons rfl _
  | finish =>
    obtain ⟨r, w', heq, hcalls⟩ := w.calls_finish state grace
    rw [heq, hcalls]
    exact (hcons rfl _).trans (hcons rfl _)

namespace Init

/-! ## The operator is heeded -/

section

variable {σ : Type} {s s' : Init (Traced σ)} {m : Move (Traced σ)} {id : TaskId}

/-- The boot chain has asked for what the exit codes of the rescue shells have said, and for nothing
else. -/
def Heeds (s : Init (Traced σ)) : Prop :=
  s.journal.filterMap rescuePower? = s.calls.filterMap (·.call.verdict?)

theorem rescuePowers_demand (s : Init (Traced σ)) (id : TaskId) (state : PowerState) :
    (s.demand id .rescue state).journal.filterMap rescuePower? =
      state :: s.journal.filterMap rescuePower? := by
  have hfrozen := (gains_freeze (s.note (.powerRequested id .rescue state)).toSupervisor).mono
    (q := fun e => ∀ id state, e ≠ .powerRequested id .rescue state) fun e he id state heq =>
      not_turn_of_mute he (heq ▸ trivial)
  exact hfrozen.rescuePowers

theorem rescuePowers_heed (s : Init (Traced σ)) (id : TaskId) (outcome : Option RescueOutcome) :
    (s.heed id outcome).journal.filterMap rescuePower? =
      (outcome.bind RescueOutcome.power?).toList ++ s.journal.filterMap rescuePower? := by
  rcases outcome with _ | _ | _ | _
  · rfl
  · rfl
  · exact s.rescuePowers_demand id .restart
  · exact s.rescuePowers_demand id .off

theorem Heeds.of_gains {p : Entry → Prop} (h : s.Heeds) (hgains : Gains p s.journal s'.journal)
    (hmakes : Makes (fun call => call.verdict? = none) s.calls s'.calls)
    (hp : ∀ id state, ¬ p (.powerRequested id .rescue state)) : s'.Heeds := by
  have hjournal := (hgains.mono (q := fun e => ∀ id state, e ≠ .powerRequested id .rescue state)
    fun e he id state heq => hp id state (heq ▸ he)).rescuePowers
  exact hjournal.trans (h.trans hmakes.verdicts.symm)

variable [Platform σ]

theorem makes_staged (s : Init (Traced σ)) (id : TaskId) (state : PowerState)
    (stage : PowerStage) :
    Makes (fun call => call.isFinal = true) s.calls (s.staged id state stage).calls := by
  have hstaged : Makes (fun call => call.isFinal = true) s.calls
      (s.powerStage id state stage).2.calls :=
    (s.toWorld.note (.powerStaged id stage)).makes_powerStage state s.config.shutdownGrace stage
  rw [staged]
  split
  next heq =>
    rw [heq] at hstaged
    exact hstaged
  next r t heq =>
    rw [heq] at hstaged
    exact (t.powerEnded_fields id r).2.2.2 ▸ hstaged

theorem Turns.heeds (hturns : s.Turns id s') (h : s.Heeds) : s'.Heeds := by
  have hrequested (id : TaskId) (state : PowerState) :
      ¬ s.toSupervisor.Tells (.powerRequested id .rescue state) :=
    fun he => not_turn_of_tells he trivial
  cases hturns with
  | despair =>
    have hrescued : s.rescued.journal.filterMap rescuePower? = s.journal.filterMap rescuePower? := by
      refine (s.gains_rescued.mono ?_).rescuePowers
      rintro e (he | rfl | ⟨pid, rfl⟩) id state heq
      · exact hrequested id state (heq ▸ he)
      · cases heq
      · cases heq
    have hverdicts := s.toSupervisor.rescues.verdicts
    rw [Heeds, rescuePowers_heed, calls_heed, hrescued, h]
    exact hverdicts.symm
  | enterSession =>
    refine h.of_gains (s.gains_opened id)
      ((s.makes_opened id).mono fun _ => KernelCall.IsRoutine.verdict?) fun id state => ?_
    rintro (he | heq | heq)
    · exact hrequested id state he
    · cases heq
    · cases heq
  | @demand t cause state ht hdemands =>
    refine h.of_gains (s.gains_demand id cause state) (s.calls_demand id cause state ▸ .refl _)
      fun id' state' => ?_
    rintro (he | heq)
    · exact not_turn_of_mute he trivial
    · cases heq
      cases hdemands
  | @stage state phase stage =>
    refine h.of_gains (s.gains_staged id state stage)
      ((s.makes_staged id state stage).mono fun _ => KernelCall.verdict?_of_isFinal)
      fun id' state' => ?_
    rintro (he | he)
    · exact not_turn_of_mute he trivial
    · exact he

theorem Heeds.step [PlainSetup σ] (h : s.Heeds) (hstep : Step m s s') (hm : m.IsAmbient)
    (hown : m.IsOwn) : s'.Heeds := by
  by_cases hturn : ∃ id, m = .poll id ∧ s.Turns id s'
  · obtain ⟨id, -, hturns⟩ := hturn
    exact hturns.heeds h
  · have hcalm := hstep.calm hm fun id hpoll hturns => hturn ⟨id, hpoll, hturns⟩
    refine h.of_gains hcalm (((hstep.makes hown).resolve_left hturn).mono ?_)
      fun id state hno => hno trivial
    rintro call (hcall | ⟨rfl, -⟩)
    · exact hcall.verdict?
    · exact hm.elim

theorem Heeds.perform [PlainSetup σ] {s₀ : Init (Traced σ)} (h : s.Heeds) (hs : Leads s₀ .idle s)
    (hpossible : s.Possible m) (hm : m.IsAmbient ∨ m = .boot) : (s.perform m).Heeds := by
  have hsteps (hm : m.IsAmbient) (hown : m.IsOwn) : (s.perform m).Heeds := by
    have hsteps := hs.steps m
    generalize s.perform m = s' at hsteps
    induction hsteps with
    | refl => exact h
    | tail _ hstep ih => exact ih.step hstep hm hown
  rcases hm with hm | rfl
  · cases m with
    | change machine =>
      have hcalls : machine.calls = s.calls := hpossible
      exact h.trans (congrArg (List.filterMap (·.call.verdict?)) hcalls.symm)
    | powerStage => exact hpossible.elim
    | _ => exact hsteps hm trivial
  · exact h

theorem Heeds.run [PlainSetup σ] {s₀ : Init (Traced σ)} {moves : List (Move (Traced σ))}
    (h : s.Heeds) (hs : Leads s₀ .idle s) (hpossible : s.AllPossible moves)
    (hmoves : ∀ m ∈ moves, m.IsAmbient ∨ m = .boot) : (s.run moves).Heeds := by
  induction moves generalizing s with
  | nil => exact h
  | cons m moves ih =>
    obtain ⟨hm, hmoves⟩ := List.forall_mem_cons.mp hmoves
    exact ih (h.perform hs hpossible.1 hm) (hs.perform m) hpossible.2 hmoves

omit [Platform σ] in
theorem heeds_fresh {config : Config} {graph : Graph} {machine : σ} {notices : List Notice}
    (hnotices : ∀ n ∈ notices, n.IsPreparatory) :
    (fresh config graph (⟨machine, []⟩ : Traced σ) notices).Heeds := by
  have hgains : Gains (fun e => ¬ e.IsTurn) []
      (fresh config graph (⟨machine, []⟩ : Traced σ) notices).journal :=
    gains_fresh (fun n hn => not_turn_of_preparatory (hnotices n hn)) fun _ => id
  have hnone := (hgains.mono (q := fun e => ∀ id state, e ≠ .powerRequested id .rescue state)
    fun e he id state heq => he (heq ▸ trivial)).rescuePowers
  rw [Heeds, hnone, calls_fresh]
  rfl

end

/-! ## The console is handed back -/

section

variable {σ : Type} [Platform σ] {s t : Init σ}

/-- Whenever the rescue shell is run on the process table of a state and comes to an end, the
console is free and the table is what it was before. -/
def LendsConsole (s : Init σ) : Prop :=
  ∀ (t : Init σ) (outcome : RescueOutcome) (t' : Init σ), t.table = s.table →
    (∀ pid ∈ t.processes, (t.toSupervisor.spawn t.config.rescue).1 ≠ .ok pid) →
      t.runRescue = (some outcome, t') → t'.suspended = false ∧ t'.table = t.table

theorem lendsConsole (hs : s.table.Neat) : s.LendsConsole := by
  intro t outcome t' htable hfresh hrun
  obtain ⟨queue, heq⟩ := t.runRescue_eq
  rw [heq] at hrun
  obtain ⟨houtcome, rfl⟩ := Prod.ext_iff.mp hrun
  have hsome : t.toSupervisor.rescue.1.isSome := Option.isSome_of_mem houtcome
  refine ⟨?_, t.toSupervisor.rescues.table hsome (htable ▸ hs.present) hfresh⟩
  change t.toSupervisor.rescue.1.isNone = false
  rw [houtcome]
  rfl

end

/-! ## Every boot -/

section

variable {σ : Type} [Platform σ]

/-- A state of a run in which the init boots once, and the boot chain gets a number. Nobody asks for
another power state from outside. -/
def Boots (s₀ : Init (Traced σ)) (chain : TaskId) (s : Init (Traced σ)) : Prop :=
  ∃ before after, (∀ m ∈ before, m.IsAmbient) ∧ (∀ m ∈ after, m.IsAmbient) ∧
    s₀.AllPossible (before ++ .boot :: after) ∧ (s₀.run before).nextTask = chain ∧
      s = s₀.run (before ++ .boot :: after)

/-- How a boot whose chain has a number has gone so far. -/
structure BootConduct (chain : TaskId) (s : Init (Traced σ)) : Prop where
  /-- The rescue shell and the session are tried once at most, and each has its reason, as has
  everyone who asks for another power state. -/
  conducts : Conducts s.config chain s.journal
  chainFate : s.ChainFate chain
  sessionFate : s.SessionFate (chain + 1)
  heeds : s.Heeds
  console : s.LendsConsole

variable [PlainSetup σ] {config : Config} {graph : Graph} {machine : σ} {notices : List Notice}
  {chain : TaskId} {s : Init (Traced σ)}

theorem boot_conducted (hnotices : ∀ n ∈ notices, n.IsPreparatory)
    (hboots : (fresh config graph (⟨machine, []⟩ : Traced σ) notices).Boots chain s)
    (hnumbers : FreshNumbers s.journal) : BootConduct chain s := by
  obtain ⟨before, after, hbefore, hafter, hpossible, rfl, hs⟩ := hboots
  let s₀ : Init (Traced σ) := fresh config graph ⟨machine, []⟩ notices
  let t := s₀.run before
  have hleads : Leads s₀ .idle s₀ := leads_fresh config graph (⟨machine, []⟩ : Traced σ) notices
  have hleadsBoot : Leads s₀ .idle t.boot := (hleads.reaches ⟨before, rfl⟩).perform .boot
  have hheeds : (s₀.run (before ++ .boot :: after)).Heeds := by
    refine (heeds_fresh hnotices).run hleads hpossible fun m hm => ?_
    rcases List.mem_append.mp hm with hm | hm
    · exact .inl (hbefore m hm)
    · exact (List.mem_cons.mp hm).symm.imp_left (hafter m)
  -- nobody boots in the two runs before and after the boot
  have hrun : s₀.run (before ++ .boot :: after) = t.boot.run after := run_append _ _ _
  rw [← hs] at hheeds
  rw [hrun] at hs
  have hbegun : t.journal <:+ s.journal :=
    hs ▸ (List.suffix_cons _ _).trans (hleadsBoot.continues after).journal
  have hready : t.Booting t.nextTask :=
    (booting_fresh hnotices t.nextTask).run hleads hbefore (.inl (Nat.le_refl _))
      (hnumbers.mono hbegun)
  subst hs
  have hbooting : (t.boot.run after).Booting t.nextTask :=
    hready.boot.run hleadsBoot hafter (.inr (Nat.lt_succ_self _)) hnumbers
  have hbooted : t.nextTask + 1 < (t.boot.run after).nextTask :=
    (hleadsBoot.continues after).nextTask_le
  exact {
    conducts := hbooting.conducts
    chainFate := hbooting.chainFate (Nat.lt_of_succ_lt hbooted)
    sessionFate := hbooting.sessionFate hbooted
    heeds := hheeds
    console := lendsConsole hbooting.neat }

end

/-! ## A boot that fails -/

def bootlessConfig : Config :=
  { bootTarget := "gone.target", foundation := ["base.target"] }

/-- There is no boot target. -/
def bootlessGraph : Graph where
  disk := (∅ : ExtTreeMap String UnitDef).insert "base.target" {}

/-- The operator leaves the rescue shell with code 2, and the session ends soon. -/
def bootlessMachine : Simulation.Script where
  children.endings := (∅ : ExtTreeMap String Simulation.Endings).insert "/bin/bash"
    (.always ⟨.exited 0, 50⟩)
  blocking := [.ok (.exited 2)]

def freshBootless : Init (Traced Simulation.Script) :=
  fresh bootlessConfig bootlessGraph ⟨bootlessMachine, []⟩ []

/-- The session is there before the boot chain learns that the boot target is missing, and ends
after that. -/
def bootlessMoves : List (Move (Traced Simulation.Script)) :=
  [.poll 2, .poll 3, .poll 2, .poll 1, .pass 50, .tick 50, .poll 2]

theorem bootless_conducted :
    freshBootless.Boots 1 (freshBootless.run ([.watch] ++ .boot :: bootlessMoves)) ∧
      FreshNumbers (freshBootless.run ([.watch] ++ .boot :: bootlessMoves)).journal ∧
      (freshBootless.run ([.watch] ++ .boot :: bootlessMoves)).journal.filterMap rescuePower? =
        [.restart] ∧
      BootConduct 1 (freshBootless.run ([.watch] ++ .boot :: bootlessMoves)) := by
  have hrun : freshBootless.AllPossible ([.watch] ++ .boot :: bootlessMoves) ∧
      (freshBootless.run [.watch]).nextTask = 1 ∧
      FreshNumbers (freshBootless.run ([.watch] ++ .boot :: bootlessMoves)).journal ∧
      (freshBootless.run ([.watch] ++ .boot :: bootlessMoves)).journal.filterMap rescuePower? =
        [.restart] := by
    decide +kernel
  obtain ⟨hpossible, hchain, hnumbers, hrescued⟩ := hrun
  have hboots : freshBootless.Boots 1 (freshBootless.run ([.watch] ++ .boot :: bootlessMoves)) :=
    ⟨[.watch], bootlessMoves, by decide, by decide, hpossible, hchain, rfl⟩
  exact ⟨hboots, hnumbers, hrescued, boot_conducted (List.forall_mem_nil _) hboots hnumbers⟩

end Init

end InitDaemon
