import InitDaemon.Proofs.Init.Agreement
import InitDaemon.Proofs.Init.PollSteps
import InitDaemon.Proofs.Init.StepRecords
import InitDaemon.Proofs.Init.StepTasks
import InitDaemon.Proofs.Units.Builtins

/-!
# Unit files and built-in units

Whatever unit files there are, a built-in is found, lies on no cycle and asks for built-ins only. As
long as nothing shuts down, its outcome is the one that it has without any unit file.
-/

namespace InitDaemon.Init

open Std InitDaemon.Units InitDaemon.Journal

variable {σ τ : Type} {config config' : Config} {disk disk' : ExtTreeMap String UnitDef}
  {machine : σ} {machine' : τ} {notices notices' : List Notice} {s₀ s t t' : Init σ} {s' : Init τ}
  {m : Move σ} {id : TaskId} {unit : String}

variable [Platform σ] [Platform τ]

/-! ## What the task of a unit asks for -/

/-- The number of a task that is gone is not given again. -/
theorem Step.stays_gone (h : Step m t t') (hid : id < t.nextTask) (hgone : t.tasks[id]? = none) :
    t'.tasks[id]? = none := by
  refine Option.eq_none_iff_forall_ne_some.mpr fun task ht' => ?_
  cases h.arrives ht' with
  | stayed ht | marked ht | proceeded _ ht => cases hgone.symm.trans ht
  | added hnew | started hnew => exact absurd hid (hnew ▸ Nat.lt_irrefl _)
  | turned _ hturns =>
    obtain ⟨task, ht, -⟩ := hturns.there
    cases hgone.symm.trans ht

/-- The entry is no request but for a unit that `unit` depends on. -/
def AsksBelow (graph : Graph) (unit : String) (e : Entry) : Prop :=
  ∀ h chain, e = .requested h chain → graph.Depends unit h.unit

/-- From one state to a later one in the poll of a unit's task, nothing but dependencies of the unit
was asked for. -/
structure AsksInPoll (id : TaskId) (unit : String) (s t : Init σ) : Prop where
  graph : t.graph = s.graph
  id_lt : id < t.nextTask
  place : t.tasks[id]? = none ∨
    ∃ chain phase, t.tasks[id]? = some (.start unit chain phase)
  asked : Gains (AsksBelow s.graph unit) s.journal t.journal

omit [Platform σ] in
theorem AsksInPoll.wants {d : String} {chain : List String} (h : AsksInPoll id unit s t)
    (hwants : t.Wants (.poll id) d chain) : s.graph.Depends unit d := by
  have hplace {task : Task} (ht : t.tasks[id]? = some task) :
      ∃ chain phase, task = .start unit chain phase := by
    rcases h.place with hgone | ⟨chain, phase, hstart⟩
    · cases hgone.symm.trans ht
    · exact ⟨chain, phase, Option.some.inj (ht.symm.trans hstart)⟩
  cases hwants with
  | dependency ht hu hd =>
    obtain ⟨_, _, heq⟩ := hplace ht
    cases heq
    exact ⟨_, h.graph ▸ hu, hd⟩
  | target ht | foundation ht =>
    obtain ⟨_, _, heq⟩ := hplace ht
    cases heq

theorem AsksInPoll.step (h : AsksInPoll id unit s t) (hstep : Step (.poll id) t t') :
    AsksInPoll id unit s t' where
  graph := hstep.continues.graph.trans h.graph
  id_lt := Nat.lt_of_lt_of_le h.id_lt hstep.continues.nextTask_le
  place := by
    rcases h.place with hgone | ⟨chain, phase, ht⟩
    · exact .inl (hstep.stays_gone h.id_lt hgone)
    · exact (hstep.start_stays h.id_lt ht).imp_right fun ⟨phase', ht'⟩ => ⟨chain, phase', ht'⟩
  asked := by
    refine h.asked.trans (hstep.gains.mono ?_)
    rintro e hwrites handle chain rfl
    cases hwrites with
    | mute he | final he | rescue _ he | turn _ _ he => exact he.elim
    | request hwants => exact h.wants hwants

/-- The task of a unit asks for dependencies of the unit and for nothing else. -/
theorem Leads.asks_below {chain : List String} {phase : StartPhase} (hs : Leads s₀ .idle s)
    (ht : s.tasks[id]? = some (.start unit chain phase)) :
    Gains (AsksBelow s.graph unit) s.journal (s.perform (.poll id)).journal := by
  have hpoll : AsksInPoll id unit s (s.perform (.poll id)) := by
    have hsteps := hs.steps (.poll id)
    generalize s.perform (.poll id) = s' at hsteps
    induction hsteps with
    | refl => exact ⟨rfl, hs.workflow.id_lt id _ ht, .inr ⟨chain, phase, ht⟩, .refl _⟩
    | tail _ hstep ih => exact ih.step hstep
  exact hpoll.asked

/-! ## Two runs -/

theorem builtins_alike (hs : (fresh config (.besideBuiltins disk) machine notices).Reaches s)
    (hs' : (fresh config' (.besideBuiltins disk') machine' notices').Reaches s')
    (hrunning : s.stopping = false) (hrunning' : s'.stopping = false)
    (hresults : ∀ (b : Builtin) o o',
      Acted s.journal b.name o → Acted s'.journal b.name o' → o = o')
    {b : Builtin} {o o' : Outcome} (ho : s.outcome? b.name = some o)
    (ho' : s'.outcome? b.name = some o') : o.Alike o' := by
  refine (hs.decides hrunning ho).alike (hs'.decides hrunning' ho')
    (Graph.sameBelow_builtin disk disk' b) ?_
  intro v hv
  obtain ⟨b', rfl⟩ := Graph.builtin_of_reaches hv
  exact hresults b'

/-- In every run beside any unit files: no built-in lies on a cycle, none is turned down as missing
or cyclic, and the task of one asks for built-ins only. Without a shutdown the outcome of a built-in
is like that in any run without unit files in which the built-in actions have the same results. -/
theorem unit_files_spare_builtins
    (hs : (fresh config (.besideBuiltins disk) machine notices).Reaches s) :
    (∀ cycle ∈ (Graph.besideBuiltins disk).findCycles, ∀ b : Builtin, b.name ∉ cycle) ∧
    (∀ b : Builtin, (∀ name chain, s.outcome? b.name ≠ some (.error (.notFound name chain))) ∧
      ∀ members, s.outcome? b.name ≠ some (.error (.cycle members))) ∧
    (∀ (b : Builtin) id chain phase, s.tasks[id]? = some (.start b.name chain phase) →
      Gains (fun e => ∀ h chain, e = .requested h chain → ∃ b' : Builtin, h.unit = b'.name)
        s.journal (s.perform (.poll id)).journal) ∧
    ∀ {config' : Config} {machine' : τ} {notices' : List Notice} {s' : Init τ},
      (fresh config' .withBuiltins machine' notices').Reaches s' →
      s.stopping = false → s'.stopping = false →
      (∀ (b : Builtin) o o', Acted s.journal b.name o → Acted s'.journal b.name o' → o = o') →
      ∀ (b : Builtin) o o', s.outcome? b.name = some o → s'.outcome? b.name = some o' →
        o.Alike o' := by
  have hgraph : s.graph = .besideBuiltins disk := hs.leads.later.graph
  refine ⟨fun _ => Graph.builtin_not_mem_findCycles, fun b => ⟨?_, ?_⟩, ?_, ?_⟩
  · intro name chain ho
    have hmissing := (hs.leads.ledger.justified b.name _ ho).missing name chain rfl
    rw [hgraph, Graph.get?_builtin] at hmissing
    cases hmissing
  · intro members ho
    have hcyclic := (hs.leads.ledger.justified b.name _ ho).cyclic members rfl
    rw [hgraph] at hcyclic
    exact Graph.builtin_acyclic disk b hcyclic
  · intro b id chain phase ht
    refine (hs.leads.asks_below ht).mono ?_
    intro e hasks handle chain' heq
    have hdepends := hasks handle chain' heq
    rw [hgraph] at hdepends
    obtain ⟨b', hname, -⟩ := Graph.depends_before hdepends
    exact ⟨b', hname⟩
  · intro config' machine' notices' s' hs' hrunning hrunning' hresults b o o' ho ho'
    have hbare : (fresh config' (.besideBuiltins ∅) machine' notices').Reaches s' := hs'
    exact builtins_alike hs hbare hrunning hrunning' hresults ho ho'

/-! ## A unit file named like a built-in -/

/-- The mounts of the file depend on a unit that depends on them. -/
def shadowingFiles : ExtTreeMap String UnitDef :=
  (∅ : ExtTreeMap String UnitDef)
    |>.insert "mounts" { dependencies := .ofList ["late.service"], start := .command "/bin/false" }
    |>.insert "late.service" { dependencies := .ofList ["network"] }

def mountless : Simulation.Script :=
  { hostFailures := (∅ : ExtTreeMap String HostError)
      |>.insert "mount_all" (.mount "/proc" "proc" .EPERM) }

def shadowedRun : Init Simulation.Script :=
  (fresh {} (.besideBuiltins shadowingFiles) mountless []).run
    [.request "late.service" [], .poll 0, .poll 1, .poll 2, .poll 1, .poll 0]

def plainRun : Init Simulation.Script :=
  (fresh {} .withBuiltins mountless []).run [.request "network" [], .poll 0, .poll 1, .poll 0]

def mountsRefused : StartError :=
  .action "mounts" "Failed to mount proc on /proc: EPERM: Operation not permitted"

theorem shadowed_mounts_fail_alike :
    (∀ cycle ∈ (Graph.besideBuiltins shadowingFiles).findCycles, "mounts" ∉ cycle) ∧
    ∃ o o', shadowedRun.outcome? "network" = some o ∧ plainRun.outcome? "network" = some o' ∧
      o.Alike o' := by
  have hreaches : (fresh {} (.besideBuiltins shadowingFiles) mountless []).Reaches shadowedRun :=
    ⟨_, rfl⟩
  have hreaches' : (fresh {} .withBuiltins mountless []).Reaches plainRun := ⟨_, rfl⟩
  have hrunning : shadowedRun.stopping = false := by decide +kernel
  have hrunning' : plainRun.stopping = false := by decide +kernel
  have hown : ownResults shadowedRun.journal = [("mounts", .error mountsRefused)] := by
    decide +kernel
  have hown' : ownResults plainRun.journal = [("mounts", .error mountsRefused)] := by
    decide +kernel
  have ho : shadowedRun.outcome? "network" =
      some (.error (.dependency "network" "mounts" mountsRefused.text)) := by
    decide +kernel
  have ho' : plainRun.outcome? "network" =
      some (.error (.dependency "network" "mounts" mountsRefused.text)) := by
    decide +kernel
  have hresults : ∀ (b : Builtin) o o', Acted shadowedRun.journal b.name o →
      Acted plainRun.journal b.name o' → o = o' := by
    intro b o o' hacted hacted'
    rw [acted_iff_mem_ownResults, hown, List.mem_singleton, Prod.mk.injEq] at hacted
    rw [acted_iff_mem_ownResults, hown', List.mem_singleton, Prod.mk.injEq] at hacted'
    exact hacted.2.trans hacted'.2.symm
  obtain ⟨hcycles, -, -, halike⟩ :=
    unit_files_spare_builtins (τ := Simulation.Script) hreaches
  exact ⟨fun cycle hcycle => hcycles cycle hcycle .mounts, _, _, ho, ho',
    halike hreaches' hrunning hrunning' hresults .network _ _ ho ho'⟩

end InitDaemon.Init
