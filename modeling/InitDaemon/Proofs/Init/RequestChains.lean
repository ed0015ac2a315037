import Mathlib.Data.List.Perm.Subperm
import InitDaemon.Proofs.Init.NeededUnits

/-!
# Request chains

The chain that comes with a request names the units that pulled the unit in, nearest first. If roots
are asked for with an empty chain, every chain is a simple path in the graph that leads from the
unit back to a root.
-/

namespace InitDaemon

open Relation Std InitDaemon.Units InitDaemon.Journal

/-- How requests get from the roots to a unit: each unit on the way exists and lies on no cycle. -/
inductive Route (graph : Graph) (roots : List String) : String → List String → Prop
  | root {unit : String} (h : unit ∈ roots) : Route graph roots unit []
  | dependency {unit d : String} {chain : List String} (h : Route graph roots unit chain)
    (hunit : graph.contains unit = true) (hacyclic : ¬ Cyclic graph.successors unit)
    (hd : graph.Depends unit d) : Route graph roots d (unit :: chain)

/-- Each unit is a dependency of the next one, and the last one is a root. -/
structure RequestPath (graph : Graph) (roots : List String) (unit : String) (chain : List String) :
    Prop where
  linked : List.IsChain (fun d v => graph.Depends v d) (unit :: chain)
  rooted : ∃ root ∈ roots, (unit :: chain).getLast? = some root
  standing : ∀ v ∈ chain, graph.contains v = true ∧ ¬ Cyclic graph.successors v
  nodup : (unit :: chain).Nodup

namespace Route

variable {graph : Graph} {roots chain : List String} {unit v : String}

theorem linked (h : Route graph roots unit chain) :
    List.IsChain (fun d v => graph.Depends v d) (unit :: chain) := by
  induction h with
  | root => exact .singleton _
  | dependency _ _ _ hd ih => exact .cons_cons hd ih

theorem rooted (h : Route graph roots unit chain) :
    ∃ root ∈ roots, (unit :: chain).getLast? = some root := by
  induction h with
  | root h => exact ⟨_, h, rfl⟩
  | dependency _ _ _ _ ih =>
    obtain ⟨root, hroot, hlast⟩ := ih
    exact ⟨root, hroot, by rw [List.getLast?_cons_cons, hlast]⟩

theorem standing (h : Route graph roots unit chain) :
    ∀ v ∈ chain, graph.contains v = true ∧ ¬ Cyclic graph.successors v := by
  induction h with
  | root => exact nofun
  | dependency _ hunit hacyclic _ ih => exact List.forall_mem_cons.mpr ⟨⟨hunit, hacyclic⟩, ih⟩

theorem reaches (h : Route graph roots unit chain) (hv : v ∈ chain)
    (hunit : graph.contains unit = true) : TransGen (Edge graph.successors) v unit := by
  induction h with
  | root => cases hv
  | dependency _ hbefore _ hd ih =>
    obtain ⟨u, hu, hmem⟩ := hd
    have hedge : Edge graph.successors _ _ := Graph.mem_successors.mpr ⟨u, hu, hmem, hunit⟩
    rcases List.mem_cons.mp hv with rfl | hv
    · exact .single hedge
    · exact (ih hv hbefore).tail hedge

/-- A unit that came twice would reach itself. -/
theorem nodup (h : Route graph roots unit chain) : (unit :: chain).Nodup := by
  induction h with
  | root => exact List.pairwise_singleton _ _
  | dependency h hunit hacyclic hd ih =>
    have hroute := h.dependency hunit hacyclic hd
    refine List.nodup_cons.mpr ⟨?_, ih⟩
    intro hmem
    obtain ⟨hcontains, hacyclic'⟩ := hroute.standing _ hmem
    exact hacyclic' (hroute.reaches hmem hcontains)

theorem requestPath (h : Route graph roots unit chain) : RequestPath graph roots unit chain :=
  ⟨h.linked, h.rooted, h.standing, h.nodup⟩

end Route

theorem RequestPath.length_le {graph : Graph} {roots chain : List String} {unit : String}
    (h : RequestPath graph roots unit chain) : chain.length ≤ graph.names.length := by
  have hnodup : chain.Nodup := (List.nodup_cons.mp h.nodup).2
  refine (hnodup.subperm ?_).length_le
  intro v hv
  exact Graph.mem_names.mpr (h.standing v hv).1

namespace Init

variable {σ : Type} {s₀ s t t' : Init σ} {m : Move σ} {id : TaskId} {unit : String}
  {rootUnits chain : List String}

/-- Every request and every start came to its unit by a route. -/
structure Routed (roots : List String) (s : Init σ) : Prop where
  cycles : s.cycles = cycleTable s.graph.findCycles
  starts : ∀ (id : TaskId) unit chain phase, s.tasks[id]? = some (.start unit chain phase) →
    Route s.graph roots unit chain ∧ s.graph.contains unit = true ∧
      ¬ Cyclic s.graph.successors unit
  requested : ∀ r ∈ s.journal, ∀ h chain, r.entry = .requested h chain →
    Route s.graph roots h.unit chain
  missing : ∀ unit name chain,
    outcomeAfter? s.journal unit = some (.error (.notFound name chain)) →
      s.graph.get? unit = none → name = unit ∧ Route s.graph roots unit chain

theorem accepted (hcycles : s.cycles = cycleTable s.graph.findCycles)
    (haccepted : s.rejection? unit chain = none) :
    s.graph.contains unit = true ∧ ¬ Cyclic s.graph.successors unit := by
  have hrunning : s.stopping = false := by
    rw [rejection?] at haccepted
    cases hs : s.stopping with
    | false => rfl
    | true => cases (if_pos hs).symm.trans haccepted
  obtain ⟨⟨u, hu⟩, hacyclic⟩ := (accepted_iff hcycles hrunning).mp haccepted
  exact ⟨by rw [Graph.contains, hu]; rfl, hacyclic⟩

theorem eq_of_rejected_notFound {name : String} {chain' : List String}
    (h : s.rejection? unit chain = some (.notFound name chain')) : name = unit ∧ chain' = chain := by
  rw [rejection?] at h
  split at h
  · cases h
  · split at h
    · cases h
      exact ⟨rfl, rfl⟩
    · rw [Option.map_eq_some_iff] at h
      obtain ⟨_, -, h⟩ := h
      cases h

variable [Platform σ]

namespace Routed

omit [Platform σ] in
theorem wants (h : Routed rootUnits t) (hasks : s.AsksAlone m t)
    (hroots : ∀ unit ∈ s.roots m, unit ∈ rootUnits)
    (hempty : ∀ unit chain, m = .request unit chain → chain = []) (hwants : t.Wants m unit chain) :
    Route t.graph rootUnits unit chain := by
  rcases hasks.wants hwants with ⟨hunit, hchain⟩ | ⟨id, v, chain', -, ht, hd, rfl⟩
  · obtain rfl : chain = [] := hchain.elim (fun h => h) (hempty unit chain)
    exact .root (hroots unit hunit)
  · obtain ⟨hroute, hcontains, hacyclic⟩ := h.starts _ _ _ _ ht
    exact hroute.dependency hcontains hacyclic hd

theorem step (h : Routed rootUnits t) (hstep : Step m t t')
    (hwants : ∀ unit chain, t.Wants m unit chain → Route t.graph rootUnits unit chain) :
    Routed rootUnits t' := by
  have hgraph := hstep.continues.graph
  constructor
  case cycles => rw [hgraph, hstep.continues.cycles, h.cycles]
  case starts =>
    intro id unit chain phase ht'
    rw [hgraph]
    rcases hstep.start_arrives ht' with ⟨phase₀, ht, -⟩ | ⟨-, hwanted, -, haccepted, -, -⟩
    · exact h.starts id unit chain phase₀ ht
    · exact ⟨hwants unit chain hwanted, accepted h.cycles haccepted⟩
  case requested =>
    intro r hr handle chain heq
    obtain ⟨new, hjournal, hnew⟩ := hstep.gains
    rw [hgraph]
    rw [hjournal] at hr
    rcases List.mem_append.mp hr with hr | hr
    · have hwrites := hnew r hr
      rw [heq] at hwrites
      cases hwrites with
      | request hwanted => exact hwants _ _ hwanted
      | mute he | final he | rescue _ he | turn _ _ he => exact he.elim
    · exact h.requested r hr handle chain heq
  case missing =>
    intro unit name chain ho hnone
    rw [hgraph] at hnone ⊢
    rcases hstep.gains.outcome ho with hold | hwrites
    · exact h.missing unit name chain hold hnone
    · cases hwrites with
      | reject hwanted _ hrejected =>
        obtain ⟨rfl, rfl⟩ := eq_of_rejected_notFound hrejected
        exact ⟨rfl, hwants _ _ hwanted⟩
      | refuse _ hrefuses => cases hrefuses
      | finish ht =>
        -- A unit whose start has ended exists.
        obtain ⟨-, hcontains, -⟩ := h.starts _ _ _ _ ht
        rw [Graph.contains, hnone] at hcontains
        cases hcontains
      | mute he | final he | rescue _ he | turn _ _ he => exact he.elim

theorem steps (h : Routed rootUnits s) (hroots : ∀ unit ∈ s.roots m, unit ∈ rootUnits)
    (hempty : ∀ unit chain, m = .request unit chain → chain = []) (hsteps : Steps m s t) :
    Routed rootUnits t := by
  have hboth : s.AsksAlone m t ∧ Routed rootUnits t := by
    induction hsteps with
    | refl => exact ⟨⟨rfl, fun _ _ _ ht _ => ht⟩, h⟩
    | tail _ hstep ih =>
      obtain ⟨hasks, hrouted⟩ := ih
      refine ⟨hasks.step hstep, hrouted.step hstep ?_⟩
      intro unit chain
      exact hrouted.wants hasks hroots hempty
  exact hboth.2

end Routed

/-! ## Runs -/

theorem Leads.routed (hs : Leads s₀ .idle s) (h : Routed rootUnits s) {moves : List (Move σ)}
    (hroots : ∀ unit ∈ s.allRoots moves, unit ∈ rootUnits)
    (hempty : ∀ unit chain, Move.request unit chain ∈ moves → chain = []) :
    Routed rootUnits (s.run moves) := by
  induction moves generalizing s with
  | nil => exact h
  | cons m moves ih =>
    refine ih (hs.perform m) (h.steps ?_ ?_ (hs.steps m)) ?_ ?_
    · intro unit hunit
      exact hroots unit (List.mem_append_left _ hunit)
    · intro unit chain hm
      exact hempty unit chain (hm ▸ List.mem_cons_self)
    · intro unit hunit
      exact hroots unit (List.mem_append_right _ hunit)
    · intro unit chain hm
      exact hempty unit chain (List.mem_cons_of_mem _ hm)

/-- While a start is polled its task stays the start of that unit, with the same chain. -/
theorem Steps.same_start {task : Task} {phase : StartPhase} (hid : id < s.nextTask)
    (ht : s.tasks[id]? = some (.start unit chain phase)) (hsteps : Steps m s t)
    (htask : t.tasks[id]? = some task) : ∃ phase', task = .start unit chain phase' := by
  induction hsteps generalizing task with
  | refl => exact ⟨phase, Option.some.inj (htask.symm.trans ht)⟩
  | @tail t t' hsteps hstep ih =>
    have hid' : id < t.nextTask := Nat.lt_of_lt_of_le hid (Steps.continues hsteps).nextTask_le
    cases hstep.arrives htask with
    | stayed ht₀ => exact ih ht₀
    | marked ht₀ signal =>
      obtain ⟨phase', rfl⟩ := ih ht₀
      exact ⟨phase', mark_eq_start.mpr rfl⟩
    | added hnew | started hnew => exact absurd hid' (hnew ▸ Nat.lt_irrefl _)
    | proceeded _ ht₀ hproceeds =>
      obtain ⟨phase', rfl⟩ := ih ht₀
      exact hproceeds.start
    | turned _ hturns =>
      obtain ⟨task₀, ht₀, hother⟩ := hturns.there
      obtain ⟨phase', rfl⟩ := ih ht₀
      exact absurd rfl (hother _ _ _)

/-- What the start of a unit asks for. -/
theorem Steps.start_requests {phase : StartPhase} (hid : id < s.nextTask)
    (ht : s.tasks[id]? = some (.start unit chain phase)) (hsteps : Steps (.poll id) s t) :
    Gains (fun e => ∀ h chain', e = .requested h chain' →
      chain' = unit :: chain ∧ s.graph.Depends unit h.unit) s.journal t.journal := by
  induction hsteps with
  | refl => exact .refl _
  | @tail t t' hsteps hstep ih =>
    refine ih.trans (hstep.gains.mono ?_)
    rintro e hwrites h chain' rfl
    have hsame {task : Task} (htask : t.tasks[id]? = some task) :=
      Steps.same_start hid ht hsteps htask
    cases hwrites with
    | request hwants =>
      generalize h.unit = name at hwants ⊢
      cases hwants with
      | dependency ht₀ hu hd =>
        obtain ⟨phase', heq⟩ := hsame ht₀
        cases heq
        exact ⟨rfl, _, (Steps.continues hsteps).graph ▸ hu, hd⟩
      | target ht₀ | foundation ht₀ =>
        obtain ⟨phase', heq⟩ := hsame ht₀
        cases heq
    | mute he | final he | rescue _ he | turn _ _ he => exact he.elim

/-- What holds of the chains of a run, given its roots. -/
structure ChainsSimple (graph : Graph) (rootUnits : List String) (s : Init σ) : Prop where
  asks : ∀ (id : TaskId) unit chain phase, s.tasks[id]? = some (.start unit chain phase) →
    Gains (fun e => ∀ h chain', e = .requested h chain' →
      chain' = unit :: chain ∧ RequestPath graph rootUnits h.unit chain')
      s.journal (s.perform (.poll id)).journal
  requested : ∀ r ∈ s.journal, ∀ h chain, r.entry = .requested h chain →
    RequestPath graph rootUnits h.unit chain ∧ chain.length ≤ graph.names.length
  missing : ∀ unit name chain, s.outcome? unit = some (.error (.notFound name chain)) →
    name = unit ∧ graph.get? unit = none ∧ RequestPath graph rootUnits unit chain

section

variable {config : Config} {graph : Graph} {machine : σ} {notices : List Notice}

omit [Platform σ] in
theorem routed_fresh (rootUnits : List String) :
    Routed rootUnits (fresh config graph machine notices) := by
  have hledger := ledger_fresh config graph machine notices
  have hnone (unit : String) : ¬ (fresh config graph machine notices).Entered unit := by
    rintro ⟨channel, hchannel⟩
    simp [fresh, Init.new] at hchannel
  constructor
  case cycles => exact hledger.cycles
  case starts =>
    intro id unit chain phase ht
    simp [fresh, Init.new] at ht
  case requested =>
    intro r hr h chain heq
    exact absurd (hledger.toChannels.entered ⟨r, hr, chain, heq⟩) (hnone _)
  case missing =>
    intro unit name chain ho
    rw [← hledger.outcome] at ho
    exact absurd (entered_of_outcome ho) (hnone unit)

/-- In every run in which the roots are asked for with an empty chain, the start of a unit passes on
its own chain with the unit in front, every chain is a simple path from a root, and so is that of
a unit that was not found. -/
theorem request_chains_simple (moves : List (Move σ))
    (hempty : ∀ unit chain, Move.request unit chain ∈ moves → chain = []) :
    ChainsSimple graph ((fresh config graph machine notices).allRoots moves)
      ((fresh config graph machine notices).run moves) := by
  have hleads := leads_fresh config graph machine notices
  have hleads' := hleads.reaches ⟨moves, rfl⟩
  have hgraph : ((fresh config graph machine notices).run moves).graph = graph :=
    hleads'.later.graph
  have hrouted := hleads.routed (routed_fresh _) (fun _ h => h) hempty
  have hstarts := hrouted.starts
  have hrequested := hrouted.requested
  have hmissing := hrouted.missing
  rw [hgraph] at hstarts hrequested hmissing
  constructor
  case asks =>
    intro id unit chain phase ht
    have hid := hleads'.workflow.id_lt id _ ht
    refine (Steps.start_requests hid ht (hleads'.steps (.poll id))).mono ?_
    intro e he h chain' heq
    obtain ⟨rfl, hd⟩ := he h chain' heq
    rw [hgraph] at hd
    obtain ⟨hroute, hcontains, hacyclic⟩ := hstarts id unit chain phase ht
    exact ⟨rfl, (hroute.dependency hcontains hacyclic hd).requestPath⟩
  case requested =>
    intro r hr h chain heq
    have hpath := (hrequested r hr h chain heq).requestPath
    exact ⟨hpath, hpath.length_le⟩
  case missing =>
    intro unit name chain ho
    have hnone := (hleads'.ledger.justified unit _ ho).missing name chain rfl
    rw [hgraph] at hnone
    rw [hleads'.ledger.outcome] at ho
    obtain ⟨hname, hroute⟩ := hmissing unit name chain ho hnone
    exact ⟨hname, hnone, hroute.requestPath⟩

end

/-! ## A chain of two -/

/-- A unit whose dependency has a dependency that does not exist. -/
def brokenGraph : Graph where
  disk := (∅ : ExtTreeMap String UnitDef).insert "a" { dependencies := .ofList ["b"] }
    |>.insert "b" { dependencies := .ofList ["c"] }

def brokenRun : List (Move Simulation.Script) :=
  [.request "a" [], .poll 0, .poll 1]

theorem missing_unit_has_chain :
    (∀ unit chain, Move.request unit chain ∈ brokenRun → chain = []) ∧
      ((fresh {} brokenGraph ({} : Simulation.Script) []).run brokenRun).outcome? "c" =
        some (.error (.notFound "c" ["b", "a"])) ∧
      RequestPath brokenGraph ["a"] "c" ["b", "a"] := by
  have hempty : ∀ unit chain, Move.request unit chain ∈ brokenRun → chain = [] := by
    intro unit chain hmem
    simp only [brokenRun, List.mem_cons, Move.request.injEq, reduceCtorEq, List.not_mem_nil,
      or_false] at hmem
    exact hmem.2
  have hmissing : ((fresh {} brokenGraph ({} : Simulation.Script) []).run brokenRun).outcome? "c" =
      some (.error (.notFound "c" ["b", "a"])) := by
    decide +kernel
  have hroots : (fresh {} brokenGraph ({} : Simulation.Script) []).allRoots brokenRun = ["a"] := by
    decide +kernel
  refine ⟨hempty, hmissing, ?_⟩
  have hchains : ChainsSimple brokenGraph
      ((fresh {} brokenGraph ({} : Simulation.Script) []).allRoots brokenRun)
      ((fresh {} brokenGraph ({} : Simulation.Script) []).run brokenRun) :=
    request_chains_simple brokenRun hempty
  rw [hroots] at hchains
  exact (hchains.missing _ _ _ hmissing).2.2

end Init

end InitDaemon
