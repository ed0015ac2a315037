import InitDaemon.Proofs.Init.PollSteps
import InitDaemon.Proofs.Init.StepRecords
import InitDaemon.Proofs.Init.StepTasks

/-!
# Lazy but complete

Units are asked for because they are needed: the roots are, and so are the dependencies of each
needed unit that exists and lies on no cycle. Without a shutdown no other unit is ever entered, and
all needed units have been entered once everyone who has asked has an answer.
-/

namespace InitDaemon

open Std InitDaemon.Units InitDaemon.Journal

/-- The smallest set that has the roots and, with each unit that exists and lies on no cycle, its
dependencies. -/
inductive Needed (graph : Graph) (roots : List String) : String → Prop
  | root {unit : String} (h : unit ∈ roots) : Needed graph roots unit
  | dependency {unit d : String} {u : UnitDef} (h : Needed graph roots unit)
    (hu : graph.get? unit = some u) (hacyclic : ¬ Cyclic graph.successors unit)
    (hd : d ∈ u.dependencies) : Needed graph roots d

/-- Whatever has the roots and is closed has all that is needed. -/
theorem Needed.of_closed {graph : Graph} {roots : List String} {p : String → Prop}
    (hroots : ∀ unit ∈ roots, p unit)
    (hclosed : ∀ unit u, p unit → graph.get? unit = some u → ¬ Cyclic graph.successors unit →
      ∀ d ∈ u.dependencies, p d) {unit : String} (h : Needed graph roots unit) : p unit := by
  induction h with
  | root h => exact hroots _ h
  | dependency _ hu hacyclic hd ih => exact hclosed _ _ ih hu hacyclic _ hd

/-- The task has not asked for its units yet. -/
def Task.IsOpening : Task → Prop
  | .bootChain none | .session .fresh => True
  | _ => False

namespace Init

variable {σ : Type} {s₀ s s' t t' : Init σ} {m : Move σ} {id : TaskId} {unit : String}

/-- The units that a move asks for on nobody's behalf. -/
def roots (s : Init σ) : Move σ → List String
  | .request unit _ => [unit]
  | .poll id =>
    match s.tasks[id]? with
    | some (.bootChain none) => [s.config.bootTarget]
    | some (.session .fresh) => s.config.foundation
    | _ => []
  | _ => []

/-- The units that moves ask for on nobody's behalf, one move after the other. -/
def allRoots [Platform σ] (s : Init σ) : List (Move σ) → List String
  | [] => []
  | m :: moves => s.roots m ++ allRoots (s.perform m) moves

/-- Every unit that was entered is needed, and its dependencies are entered as soon as its start has
gone on. -/
structure Serves (roots : List String) (s : Init σ) : Prop where
  cycles : s.cycles = cycleTable s.graph.findCycles
  id_lt : ∀ (id : TaskId) t, s.tasks[id]? = some t → id < s.nextTask
  needed : ∀ unit, s.Entered unit → Needed s.graph roots unit
  starts : ∀ id unit, s.Starts id unit → s.Entered unit ∧ ¬ Cyclic s.graph.successors unit
  begun : ∀ unit u, Begun s.journal unit → s.graph.get? unit = some u →
    ∀ d ∈ u.dependencies, s.Entered d
  waiting : ∀ (id : TaskId) unit chain phase, s.tasks[id]? = some (.start unit chain phase) →
    phase ≠ .fresh → ∀ u, s.graph.get? unit = some u → ∀ d ∈ u.dependencies, s.Entered d
  served : ∀ unit u, s.Entered unit → s.graph.get? unit = some u →
    ¬ Cyclic s.graph.successors unit →
    (∃ (id : TaskId) (chain : List String), s.tasks[id]? = some (.start unit chain .fresh)) ∨
      ∀ d ∈ u.dependencies, s.Entered d

theorem accepted_iff (hcycles : s.cycles = cycleTable s.graph.findCycles)
    (hrunning : s.stopping = false) {chain : List String} : s.rejection? unit chain = none ↔
      (∃ u, s.graph.get? unit = some u) ∧ ¬ Cyclic s.graph.successors unit := by
  have hacyclic : (cycleTable s.graph.findCycles)[unit]? = none ↔
      ¬ Cyclic s.graph.successors unit := by
    rw [Graph.cyclic_iff]
    constructor
    · rintro hnone ⟨members, hmem, hunit⟩
      exact cycleTable_eq_none hnone members hmem hunit
    · intro hnone
      refine Option.eq_none_iff_forall_ne_some.mpr fun members hmembers => ?_
      obtain ⟨hmem, hunit⟩ := mem_of_cycleTable hmembers
      exact hnone ⟨members, hmem, hunit⟩
  rw [rejection?, hrunning, ← hacyclic, ← hcycles]
  cases s.graph.get? unit with
  | none => simp
  | some u => simp

variable [Platform σ] {rootUnits : List String}

/-! ## Steps -/

omit [Platform σ] in
theorem mark_opening {signal : Signal} {t : Task} (h : (mark signal t).IsOpening) :
    mark signal t = t := by
  revert h
  unfold mark
  split
  · exact False.elim
  · exact False.elim
  · exact False.elim
  · exact fun _ => rfl

/-- While a task is polled nobody else comes to ask for units. -/
structure AsksAlone (s : Init σ) (m : Move σ) (t : Init σ) : Prop where
  config : t.config = s.config
  opening : ∀ (id : TaskId) (task : Task), m = .poll id → t.tasks[id]? = some task →
    task.IsOpening → s.tasks[id]? = some task

theorem AsksAlone.step (h : s.AsksAlone m t) (hstep : Step m t t') : s.AsksAlone m t' where
  config := hstep.continues.config.trans h.config
  opening id task hm ht' hopening := by
    refine h.opening id task hm ?_ hopening
    cases hstep.arrives ht' with
    | stayed ht => exact ht
    | marked ht => rw [ht, mark_opening hopening]
    | added _ _ hadds =>
      subst hm
      cases task with
      | watchNetworkManager => exact hopening.elim
      | _ => exact hadds.elim
    | proceeded _ _ hproceeds => cases hproceeds <;> exact hopening.elim
    | started => exact hopening.elim
    | turned _ hturns =>
      rcases hturns.task ht' with ⟨ticket, rfl⟩ | ⟨state, deadline, next, rfl⟩
      · exact hopening.elim
      · exact hopening.elim

omit [Platform σ] in
/-- Who asks in a move does so for a root of the move, or is the start of a dependent. -/
theorem AsksAlone.wants (hasks : s.AsksAlone m t) {chain : List String}
    (hwants : t.Wants m unit chain) :
    unit ∈ s.roots m ∧ (chain = [] ∨ m = .request unit chain) ∨
      ∃ id v chain', m = .poll id ∧ t.tasks[id]? = some (.start v chain' .fresh) ∧
        t.graph.Depends v unit ∧ chain = v :: chain' := by
  cases hwants with
  | outside => exact .inl ⟨List.mem_cons_self, .inr rfl⟩
  | dependency ht hu hd => exact .inr ⟨_, _, _, rfl, ht, ⟨_, hu, hd⟩, rfl⟩
  | target ht =>
    refine .inl ⟨?_, .inl rfl⟩
    rw [roots, hasks.opening _ _ rfl ht trivial, hasks.config]
    exact List.mem_cons_self
  | foundation ht hunit =>
    refine .inl ⟨?_, .inl rfl⟩
    rw [roots, hasks.opening _ _ rfl ht trivial]
    exact hasks.config ▸ hunit

namespace Serves

omit [Platform σ] in
theorem wants (h : Serves rootUnits t) (hasks : s.AsksAlone m t)
    (hroots : ∀ unit ∈ s.roots m, unit ∈ rootUnits) {chain : List String}
    (hwants : t.Wants m unit chain) : Needed t.graph rootUnits unit := by
  rcases hasks.wants hwants with ⟨hunit, -⟩ | ⟨id, v, chain', -, ht, ⟨u, hu, hd⟩, -⟩
  · exact .root (hroots unit hunit)
  · obtain ⟨hentered, hacyclic⟩ := h.starts _ _ ⟨_, _, ht⟩
    exact .dependency (h.needed _ hentered) hu hacyclic hd

theorem step (h : Serves rootUnits t) (hstep : Step m t t') (hrunning : t.stopping = false)
    (hwants : ∀ unit chain, t.Wants m unit chain → Needed t.graph rootUnits unit) :
    Serves rootUnits t' := by
  have hgraph := hstep.continues.graph
  have hcycles : t'.cycles = cycleTable t'.graph.findCycles := by
    rw [hgraph, hstep.continues.cycles, h.cycles]
  have hbegun : ∀ unit u, Begun t'.journal unit → t'.graph.get? unit = some u →
      ∀ d ∈ u.dependencies, t'.Entered d := by
    intro unit u hunit hu d hd
    rw [hgraph] at hu
    rcases hstep.gains.begun hunit with hold | hnew
    · exact hstep.entered (h.begun unit u hold hu d hd)
    · cases hnew with
      | begin ht => exact hstep.entered (h.waiting _ unit _ _ ht nofun u hu d hd)
      | mute he | final he | rescue _ he | turn _ _ he => exact he.elim
  have hwaiting : ∀ (id : TaskId) unit chain phase,
      t'.tasks[id]? = some (.start unit chain phase) → phase ≠ .fresh →
        ∀ u, t'.graph.get? unit = some u → ∀ d ∈ u.dependencies, t'.Entered d := by
    intro id unit chain phase ht' hphase u hu d hd
    rw [hgraph] at hu
    refine hstep.entered ?_
    rcases hstep.start_arrives ht' with ⟨phase₀, ht, rfl | hproceeds⟩ | ⟨hfresh, -⟩
    · exact h.waiting id unit chain phase₀ ht hphase u hu d hd
    · cases hproceeds with
      | waits hu' hunits hentered =>
        cases hu.symm.trans hu'
        have hmem : d ∈ u.dependencies.toList := ExtTreeSet.mem_toList.mpr hd
        rw [← hunits] at hmem
        obtain ⟨handle, hhandle, rfl⟩ := List.mem_map.mp hmem
        exact hentered handle hhandle
      | passes => exact h.waiting id unit chain _ ht nofun u hu d hd
      | acts hbegun => exact h.begun unit u hbegun hu d hd
    · exact absurd hfresh hphase
  refine {
    cycles := hcycles, id_lt := hstep.id_lt h.id_lt, begun := hbegun, waiting := hwaiting
    needed := ?needed, starts := ?starts, served := ?served }
  case needed =>
    intro unit hunit
    rw [hgraph]
    rcases hstep.enters hunit with hold | ⟨-, chain, hwanted, -⟩
    · exact h.needed unit hold
    · exact hwants unit chain hwanted
  case starts =>
    rintro id unit ⟨chain, phase, ht'⟩
    rw [hgraph]
    rcases hstep.start_arrives ht' with ⟨phase₀, ht, -⟩ | ⟨-, -, -, haccepted, hentered, -⟩
    · obtain ⟨hentered, hacyclic⟩ := h.starts id unit ⟨chain, phase₀, ht⟩
      exact ⟨hstep.entered hentered, hacyclic⟩
    · exact ⟨hentered, ((accepted_iff h.cycles hrunning).mp haccepted).2⟩
  case served =>
    intro unit u hunit hu hacyclic
    have hu₀ : t.graph.get? unit = some u := hgraph ▸ hu
    have hacyclic₀ : ¬ Cyclic t.graph.successors unit := hgraph ▸ hacyclic
    rcases hstep.enters hunit with hold | ⟨hnew, chain, -, rfl⟩
    · rcases h.served unit u hold hu₀ hacyclic₀ with ⟨id, chain, ht⟩ | hserved
      · rcases hstep.start_stays (h.id_lt id _ ht) ht with hgone | ⟨phase, ht'⟩
        · -- A start that has not gone on ends only if its action has begun.
          cases hstep.departs ht hgone with
          | left hleaves => cases hleaves
          | refused hrefused => cases hrefused
          | finished hbegun =>
            exact .inr fun d hd => hstep.entered (h.begun unit u hbegun hu₀ d hd)
          | turned _ hturns =>
            obtain ⟨task, htask, hother⟩ := hturns.there
            exact absurd (Option.some.inj (htask.symm.trans ht)) (hother _ _ _)
        · by_cases hphase : phase = .fresh
          · exact .inl ⟨id, chain, hphase ▸ ht'⟩
          · exact .inr (hwaiting id unit chain phase ht' hphase u hu)
      · exact .inr fun d hd => hstep.entered (hserved d hd)
    · have haccepted : t.rejection? unit chain = none :=
        (accepted_iff h.cycles hrunning).mpr ⟨⟨u, hu₀⟩, hacyclic₀⟩
      rcases t.request_cases unit chain with ⟨hold, -⟩ | ⟨-, e, hrejected, -⟩ | ⟨-, -, heq⟩
      · exact absurd hold hnew
      · cases haccepted.symm.trans hrejected
      · rw [heq]
        exact .inl ⟨t.nextTask, chain, (tasks_takenUp t.nextTask).trans (if_pos rfl)⟩

theorem steps (h : Serves rootUnits s) (hroots : ∀ unit ∈ s.roots m, unit ∈ rootUnits)
    (hsteps : Steps m s t) (hrunning : t.stopping = false) : Serves rootUnits t := by
  have hasks : s.AsksAlone m t ∧ (t.stopping = false → Serves rootUnits t) := by
    clear hrunning
    induction hsteps with
    | refl => exact ⟨⟨rfl, fun _ _ _ ht _ => ht⟩, fun _ => h⟩
    | tail _ hstep ih =>
      refine ⟨ih.1.step hstep, fun hrunning => ?_⟩
      have hbefore := Bool.eq_false_iff.mpr fun hstopping => by
        cases (hstep.continues.stopping hstopping).symm.trans hrunning
      have hserves := ih.2 hbefore
      exact hserves.step hstep hbefore fun unit chain => hserves.wants ih.1 hroots
  exact hasks.2 hrunning

end Serves

/-! ## Runs -/

theorem Leads.serves (hs : Leads s₀ .idle s) (h : Serves rootUnits s) {moves : List (Move σ)}
    (hroots : ∀ unit ∈ s.allRoots moves, unit ∈ rootUnits)
    (hrunning : (s.run moves).stopping = false) : Serves rootUnits (s.run moves) := by
  induction moves generalizing s with
  | nil => exact h
  | cons m moves ih =>
    have hmoved := hs.perform m
    have hbefore : (s.perform m).stopping = false :=
      (hmoved.restart.reaches ⟨moves, rfl⟩).later.running hrunning
    refine ih hmoved (h.steps (fun unit hunit => ?_) (hs.steps m) hbefore) (fun unit hunit => ?_)
      hrunning
    · exact hroots unit (List.mem_append_left _ hunit)
    · exact hroots unit (List.mem_append_right _ hunit)

omit [Platform σ] in
theorem Leads.poll_opening {task : Task} (hs : Leads s₀ .idle s) (ht : s.tasks[id]? = some task)
    (hopening : task.IsOpening) : Leads (s.unqueue id) (.other id) (s.unqueue id) := by
  have hother : ∀ unit, ¬ s.Starts id unit := by
    rintro unit ⟨chain, phase, ht'⟩
    cases ht.symm.trans ht'
    exact hopening
  have hfits : Focus.Fits s (.other id) := ⟨hs.workflow.id_lt id task ht, hother⟩
  exact (hs.unqueue (fun _ _ _ _ => .inl rfl) hfits).restart

/-- A root is entered by the move that asks for it. -/
theorem Leads.enters_roots (hs : Leads s₀ .idle s) (m : Move σ) :
    ∀ unit ∈ s.roots m, (s.perform m).Entered unit := by
  intro unit hunit
  cases m with
  | request unit' chain =>
    obtain rfl := List.mem_singleton.mp hunit
    obtain ⟨hhandle, hgiven⟩ := s.request_handle unit chain
    have hentered := (hs.request unit chain).ledger.entered hgiven
    rw [hhandle] at hentered
    exact hentered
  | poll id =>
    rw [roots] at hunit
    split at hunit
    next ht =>
      obtain rfl := List.mem_singleton.mp hunit
      have hrequested := (hs.poll_opening ht trivial).request s.config.bootTarget []
      obtain ⟨hhandle, hgiven⟩ := (s.unqueue id).request_handle s.config.bootTarget []
      have hentered := hrequested.ledger.entered hgiven
      rw [hhandle] at hentered
      have hpolled : s.perform (.poll id) = (s.unqueue id).pollBootChain id none := by
        change (s.unqueue id).poll id = _
        have ht' : (s.unqueue id).tasks[id]? = some (.bootChain none) := ht
        rw [poll, ht']
        rfl
      rw [hpolled]
      exact hentered.later (hrequested.restart.awaitBootTarget hgiven).later
    next ht =>
      obtain ⟨hrequested, hunits, hgiven⟩ :=
        (hs.poll_opening ht trivial).requestAll [] s.config.foundation
      rw [← hunits] at hunit
      obtain ⟨handle, hhandle, rfl⟩ := List.mem_map.mp hunit
      have hentered := hrequested.ledger.entered (hgiven handle hhandle)
      have hpolled : s.perform (.poll id) = (s.unqueue id).pollSession id .fresh := by
        change (s.unqueue id).poll id = _
        have ht' : (s.unqueue id).tasks[id]? = some (.session .fresh) := ht
        rw [poll, ht']
        rfl
      rw [hpolled]
      exact hentered.later (hrequested.restart.awaitFoundation patience _ hgiven).later
    next => cases hunit
  | _ => cases hunit

theorem Leads.enters_allRoots (hs : Leads s₀ .idle s) (moves : List (Move σ)) :
    ∀ unit ∈ s.allRoots moves, (s.run moves).Entered unit := by
  induction moves generalizing s with
  | nil => exact nofun
  | cons m moves ih =>
    intro unit hunit
    have hmoved := hs.perform m
    rcases List.mem_append.mp hunit with hunit | hunit
    · exact (hs.enters_roots m unit hunit).later (hmoved.restart.reaches ⟨moves, rfl⟩).later
    · exact ih hmoved unit hunit

/-- What holds of the units that were entered, given the roots. -/
structure LazyAndComplete (graph : Graph) (rootUnits : List String) (s : Init σ) : Prop where
  entered : ∀ unit, s.Entered unit → Needed graph rootUnits unit
  begun : ∀ unit, Begun s.journal unit → Needed graph rootUnits unit
  complete : (∀ unit, s.Entered unit → s.outcome? unit ≠ none) →
    ∀ unit, s.Entered unit ↔ Needed graph rootUnits unit

section

variable {config : Config} {graph : Graph} {machine : σ} {notices : List Notice}

omit [Platform σ] in
theorem serves_fresh (rootUnits : List String) :
    Serves rootUnits (fresh config graph machine notices) := by
  have htasks (id : TaskId) : (fresh config graph machine notices).tasks[id]? = none := by
    simp [fresh, Init.new]
  have hnone (unit : String) : ¬ (fresh config graph machine notices).Entered unit := by
    rintro ⟨channel, hchannel⟩
    simp [fresh, Init.new] at hchannel
  have hledger := ledger_fresh config graph machine notices
  exact {
    cycles := hledger.cycles
    id_lt := fun id t ht => by cases (htasks id).symm.trans ht
    needed := fun unit h => absurd h (hnone unit)
    starts := by
      rintro id unit ⟨chain, phase, ht⟩
      cases (htasks id).symm.trans ht
    begun := fun unit u hbegun => absurd (hledger.begun unit hbegun).1 (hnone unit)
    waiting := fun id unit chain phase ht => by cases (htasks id).symm.trans ht
    served := fun unit u h => absurd h (hnone unit) }

/-- In every run without a shutdown, no unit is entered and no action begins but of units that are
needed for the roots of the run. When all units that were entered have their outcomes, all that are
needed were entered. -/
theorem requests_lazy_and_complete (moves : List (Move σ))
    (hrunning : ((fresh config graph machine notices).run moves).stopping = false) :
    LazyAndComplete graph ((fresh config graph machine notices).allRoots moves)
      ((fresh config graph machine notices).run moves) := by
  have hleads := leads_fresh config graph machine notices
  have hleads' := hleads.reaches ⟨moves, rfl⟩
  have hserves := hleads.serves (serves_fresh _) (fun _ h => h) hrunning
  have hgraph : ((fresh config graph machine notices).run moves).graph = graph :=
    hleads'.later.graph
  have hneeded := hserves.needed
  rw [hgraph] at hneeded
  refine ⟨hneeded, fun unit hbegun => ?_, fun hresolved unit => ⟨hneeded unit, fun h => ?_⟩⟩
  · exact hneeded unit (hleads'.ledger.begun unit hbegun).1
  · refine h.of_closed (hleads.enters_allRoots moves) fun unit u hunit hu hacyclic => ?_
    rw [← hgraph] at hu hacyclic
    refine (hserves.served unit u hunit hu hacyclic).resolve_left ?_
    -- A start that has not gone on is unresolved.
    rintro ⟨id, chain, ht⟩
    exact hresolved unit hunit (hleads'.workflow.pending id unit ⟨chain, _, ht⟩).unresolved

end

/-! ## A unit that fails early -/

/-- A unit with a missing dependency and one that comes after it. -/
def earlyGraph : Graph where
  disk := (∅ : ExtTreeMap String UnitDef).insert "a" { dependencies := .ofList ["b", "c"] }
    |>.insert "c" { start := .command "/sbin/c" } |>.insert "d" {}

def earlyMoves : List (Move Simulation.Script) :=
  [.request "a" [], .poll 0, .poll 1, .pass 100, .ring, .poll 1]

theorem early_failure_complete :
    ((fresh {} earlyGraph ({} : Simulation.Script) []).run earlyMoves).stopping = false ∧
      LazyAndComplete earlyGraph
        ((fresh {} earlyGraph ({} : Simulation.Script) []).allRoots earlyMoves)
        ((fresh {} earlyGraph ({} : Simulation.Script) []).run earlyMoves) ∧
      (fresh {} earlyGraph ({} : Simulation.Script) []).allRoots earlyMoves = ["a"] ∧
      ((fresh {} earlyGraph ({} : Simulation.Script) []).run earlyMoves).outcome? "a" =
        some (.error (.dependency "a" "b" (StartError.notFound "b" ["a"]).text)) ∧
      ((fresh {} earlyGraph ({} : Simulation.Script) []).run earlyMoves).outcome? "c" =
        some (.ok ()) := by
  have hrunning :
      ((fresh {} earlyGraph ({} : Simulation.Script) []).run earlyMoves).stopping = false := by
    decide +kernel
  refine ⟨hrunning, requests_lazy_and_complete earlyMoves hrunning, ?_⟩
  decide +kernel

end Init

end InitDaemon
