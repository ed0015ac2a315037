import InitDaemon.Proofs.Init.Runs
import InitDaemon.Proofs.Units.Acyclic

/-!
# No deadlock among units

Units that wait for each other without end would lie on a cycle, and those are turned down. So
while a unit that was asked for is unresolved, some start is not waiting for another unit.
-/

namespace InitDaemon.Init

open Std InitDaemon.Units InitDaemon.Journal

variable {σ : Type} {s : Init σ} {unit : String}

/-- A start task that waits for no other unit's outcome: it stands in line, or sleeps through the
settle delay, or waits for a process of its own. -/
def CanGoOn (s : Init σ) (id : TaskId) : StartPhase → Prop
  | .fresh | .started _ | .awaiting [] => s.Runnable id
  | .awaiting (h :: _) => (s.readiness.wait? h).isSome ∧ s.Runnable id
  | .settling deadline => ⟨deadline, id⟩ ∈ s.alarms ∨ deadline ≤ s.now ∧ s.Runnable id
  | .makingMachineId ticket | .startingBus ticket =>
    s.Live ticket ∧ (ticket ∈ s.settled → s.Runnable id)

def SomeStartGoesOn (s : Init σ) : Prop :=
  ∃ (id : TaskId) (unit : String) (chain : List String) (phase : StartPhase),
    s.tasks[id]? = some (.start unit chain phase) ∧ s.outcome? unit = none ∧ s.CanGoOn id phase

theorem canGoOn {id : TaskId} {phase : StartPhase} (hstage : s.Stage unit phase)
    (hawake : s.Awake id phase) (hwait : ∀ h hs, phase = .awaiting (h :: hs) →
      (s.readiness.wait? h).isSome ∧ s.Runnable id) : s.CanGoOn id phase := by
  cases phase with
  | fresh => exact hawake
  | started => exact hawake
  | awaiting hs =>
    cases hs with
    | nil => exact hawake.elim
    | cons h hs => exact hwait h hs rfl
  | settling => exact hawake
  | makingMachineId => exact ⟨hstage.2.2, hawake⟩
  | startingBus => exact ⟨hstage.2.2, hawake⟩

/-- The unit that a start waits for is a successor on no cycle. -/
theorem Ledger.successor (hs : s.Ledger) {v : String} (hpending : s.Pending v) {u : UnitDef}
    (hu : s.graph.get? unit = some u) (hv : v ∈ u.dependencies) :
    v ∈ s.graph.successors unit ∧ ¬ Cyclic s.graph.successors v := by
  obtain ⟨-, -, ⟨w, hw⟩, hcycles⟩ := hpending
  refine ⟨Graph.mem_successors.mpr ⟨u, hu, hv, ?_⟩, hs.acyclic hcycles⟩
  rw [Graph.contains, hw]
  rfl

theorem Workflow.someStartGoesOn (hs : s.Workflow .idle) (hledger : s.Ledger) (unit : String)
    (hacyclic : ¬ Cyclic s.graph.successors unit) (hentered : s.Entered unit)
    (hunresolved : s.outcome? unit = none) : s.SomeStartGoesOn := by
  refine acyclic_induction (P := fun unit => s.Entered unit → s.outcome? unit = none →
    s.SomeStartGoesOn) Graph.successors_mem_names ?_ unit hacyclic hentered hunresolved
  intro unit _ ih hentered hunresolved
  obtain ⟨id, chain, phase, ht⟩ := hs.exists_start unit hentered hunresolved
  obtain ⟨hstage, hawake⟩ := hs.phase id unit chain phase ht (by simp [Focus.task?])
  by_cases hwaits : ∃ h rest, phase = .awaiting (h :: rest) ∧ s.outcome? h.unit = none
  · obtain ⟨h, rest, rfl, hnone⟩ := hwaits
    obtain ⟨-, u, before, hu, hsplit, -⟩ := hstage
    have hrequested := hs.handles id _ ht h List.mem_cons_self
    have hmem : h.unit ∈ u.dependencies := by
      rw [← ExtTreeSet.mem_toList, hsplit, List.map_cons]
      exact List.mem_append_right before List.mem_cons_self
    obtain ⟨id', hstarts⟩ := hs.exists_start h.unit (hledger.entered hrequested) hnone
    obtain ⟨hedge, hacyclic⟩ := hledger.successor (hs.pending id' h.unit hstarts) hu hmem
    exact ih h.unit hedge hacyclic (hledger.entered hrequested) hnone
  · refine ⟨id, unit, chain, phase, ht, hunresolved, canGoOn hstage hawake fun h rest heq => ?_⟩
    subst heq
    have hsome : s.outcome? h.unit ≠ none := fun hnone => hwaits ⟨h, rest, rfl, hnone⟩
    refine ⟨?_, hawake hsome⟩
    rw [hledger.wait? (hs.handles id _ ht h List.mem_cons_self)]
    exact Option.isSome_iff_ne_none.mpr hsome

variable [Platform σ] {config : Config} {graph : Graph} {machine : σ} {notices : List Notice}
  {h : Handle}

/-- In every state of every run, if a unit that was asked for is unresolved, then the start of some
unresolved unit is not waiting for another unit. -/
theorem unresolved_start_goes_on (hs : (fresh config graph machine notices).Reaches s)
    (hrequested : Requested s.journal h) (hpending : s.readiness.outcome? h = none) :
    s.SomeStartGoesOn := by
  obtain ⟨-, hledger, hworkflow⟩ := hs.leads
  have hunresolved : s.outcome? h.unit = none := by
    rw [← hpending]
    exact (Readiness.outcome?_handle h (hledger.given h hrequested)).symm
  obtain ⟨id, hstarts⟩ :=
    hworkflow.exists_start h.unit (hledger.entered hrequested) hunresolved
  exact hworkflow.someStartGoesOn hledger h.unit
    (hledger.acyclic (hworkflow.pending id h.unit hstarts).acyclic)
    (hledger.entered hrequested) hunresolved

/-- While the first of two units waits for the second one, that one is in its settle delay. -/
theorem settling_unit_goes_on : (freshTwoUnits.run firstMoves).SomeStartGoesOn := by
  have hpending : (freshTwoUnits.run firstMoves).readiness.outcome? ⟨"a", 0⟩ = none := by
    decide +kernel
  have hreaches : freshTwoUnits.Reaches (freshTwoUnits.run firstMoves) := ⟨_, rfl⟩
  exact unresolved_start_goes_on hreaches first_unit_requested hpending

end InitDaemon.Init
