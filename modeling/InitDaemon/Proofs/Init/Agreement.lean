import InitDaemon.Proofs.Init.Runs

/-!
# The order of starts does not matter

As long as nothing shuts down, a unit has the outcome that follows from its part of the graph and
from the results of own actions. So two runs agree on it, whatever else they do and in whatever
order.
-/

namespace InitDaemon.Init

open Relation Std InitDaemon.Units InitDaemon.Journal

variable {σ τ : Type} {config config' : Config} {graph graph' : Graph} {machine : σ} {machine' : τ}
  {notices notices' : List Notice} {s : Init σ} {s' : Init τ}

/-- The own actions on which the outcome of a unit can depend had the same results in both journals,
if they have ended. -/
def SameResults (graph : Graph) (journal journal' : List Record) (unit : String) : Prop :=
  ∀ v, ReflTransGen graph.Depends unit v → ∀ o o', Acted journal v o → Acted journal' v o' → o = o'

variable [Platform σ] [Platform τ]

theorem Reaches.decides (hs : (fresh config graph machine notices).Reaches s)
    (hrunning : s.stopping = false) {unit : String} {o : Outcome}
    (ho : s.outcome? unit = some o) : Decides graph (Acted s.journal) unit o := by
  have hgraph : s.graph = graph := hs.leads.later.graph
  rw [← hgraph]
  exact (hs.leads.ledger.justified unit o ho).decided hrunning

/-- In a run without a shutdown the outcomes are the verdicts, and the result of an own action is
the unit's outcome. Another such run agrees on the outcome of a unit if its graph is the same below
that unit and the own actions there have the same results. -/
theorem outcomes_agree (hs : (fresh config graph machine notices).Reaches s)
    (hrunning : s.stopping = false) (hs' : (fresh config' graph' machine' notices').Reaches s')
    (hrunning' : s'.stopping = false) :
    (∀ unit o, s.outcome? unit = some o → Decides graph (Acted s.journal) unit o) ∧
      (∀ unit o, Acted s.journal unit o → s.outcome? unit = some o) ∧
      ∀ unit, SameBelow graph graph' unit → SameResults graph s.journal s'.journal unit →
        ∀ o o', s.outcome? unit = some o → s'.outcome? unit = some o' → o.Alike o' := by
  refine ⟨fun unit o => hs.decides hrunning, hs.leads.ledger.acted, ?_⟩
  intro unit hsame hresults o o' ho ho'
  exact (hs.decides hrunning ho).alike (hs'.decides hrunning' ho') hsame hresults

/-! ## A larger graph in another order -/

/-- Besides the two units, one that depends on a missing one. -/
def threeUnits : Graph :=
  { disk := twoUnits.disk.insert "c" { dependencies := .ofList ["d"] } }

def otherMoves : List (Move Simulation.Script) :=
  [.request "c" [], .poll 0, .request "b" [], .poll 1, .pass 100, .ring, .poll 1, .request "a" [],
    .poll 2]

def otherRun : Init Simulation.Script :=
  (fresh {} threeUnits {} []).run otherMoves

theorem sameBelow_threeUnits : SameBelow twoUnits threeUnits "a" := by
  refine .of_ne "c" ?_ (by decide) ?_
  · rintro v ⟨u, hu, hmem⟩
    simp only [Graph.get?, twoUnits, ExtTreeMap.getElem?_insert] at hu
    split at hu
    · have heq : { start := .command "/sbin/b" } = u := by simpa using hu
      simp [← heq] at hmem
    · have heq : "a" = v ∧ { dependencies := .ofList ["b"] } = u := by simpa using hu
      simp [← heq.2] at hmem
  · intro v hne
    simp [Graph.get?, threeUnits, twoUnits, ExtTreeMap.getElem?_insert, hne.symm]

theorem sameResults_otherRun : SameResults twoUnits
    (freshTwoUnits.run (firstMoves ++ laterMoves)).journal otherRun.journal "a" := by
  have hresults : ownResults (freshTwoUnits.run (firstMoves ++ laterMoves)).journal =
      [("a", .ok ()), ("b", .ok ())] := by
    decide +kernel
  have hresults' : ownResults otherRun.journal = [("a", .ok ()), ("b", .ok ())] := by
    decide +kernel
  intro v _ o o' ho ho'
  rw [acted_iff_mem_ownResults, hresults] at ho
  rw [acted_iff_mem_ownResults, hresults'] at ho'
  simp only [List.mem_cons, Prod.mk.injEq, List.not_mem_nil, or_false] at ho ho'
  rw [ho.elim And.right And.right, ho'.elim And.right And.right]

theorem other_order_agrees : ∃ o o',
    (freshTwoUnits.run (firstMoves ++ laterMoves)).outcome? "a" = some o ∧
      otherRun.outcome? "a" = some o' ∧ o.Alike o' := by
  have hreaches : freshTwoUnits.Reaches (freshTwoUnits.run (firstMoves ++ laterMoves)) := ⟨_, rfl⟩
  have hreaches' : (fresh {} threeUnits {} []).Reaches otherRun := ⟨otherMoves, rfl⟩
  have hrunning : (freshTwoUnits.run (firstMoves ++ laterMoves)).stopping = false := by
    decide +kernel
  have hrunning' : otherRun.stopping = false := by
    decide +kernel
  have ho : (freshTwoUnits.run (firstMoves ++ laterMoves)).outcome? "a" = some (.ok ()) := by
    decide +kernel
  have ho' : otherRun.outcome? "a" = some (.ok ()) := by
    decide +kernel
  have hagree := (outcomes_agree hreaches hrunning hreaches' hrunning').2.2 "a"
  exact ⟨_, _, ho, ho', hagree sameBelow_threeUnits sameResults_otherRun _ _ ho ho'⟩

end InitDaemon.Init
