import InitDaemon.Proofs.Init.Runs

/-!
# Dependencies first

When the own action of a unit begins, every dependency has its outcome and it is a good one, and
every dependency that is a service has been running for the settle delay.
-/

namespace InitDaemon.Init

open Std InitDaemon.Units InitDaemon.Journal

variable {σ : Type} [Platform σ] {config : Config} {graph : Graph} {machine : σ}
  {notices : List Notice} {s : Init σ}

/-- In every run, the journal has the outcomes that the readiness of the units has, and whenever an
action began, the journal up to then has all dependencies of the unit ready. -/
theorem action_begins_after_dependencies (hs : (fresh config graph machine notices).Reaches s) :
    (∀ unit, s.outcome? unit = outcomeAfter? s.journal unit) ∧
      ∀ (unit : String) (r : Record) (earlier : List Record), r :: earlier <:+ s.journal →
        r.entry = .began unit → ∃ u, graph.get? unit = some u ∧ ∀ d ∈ u.dependencies,
          Ready graph config.settleDelay earlier r.time d := by
  have hleads := hs.leads
  refine ⟨hleads.ledger.outcome, fun unit r earlier hsuffix hbegan => ?_⟩
  obtain ⟨-, u, hu, hready⟩ := hleads.ledger.orderly unit r earlier hsuffix hbegan
  have hgraph : s.graph = graph := hleads.later.graph
  have hconfig : s.config = config := hleads.later.config
  rw [hgraph] at hu
  rw [hgraph, hconfig] at hready
  exact ⟨u, hu, hready⟩

/-- The first of two units begins when the settle delay of the second one is over. -/
theorem began_after_settle_delay :
    ⟨100, .began "a"⟩ :: (freshTwoUnits.run (firstMoves ++ laterMoves)).journal.drop 4 <:+
      (freshTwoUnits.run (firstMoves ++ laterMoves)).journal :=
  ⟨(freshTwoUnits.run (firstMoves ++ laterMoves)).journal.take 3, by decide +kernel⟩

theorem second_unit_ready_in_time :
    Ready twoUnits 100 ((freshTwoUnits.run (firstMoves ++ laterMoves)).journal.drop 4) 100 "b" := by
  have hreaches : freshTwoUnits.Reaches (freshTwoUnits.run (firstMoves ++ laterMoves)) := ⟨_, rfl⟩
  have hready := (action_begins_after_dependencies hreaches).2 "a"
  obtain ⟨u, hu, hready⟩ := hready _ _ began_after_settle_delay rfl
  have hdepends : (twoUnits.get? "a").any (·.dependencies.contains "b") = true := by
    decide +kernel
  rw [hu] at hdepends
  exact hready "b" (ExtTreeSet.mem_iff_contains.mpr hdepends)

end InitDaemon.Init
