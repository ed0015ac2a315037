import InitDaemon.Proofs.Init.RequestChains
import InitDaemon.Proofs.Units.Acyclic

/-!
# Root causes

A unit that fails because of a dependency quotes the error of the dependency. Following the failures
from unit to unit ends at one with an error of its own, which the text of the first error names, also
when a shutdown has begun.
-/

namespace InitDaemon

open Relation Std InitDaemon.Units

def StartError.IsDependency : StartError → Prop
  | .dependency .. => True
  | _ => False

/-- What the units of a path say, one quoting the next, before the error of the last one. -/
def excuse (path : List String) : String :=
  String.join (List.zipWith (fun v d => v ++ ": dependency " ++ d ++ " failed: ") path path.tail)

theorem excuse_cons_cons (v d : String) (path : List String) :
    excuse (v :: d :: path) = v ++ ": dependency " ++ d ++ " failed: " ++ excuse (d :: path) := by
  rw [excuse, List.tail_cons, List.zipWith_cons_cons, String.join_cons]
  rfl

namespace Init

variable {σ : Type} {s : Init σ} {graph : Graph} {unit v w d root : String} {e cause : StartError}
  {path : List String}

/-- A unit has failed because a dependency of it has, and its error quotes the one of the dependency.
-/
def FailedBy (graph : Graph) (s : Init σ) (v d : String) : Prop :=
  graph.Depends v d ∧ ∃ e, s.outcome? d = some (.error e) ∧
    s.outcome? v = some (.error (.dependency v d e.text))

/-- Each unit of the path has failed by the next one, and the last one by itself. -/
structure RootCause (graph : Graph) (s : Init σ) (unit : String) (e : StartError)
    (path : List String) (root : String) (cause : StartError) : Prop where
  head : path.head? = some unit
  last : path.getLast? = some root
  failed : List.IsChain (FailedBy graph s) path
  nodup : path.Nodup
  outcome : s.outcome? root = some (.error cause)
  own : ¬ cause.IsDependency
  text : e.text = excuse path ++ cause.text

namespace Ledger

/-- A unit that quotes another one's error lies on no cycle. -/
theorem quotes (hs : s.Ledger) (ho : s.outcome? unit = some (.error e)) (he : e.IsDependency) :
    ¬ Cyclic s.graph.successors unit ∧ ∃ d e', s.outcome? d = some (.error e') ∧
      e = .dependency unit d e'.text ∧ FailedBy s.graph s unit d := by
  cases e with
  | dependency v d reason =>
    obtain ⟨rfl, hblames⟩ := (hs.justified unit _ ho).blames v d reason rfl
    obtain ⟨e', he', rfl⟩ := hblames.failed
    exact ⟨hblames.acyclic, d, e', he', rfl, hblames.depends, e', he', ho⟩
  | _ => exact he.elim

theorem acyclic_of_failedBy (hs : s.Ledger) (h : FailedBy s.graph s v d) :
    ¬ Cyclic s.graph.successors v := by
  obtain ⟨-, e, -, ho⟩ := h
  exact (hs.quotes ho trivial).1

end Ledger

namespace FailedBy

theorem contains (h : FailedBy graph s v d) : graph.contains v = true := by
  obtain ⟨⟨u, hu, -⟩, -⟩ := h
  rw [Graph.contains, hu]
  rfl

theorem edge (h : FailedBy graph s v d) (hd : graph.contains d = true) :
    d ∈ graph.successors v := by
  obtain ⟨⟨u, hu, hmem⟩, -⟩ := h
  exact Graph.mem_successors.mpr ⟨u, hu, hmem, hd⟩

/-- All units on the way exist but perhaps the last one. -/
theorem reaches (h : TransGen (FailedBy graph s) v w) (hw : graph.contains w = true) :
    TransGen (Edge graph.successors) v w := by
  induction h with
  | single h => exact .single (h.edge hw)
  | tail _ h ih => exact (ih h.contains).tail (h.edge hw)

end FailedBy

/-- Failures do not go round in a circle. -/
theorem Ledger.nodup_of_failedBy (hs : s.Ledger) (h : List.IsChain (FailedBy s.graph s) path) :
    path.Nodup := by
  have hpairwise : path.Pairwise (TransGen (FailedBy s.graph s)) :=
    (h.imp fun _ _ => TransGen.single).pairwise
  refine hpairwise.imp ?_
  rintro v w hfailed rfl
  obtain ⟨d, hfirst, -⟩ := TransGen.head'_iff.mp hfailed
  exact hs.acyclic_of_failedBy hfirst (FailedBy.reaches hfailed hfirst.contains)

namespace RootCause

theorem itself (ho : s.outcome? unit = some (.error e)) (hown : ¬ e.IsDependency) :
    RootCause graph s unit e [unit] unit e where
  head := rfl
  last := rfl
  failed := .singleton unit
  nodup := List.pairwise_singleton _ _
  outcome := ho
  own := hown
  text := by
    rw [excuse, List.tail_cons, List.zipWith_nil_right, String.join_nil, String.empty_append]

theorem cons (h : RootCause s.graph s d e path root cause) (hs : s.Ledger)
    (hfailed : FailedBy s.graph s unit d) :
    RootCause s.graph s unit (.dependency unit d e.text) (unit :: path) root cause := by
  obtain ⟨rest, rfl⟩ := List.head?_eq_some_iff.mp h.head
  have hchain : List.IsChain (FailedBy s.graph s) (unit :: d :: rest) := .cons_cons hfailed h.failed
  constructor
  case head => rfl
  case last => rw [List.getLast?_cons_cons, h.last]
  case failed => exact hchain
  case nodup => exact hs.nodup_of_failedBy hchain
  case outcome => exact h.outcome
  case own => exact h.own
  case text =>
    have hquotes : (StartError.dependency unit d e.text).text =
        unit ++ ": dependency " ++ d ++ " failed: " ++ e.text := rfl
    rw [hquotes, h.text, excuse_cons_cons]
    exact String.append_assoc.symm

end RootCause

theorem Ledger.rootCause (hs : s.Ledger) (ho : s.outcome? unit = some (.error e)) :
    ∃ path root cause, RootCause s.graph s unit e path root cause := by
  -- On units that lie on no cycle, since the others have errors of their own.
  have hacyclic : ∀ v, ¬ Cyclic s.graph.successors v → ∀ e, s.outcome? v = some (.error e) →
      ∃ path root cause, RootCause s.graph s v e path root cause := by
    refine acyclic_induction Graph.successors_mem_names ?_
    intro v _ ih e ho
    by_cases hquotes : e.IsDependency
    · obtain ⟨-, d, e, he, rfl, hfailed⟩ := hs.quotes ho hquotes
      have hcause : ∃ path root cause, RootCause s.graph s d e path root cause := by
        by_cases hnext : e.IsDependency
        · obtain ⟨hd, d', -, -, -, hfailed'⟩ := hs.quotes he hnext
          exact ih d (hfailed.edge hfailed'.contains) hd e he
        · exact ⟨_, _, _, .itself he hnext⟩
      obtain ⟨path, root, cause, hcause⟩ := hcause
      exact ⟨_, _, _, hcause.cons hs hfailed⟩
    · exact ⟨_, _, _, .itself ho hquotes⟩
  by_cases hquotes : e.IsDependency
  · exact hacyclic unit (hs.quotes ho hquotes).1 e ho
  · exact ⟨_, _, _, .itself ho hquotes⟩

variable [Platform σ] {config : Config} {machine : σ} {notices : List Notice}

/-- In every run, whether it shuts down or not, the failure of a unit comes down a path of failed
dependencies from one that failed by itself, and its text says so. -/
theorem error_names_root_cause (hs : (fresh config graph machine notices).Reaches s)
    (ho : s.outcome? unit = some (.error e)) :
    ∃ path root cause, RootCause graph s unit e path root cause := by
  have hgraph : s.graph = graph := hs.leads.later.graph
  rw [← hgraph]
  exact hs.leads.ledger.rootCause ho

theorem broken_run_names_missing_unit : ∃ s e,
    (fresh {} brokenGraph ({} : Simulation.Script) []).Reaches s ∧
      s.outcome? "a" = some (.error e) ∧
      e.text = "a: dependency b failed: b: dependency c failed: Unit c not found b,a" ∧
      ∃ path root cause, RootCause brokenGraph s "a" e path root cause := by
  have hreaches : (fresh {} brokenGraph ({} : Simulation.Script) []).Reaches
      ((fresh {} brokenGraph {} []).run (brokenRun ++ [.poll 0])) := ⟨_, rfl⟩
  have ho : ((fresh {} brokenGraph ({} : Simulation.Script) []).run (brokenRun ++ [.poll 0])).outcome?
      "a" = some (.error (.dependency "a" "b" "b: dependency c failed: Unit c not found b,a")) := by
    decide +kernel
  exact ⟨_, _, hreaches, ho, by decide, error_names_root_cause hreaches ho⟩

end Init

end InitDaemon
