import Mathlib.Data.Nat.Basic
import Mathlib.Logic.Relation
import Mathlib.Order.Basic
import InitDaemon.Units.Cycles

/-!
# Reachability between units

An edge leads from a unit to a dependency that exists. A unit is cyclic if it reaches itself by one
or more edges, and two units that reach each other lie in one component.
-/

namespace InitDaemon.Units

open Relation

def Edge (successors : String → List String) (v w : String) : Prop :=
  w ∈ successors v

abbrev Reaches (successors : String → List String) : String → String → Prop :=
  ReflTransGen (Edge successors)

def Cyclic (successors : String → List String) (v : String) : Prop :=
  TransGen (Edge successors) v v

def Mutual (successors : String → List String) (v w : String) : Prop :=
  Reaches successors v w ∧ Reaches successors w v

/-- A strongly connected component that holds a cycle, in name order. -/
structure IsCycle (successors : String → List String) (component : List String) : Prop where
  sorted : component.Pairwise (· < ·)
  cyclic : ∀ v ∈ component, Cyclic successors v
  mem_iff : ∀ v ∈ component, ∀ w, w ∈ component ↔ Mutual successors v w

variable {successors : String → List String} {u v w : String}

theorem Mutual.symm (h : Mutual successors v w) : Mutual successors w v :=
  ⟨h.2, h.1⟩

theorem Mutual.trans (h : Mutual successors u v) (h' : Mutual successors v w) :
    Mutual successors u w :=
  ⟨h.1.trans h'.1, h'.2.trans h.2⟩

/-- A set of units that no edge leaves is left by no path either. -/
theorem Reaches.mem_of_closed {P : String → Prop} (hP : ∀ v, P v → ∀ w ∈ successors v, P w)
    (h : Reaches successors v w) (hv : P v) : P w := by
  induction h with
  | refl => exact hv
  | tail _ hedge ih => exact hP _ ih _ hedge

theorem Cyclic.of_mutual (hne : v ≠ w) (h : Mutual successors v w) : Cyclic successors v := by
  rcases reflTransGen_iff_eq_or_transGen.mp h.1 with heq | hpath
  · exact absurd heq.symm hne
  · exact hpath.trans_left h.2

theorem Cyclic.mutual (hv : Cyclic successors v) (h : Mutual successors v w) :
    Cyclic successors w :=
  (hv.trans_right h.2).trans_left h.1

/-- A cyclic unit is a successor of its own, or another unit lies in its component. -/
theorem Cyclic.exists_mutual (h : Cyclic successors v) :
    v ∈ successors v ∨ ∃ w, w ≠ v ∧ Mutual successors v w := by
  obtain ⟨w, hedge, hback⟩ := TransGen.head'_iff.mp h
  by_cases heq : w = v
  · exact .inl (heq ▸ hedge)
  · exact .inr ⟨w, heq, .single hedge, hback⟩

/-! ## Successors that agree on a closed set -/

section

variable {successors' : String → List String} {P : String → Prop} {component : List String}

theorem Reaches.congr (hclosed : ∀ v, P v → ∀ w ∈ successors v, P w)
    (heq : ∀ v, P v → successors' v = successors v) (hv : P v) (h : Reaches successors v w) :
    P w ∧ Reaches successors' v w := by
  induction h with
  | refl => exact ⟨hv, .refl⟩
  | tail _ hedge ih =>
    obtain ⟨hmid, hpath⟩ := ih
    refine ⟨hclosed _ hmid _ hedge, hpath.tail ?_⟩
    rw [Edge, heq _ hmid]
    exact hedge

theorem Cyclic.congr (hclosed : ∀ v, P v → ∀ w ∈ successors v, P w)
    (heq : ∀ v, P v → successors' v = successors v) (hv : P v) (h : Cyclic successors v) :
    Cyclic successors' v := by
  obtain ⟨w, hedge, hback⟩ := TransGen.head'_iff.mp h
  have hedge' : Edge successors' v w := by
    rw [Edge, heq v hv]
    exact hedge
  exact .head' hedge' (Reaches.congr hclosed heq (hclosed v hv w hedge) hback).2

theorem Mutual.congr (hclosed : ∀ v, P v → ∀ w ∈ successors v, P w)
    (heq : ∀ v, P v → successors' v = successors v) (hv : P v) (h : Mutual successors v w) :
    Mutual successors' v w := by
  obtain ⟨hw, hpath⟩ := Reaches.congr hclosed heq hv h.1
  exact ⟨hpath, (Reaches.congr hclosed heq hw h.2).2⟩

theorem IsCycle.congr (hclosed : ∀ v, P v → ∀ w ∈ successors v, P w)
    (heq : ∀ v, P v → successors' v = successors v) (hu : P u) (hmem : u ∈ component)
    (h : IsCycle successors component) : IsCycle successors' component := by
  have hP : ∀ v ∈ component, P v := fun v hv =>
    (Reaches.congr hclosed heq hu ((h.mem_iff u hmem v).mp hv).1).1
  have hclosed' : ∀ v, P v → ∀ w ∈ successors' v, P w := fun v hv w hw =>
    hclosed v hv w (heq v hv ▸ hw)
  refine ⟨h.sorted, fun v hv => (h.cyclic v hv).congr hclosed heq (hP v hv), fun v hv w => ?_⟩
  rw [h.mem_iff v hv w]
  exact ⟨Mutual.congr hclosed heq (hP v hv),
    Mutual.congr hclosed' (fun v hv => (heq v hv).symm) (hP v hv)⟩

end

end InitDaemon.Units
