import Mathlib.Data.Set.Finite.Basic
import InitDaemon.Proofs.Units.Reachability

/-!
# Induction over units that lie on no cycle

There are finitely many units, so a path through units that lie on no cycle ends.
-/

namespace InitDaemon.Units

open Relation

variable {successors : String → List String}

/-- Whether a unit comes before another one on the way from it. -/
def Below (successors : String → List String) (names : List String) (w v : {v // v ∈ names}) :
    Prop :=
  TransGen (Edge successors) v w ∧ ¬ Cyclic successors v

theorem wellFounded_below (successors : String → List String) (names : List String) :
    WellFounded (Below successors names) := by
  have hfinite : Finite {v // v ∈ names} := names.finite_toSet
  have htrans : IsTrans {v // v ∈ names} (Below successors names) :=
    ⟨fun _ _ _ h h' => ⟨h'.1.trans h.1, h'.2⟩⟩
  have hirrefl : Std.Irrefl (Below successors names) := ⟨fun _ h => h.2 h.1⟩
  exact Finite.wellFounded_of_trans_of_irrefl _

/-- What holds of a unit on no cycle if it holds of those successors of it that lie on no cycle
either. -/
theorem acyclic_induction {P : String → Prop} {names : List String}
    (hnames : ∀ v, ∀ w ∈ successors v, w ∈ names)
    (hstep : ∀ v, ¬ Cyclic successors v → (∀ w ∈ successors v, ¬ Cyclic successors w → P w) → P v)
    (v : String) (hv : ¬ Cyclic successors v) : P v := by
  have hnamed : ∀ v : {v // v ∈ names}, ¬ Cyclic successors v → P v := by
    intro v
    refine (wellFounded_below successors names).induction
      (C := fun v => ¬ Cyclic successors v → P v) v ?_
    intro v ih hv
    refine hstep v hv fun w hw hacyclic => ?_
    exact ih ⟨w, hnames v w hw⟩ ⟨.single hw, hv⟩ hacyclic
  exact hstep v hv fun w hw => hnamed ⟨w, hnames v w hw⟩

end InitDaemon.Units
