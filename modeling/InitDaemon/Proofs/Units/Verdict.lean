import InitDaemon.Proofs.Units.Components

/-!
# The verdict on a unit

What becomes of a unit follows from the graph and from the results of own actions. A unit that does
not exist is not found, one that reaches itself lies on a cycle, and one with a failed dependency
fails by the first of them in name order. Otherwise the own action decides. No order in which units
are started has a part in this.
-/

namespace InitDaemon

/-- The results that the own action of a unit may have. -/
def Outcome.IsOwn : Outcome → Prop
  | .ok () | .error (.spawn ..) | .error (.action ..) => True
  | _ => False

/-- Equal but for the chain of those that asked and for the text of a dependency's failure. -/
def StartError.Alike : StartError → StartError → Prop
  | .notFound unit _, .notFound unit' _ => unit = unit'
  | .dependency unit d _, .dependency unit' d' _ => unit = unit' ∧ d = d'
  | e, e' => e = e'

def Outcome.Alike : Outcome → Outcome → Prop
  | .ok (), .ok () => True
  | .error e, .error e' => e.Alike e'
  | _, _ => False

theorem Outcome.Alike.refl (o : Outcome) : o.Alike o := by
  rcases o with e | -
  · cases e <;> simp [Outcome.Alike, StartError.Alike]
  · trivial

end InitDaemon

namespace InitDaemon.Units

open Relation Std

/-- Whether a unit depends on another one, which need not exist. -/
def Graph.Depends (g : Graph) (unit dependency : String) : Prop :=
  ∃ u, g.get? unit = some u ∧ dependency ∈ u.dependencies

/-- The outcome of a unit, if `acted` tells the results of own actions. -/
inductive Decides (g : Graph) (acted : String → Outcome → Prop) : String → Outcome → Prop
  | notFound {unit : String} (chain : List String) (hunit : g.get? unit = none) :
    Decides g acted unit (.error (.notFound unit chain))
  | cycle {unit : String} {members : List String} (hcycle : IsCycle g.successors members)
    (hunit : unit ∈ members) : Decides g acted unit (.error (.cycle members))
  | dependency {unit d : String} {u : UnitDef} {e : StartError} (hunit : g.get? unit = some u)
    (hacyclic : ¬ Cyclic g.successors unit) (hd : d ∈ u.dependencies)
    (hfirst : ∀ d' ∈ u.dependencies, d' < d → Decides g acted d' (.ok ()))
    (hfailed : Decides g acted d (.error e)) :
    Decides g acted unit (.error (.dependency unit d e.text))
  | own {unit : String} {u : UnitDef} {o : Outcome} (hunit : g.get? unit = some u)
    (hacyclic : ¬ Cyclic g.successors unit)
    (hready : ∀ d ∈ u.dependencies, Decides g acted d (.ok ())) (hown : o.IsOwn)
    (hacted : acted unit o) : Decides g acted unit o

variable {g g' : Graph} {acted acted' : String → Outcome → Prop} {unit : String} {o o' : Outcome}

theorem Decides.mono (h : Decides g acted unit o) (hacted : ∀ v o, acted v o → acted' v o) :
    Decides g acted' unit o := by
  induction h with
  | notFound chain hunit => exact .notFound chain hunit
  | cycle hcycle hunit => exact .cycle hcycle hunit
  | dependency hunit hacyclic hd _ _ ihfirst ihfailed =>
    exact .dependency hunit hacyclic hd ihfirst ihfailed
  | own hunit hacyclic _ hown hown' ih => exact .own hunit hacyclic ih hown (hacted _ _ hown')

/-! ## Graphs that agree on what a unit depends on -/

theorem successors_depends {v w : String} (h : w ∈ g.successors v) : g.Depends v w := by
  obtain ⟨u, hu, hw, -⟩ := Graph.mem_successors.mp h
  exact ⟨u, hu, hw⟩

/-- The part of a graph that a unit leads to is the same in another one. -/
def SameBelow (g g' : Graph) (unit : String) : Prop :=
  ∀ v, ReflTransGen g.Depends unit v → g'.get? v = g.get? v

theorem SameBelow.of_depends {d : String} (h : SameBelow g g' unit) (hd : g.Depends unit d) :
    SameBelow g g' d :=
  fun v hv => h v (.head hd hv)

/-- A unit that no other one depends on is of no account to the others. -/
theorem SameBelow.of_ne (name : String) (hname : ∀ v, ¬ g.Depends v name) (hne : unit ≠ name)
    (heq : ∀ v, v ≠ name → g'.get? v = g.get? v) : SameBelow g g' unit := by
  intro v hpath
  refine heq v ?_
  rintro rfl
  rcases hpath.cases_tail with rfl | ⟨w, -, hedge⟩
  · exact hne rfl
  · exact hname w hedge

theorem SameBelow.successors_eq (h : SameBelow g g' unit) {v : String}
    (hv : ReflTransGen g.Depends unit v) : g'.successors v = g.successors v := by
  rw [Graph.successors, Graph.successors, h v hv]
  cases hu : g.get? v with
  | none => rfl
  | some u =>
    refine List.filter_congr fun d hd => ?_
    rw [Graph.contains, Graph.contains, h d (hv.tail ⟨u, hu, by simpa using hd⟩)]

theorem SameBelow.cyclic_iff (h : SameBelow g g' unit) :
    Cyclic g.successors unit ↔ Cyclic g'.successors unit := by
  have hclosed : ∀ v, ReflTransGen g.Depends unit v → ∀ w ∈ g.successors v,
      ReflTransGen g.Depends unit w := fun v hv w hw => hv.tail (successors_depends hw)
  have heq : ∀ v, ReflTransGen g.Depends unit v → g'.successors v = g.successors v :=
    fun v hv => h.successors_eq hv
  constructor
  · exact Cyclic.congr hclosed heq .refl
  · refine Cyclic.congr (fun v hv w hw => hclosed v hv w ?_) (fun v hv => (heq v hv).symm) .refl
    exact heq v hv ▸ hw

theorem SameBelow.isCycle (h : SameBelow g g' unit) {members : List String}
    (hc : IsCycle g.successors members) (hunit : unit ∈ members) :
    IsCycle g'.successors members :=
  hc.congr (P := ReflTransGen g.Depends unit)
    (fun _ hv _ hw => hv.tail (successors_depends hw)) (fun _ hv => h.successors_eq hv) .refl hunit

/-- In the order in which the dependencies of a unit are waited for, smaller names come first. -/
theorem mem_before_of_lt {names : ExtTreeSet String} {before after : List String} {d d' : String}
    (hsplit : names.toList = before ++ d :: after) (hd' : d' ∈ names) (hlt : d' < d) :
    d' ∈ before := by
  have hsorted := Graph.toList_sorted names
  rw [← ExtTreeSet.mem_toList, hsplit] at hd'
  rw [hsplit, List.pairwise_append, List.pairwise_cons] at hsorted
  rcases List.mem_append.mp hd' with hbefore | hafter
  · exact hbefore
  rcases List.mem_cons.mp hafter with rfl | hafter
  · exact absurd hlt (String.lt_irrefl _)
  · exact absurd hlt (String.lt_asymm (hsorted.2.1.1 d' hafter))

/-- Verdicts on a unit agree if its part of the graph and the results of the actions in it do. -/
theorem Decides.alike (h : Decides g acted unit o) (h' : Decides g' acted' unit o')
    (hsame : SameBelow g g' unit)
    (hacted : ∀ v, ReflTransGen g.Depends unit v → ∀ o o', acted v o → acted' v o' → o = o') :
    o.Alike o' := by
  induction h generalizing o' with
  | notFound chain hunit =>
    rw [← hsame _ .refl] at hunit
    cases h' with
    | notFound => rfl
    | cycle hcycle hmem =>
      have hcontains := Graph.cyclic_contains (hcycle.cyclic _ hmem)
      simp [Graph.contains, hunit] at hcontains
    | dependency hunit' => cases hunit.symm.trans hunit'
    | own hunit' => cases hunit.symm.trans hunit'
  | cycle hcycle hmem =>
    have hcycle' := hsame.isCycle hcycle hmem
    cases h' with
    | notFound chain hunit =>
      have hcontains := Graph.cyclic_contains (hcycle'.cyclic _ hmem)
      simp [Graph.contains, hunit] at hcontains
    | cycle hcycle'' hmem' => exact congrArg _ (hcycle'.eq hcycle'' hmem hmem')
    | dependency _ hacyclic => exact absurd (hcycle'.cyclic _ hmem) hacyclic
    | own _ hacyclic => exact absurd (hcycle'.cyclic _ hmem) hacyclic
  | @dependency unit d u e hunit hacyclic hd hfirst hfailed ihfirst ihfailed =>
    have hunit' := (hsame _ .refl).trans hunit
    -- What holds of the unit's part of the graph holds of each dependency's.
    have ihfirst' : ∀ d' ∈ u.dependencies, d' < d → ∀ o', Decides g' acted' d' o' →
        Outcome.Alike (.ok ()) o' := fun d' hd' hlt o' h' =>
      ihfirst d' hd' hlt h' (hsame.of_depends ⟨u, hunit, hd'⟩)
        fun v hv => hacted v (.head ⟨u, hunit, hd'⟩ hv)
    have ihfailed' : ∀ o', Decides g' acted' d o' → Outcome.Alike (.error e) o' := fun o' h' =>
      ihfailed h' (hsame.of_depends ⟨u, hunit, hd⟩) fun v hv => hacted v (.head ⟨u, hunit, hd⟩ hv)
    cases h' with
    | notFound chain hnone => cases hunit'.symm.trans hnone
    | cycle hcycle hmem => exact absurd (hsame.cyclic_iff.mpr (hcycle.cyclic _ hmem)) hacyclic
    | @dependency _ d' _ e' hunit'' _ hd' hfirst' hfailed' =>
      cases hunit'.symm.trans hunit''
      by_cases hlt : d < d'
      · exact (ihfailed' _ (hfirst' d hd hlt)).elim
      by_cases hgt : d' < d
      · exact (ihfirst' d' hd' hgt _ hfailed').elim
      exact ⟨rfl, String.le_antisymm (String.not_lt.mp hgt) (String.not_lt.mp hlt)⟩
    | own hunit'' _ hready =>
      cases hunit'.symm.trans hunit''
      exact (ihfailed' _ (hready d hd)).elim
  | @own unit u o hunit hacyclic hready hown hacted' ih =>
    have hunit' := (hsame _ .refl).trans hunit
    cases h' with
    | notFound chain hnone => cases hunit'.symm.trans hnone
    | cycle hcycle hmem => exact absurd (hsame.cyclic_iff.mpr (hcycle.cyclic _ hmem)) hacyclic
    | @dependency _ d _ e hunit'' _ hd _ hfailed =>
      cases hunit'.symm.trans hunit''
      exact (ih d hd hfailed (hsame.of_depends ⟨u, hunit, hd⟩)
        fun v hv => hacted v (.head ⟨u, hunit, hd⟩ hv)).elim
    | own _ _ _ _ hacted'' =>
      cases hacted unit .refl _ _ hacted' hacted''
      exact .refl o

end InitDaemon.Units
