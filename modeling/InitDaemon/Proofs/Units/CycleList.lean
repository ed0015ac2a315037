import InitDaemon.Proofs.Units.Components

/-!
# The list of cycles

What the search over a graph lists are the strongly connected components that hold a cycle of
dependencies that exist: all of them, each once and in name order, and each after those that it
leads to.
-/

namespace InitDaemon.Units

open Relation

namespace Graph

variable {g : Graph} {v w : String} {u : UnitDef} {c d : List String}

/-- The definition of a name that counts: a built-in one hides a unit file. -/
def Defines (g : Graph) (name : String) (u : UnitDef) : Prop :=
  g.builtin[name]? = some u ∨ g.builtin[name]? = none ∧ g.disk[name]? = some u

/-- A unit depends on another one, and that one exists. -/
def Needs (g : Graph) (v w : String) : Prop :=
  (∃ u, g.Defines v u ∧ w ∈ u.dependencies) ∧ ∃ u, g.Defines w u

structure ListsCycles (g : Graph) (cycles : List (List String)) : Prop where
  mem_iff : ∀ c, c ∈ cycles ↔ c ≠ [] ∧ c.Pairwise (· < ·) ∧ ∀ v ∈ c, TransGen g.Needs v v ∧
    ∀ w, w ∈ c ↔ ReflTransGen g.Needs v w ∧ ReflTransGen g.Needs w v
  nodup : cycles.Nodup
  listed_iff : ∀ v, (∃ c ∈ cycles, v ∈ c) ↔ TransGen g.Needs v v
  together_iff : ∀ v w, (∃ c ∈ cycles, v ∈ c ∧ w ∈ c) ↔
    TransGen g.Needs v w ∧ TransGen g.Needs w v
  disjoint : cycles.Pairwise List.Disjoint
  sorted : ∀ c ∈ cycles, c.Pairwise (· < ·)
  /-- A component that leads to another one comes after it. -/
  ordered : ∀ c ∈ cycles, ∀ d ∈ cycles, c ≠ d →
    (∃ v ∈ c, ∃ w ∈ d, ReflTransGen g.Needs v w) → [d, c].Sublist cycles

theorem defines_iff : g.Defines v u ↔ g.get? v = some u := by
  rw [Defines, get?]
  cases g.builtin[v]? with
  | none => simp
  | some u' => simp

theorem needs_iff : g.Needs v w ↔ w ∈ g.successors v := by
  simp only [Needs, defines_iff, mem_successors, contains, Option.isSome_iff_exists]
  constructor
  · rintro ⟨⟨u, hu, hw⟩, hexists⟩
    exact ⟨u, hu, hw, hexists⟩
  · rintro ⟨u, hu, hw, hexists⟩
    exact ⟨⟨u, hu, hw⟩, hexists⟩

theorem needs_eq (g : Graph) : g.Needs = Edge g.successors := by
  funext v w
  exact propext needs_iff

theorem mem_findCycles_iff : c ∈ g.findCycles ↔ c ≠ [] ∧ IsCycle g.successors c := by
  constructor
  · intro hc
    exact ⟨nonempty_of_mem_findCycles hc, isCycle_of_mem_findCycles hc⟩
  · rintro ⟨hne, hc⟩
    obtain ⟨v, hv⟩ := List.exists_mem_of_ne_nil c hne
    obtain ⟨d, hd, hvd⟩ := exists_mem_findCycles (hc.cyclic v hv)
    rw [hc.eq (isCycle_of_mem_findCycles hd) hv hvd]
    exact hd

theorem findCycles_nodup (g : Graph) : g.findCycles.Nodup := by
  refine g.findCycles_ordered.imp_of_mem ?_
  intro c d hc _ hnot heq
  obtain ⟨v, hv⟩ := List.exists_mem_of_ne_nil c (nonempty_of_mem_findCycles hc)
  exact hnot v hv v (heq ▸ hv) .refl

theorem findCycles_disjoint (g : Graph) : g.findCycles.Pairwise List.Disjoint := by
  refine g.findCycles_ordered.imp ?_
  intro c d hnot v hvc hvd
  exact hnot v hvc v hvd .refl

theorem mem_same_iff : (∃ c ∈ g.findCycles, v ∈ c ∧ w ∈ c) ↔
    TransGen (Edge g.successors) v w ∧ TransGen (Edge g.successors) w v := by
  constructor
  · rintro ⟨c, hc, hv, hw⟩
    have hcycle := isCycle_of_mem_findCycles hc
    obtain ⟨hvw, hwv⟩ := (hcycle.mem_iff v hv w).mp hw
    exact ⟨(hcycle.cyclic v hv).trans_left hvw, (hcycle.cyclic w hw).trans_left hwv⟩
  · rintro ⟨hvw, hwv⟩
    obtain ⟨c, hc, hv⟩ := exists_mem_findCycles (hvw.trans hwv)
    refine ⟨c, hc, hv, ?_⟩
    exact ((isCycle_of_mem_findCycles hc).mem_iff v hv w).mpr ⟨hvw.to_reflTransGen,
      hwv.to_reflTransGen⟩

theorem sublist_of_reaches (hc : c ∈ g.findCycles) (hd : d ∈ g.findCycles) (hne : c ≠ d)
    (hv : v ∈ c) (hw : w ∈ d) (hreach : Reaches g.successors v w) :
    [d, c].Sublist g.findCycles := by
  have hordered := g.findCycles_ordered
  obtain ⟨before, after, hsplit⟩ := List.append_of_mem hc
  rw [hsplit] at hd hordered ⊢
  rcases List.mem_append.mp hd with hbefore | hafter
  · have hfirst : [d].Sublist before := List.singleton_sublist.mpr hbefore
    have hsecond : [c].Sublist (c :: after) := List.singleton_sublist.mpr List.mem_cons_self
    exact hfirst.append hsecond
  · have hlater : d ∈ after := (List.mem_cons.mp hafter).resolve_left hne.symm
    have hnot := (List.pairwise_cons.mp (List.pairwise_append.mp hordered).2.1).1 d hlater
    exact absurd hreach (hnot v hv w hw)

/-- The search finds what the graph's dependencies say, in every graph. -/
theorem findCycles_exact (g : Graph) : g.ListsCycles g.findCycles := by
  have hneeds := g.needs_eq
  constructor
  case mem_iff =>
    intro c
    rw [mem_findCycles_iff, hneeds]
    constructor
    · rintro ⟨hne, hc⟩
      exact ⟨hne, hc.sorted, fun v hv => ⟨hc.cyclic v hv, hc.mem_iff v hv⟩⟩
    · rintro ⟨hne, hsorted, hc⟩
      exact ⟨hne, hsorted, fun v hv => (hc v hv).1, fun v hv => (hc v hv).2⟩
  case nodup => exact g.findCycles_nodup
  case listed_iff =>
    intro v
    rw [hneeds]
    exact cyclic_iff.symm
  case together_iff =>
    intro v w
    rw [hneeds]
    exact mem_same_iff
  case disjoint => exact g.findCycles_disjoint
  case sorted => exact fun c hc => (isCycle_of_mem_findCycles hc).sorted
  case ordered =>
    rintro c hc d hd hne ⟨v, hv, w, hw, hreach⟩
    rw [hneeds] at hreach
    exact sublist_of_reaches hc hd hne hv hw hreach

/-- Besides two cycles, a unit on none and a missing one. -/
def twoCycles : Graph :=
  { disk := (∅ : Std.ExtTreeMap String UnitDef)
      |>.insert "a" { dependencies := .ofList ["b", "d"] }
      |>.insert "b" { dependencies := .ofList ["a"] }
      |>.insert "c" { dependencies := .ofList ["a", "e"] }
      |>.insert "d" { dependencies := .ofList ["d"] } }

example : twoCycles.findCycles = [["d"], ["a", "b"]] := by
  cbv

end Graph

end InitDaemon.Units
