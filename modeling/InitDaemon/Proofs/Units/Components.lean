import Mathlib.Data.List.Perm.Basic
import InitDaemon.Proofs.Units.DepthFirst

/-!
# The cycles of a graph

The search over a graph has an answer, and what it finds is what the graph's edges say: every
strongly connected component that holds a cycle, each once, and each after those that it reaches.
-/

namespace InitDaemon.Units

open Std

namespace Graph

variable {g : Graph} {v w : String}

/-! ## Names and successors -/

theorem contains_iff : g.contains v = true ↔ v ∈ g.builtin ∨ v ∈ g.disk := by
  simp [contains, get?]

theorem mem_foldl_insert (names : List String) (s : ExtTreeSet String) :
    v ∈ names.foldl .insert s ↔ v ∈ names ∨ v ∈ s := by
  induction names generalizing s with
  | nil => simp
  | cons n names ih =>
    have hinsert : v ∈ s.insert n ↔ v = n ∨ v ∈ s := by
      rw [@eq_comm _ v]
      simp
    rw [List.foldl_cons, ih, List.mem_cons, hinsert, or_left_comm, or_assoc]

theorem toList_sorted (names : ExtTreeSet String) : names.toList.Pairwise (· < ·) :=
  names.ordered_toList.imp fun {a b} (h : compareOfLessAndEq a b = .lt) =>
    compareOfLessAndEq_eq_lt.mp h

theorem mem_names : v ∈ g.names ↔ g.contains v = true := by
  rw [names, nameSet, ExtTreeSet.mem_toList, mem_foldl_insert, contains_iff]
  simp

theorem mem_successors : w ∈ g.successors v ↔
    ∃ u, g.get? v = some u ∧ w ∈ u.dependencies ∧ g.contains w = true := by
  rw [successors]
  cases g.get? v with
  | none => simp
  | some u => simp

theorem successors_mem_names : ∀ v, ∀ w ∈ g.successors v, w ∈ g.names := by
  intro v w hw
  obtain ⟨_, _, _, hcontains⟩ := mem_successors.mp hw
  exact mem_names.mpr hcontains

/-! ## What the search finds -/

theorem exists_search (g : Graph) : ∃ s, g.search? = some s ∧
    Search.Sound g.successors [] s ∧ ∀ v ∈ g.names, v ∈ s.index := by
  obtain ⟨s, hs, hsound, -, hmet⟩ := Search.sound_empty.visitRoots
    (successors_mem_names (g := g)) g.names fun _ hv => hv
  exact ⟨s, hs, hsound, hmet⟩

theorem isCycle_of_mem_findCycles {c : List String} (h : c ∈ g.findCycles) :
    IsCycle g.successors c := by
  obtain ⟨s, hs, hsound, -⟩ := g.exists_search
  rw [findCycles, hs] at h
  exact hsound.found_cycle c (List.mem_reverse.mp h)

theorem nonempty_of_mem_findCycles {c : List String} (h : c ∈ g.findCycles) : c ≠ [] := by
  obtain ⟨s, hs, hsound, -⟩ := g.exists_search
  rw [findCycles, hs] at h
  exact hsound.found_nonempty c (List.mem_reverse.mp h)

theorem cyclic_contains (h : Cyclic g.successors v) : g.contains v = true := by
  obtain ⟨_, _, hedge⟩ := Relation.TransGen.tail'_iff.mp h
  obtain ⟨_, _, _, hcontains⟩ := mem_successors.mp hedge
  exact hcontains

theorem exists_mem_findCycles (h : Cyclic g.successors v) : ∃ c ∈ g.findCycles, v ∈ c := by
  obtain ⟨s, hs, hsound, hmet⟩ := g.exists_search
  have hdone : s.Done v := by
    refine ⟨hmet v (mem_names.mpr (cyclic_contains h)), ?_⟩
    rw [hsound.stack_eq_nil]
    exact List.not_mem_nil
  obtain ⟨c, hc, hv⟩ := hsound.found_all v hdone h
  rw [findCycles, hs]
  exact ⟨c, List.mem_reverse.mpr hc, hv⟩

/-- A component comes after those that it reaches. -/
theorem findCycles_ordered (g : Graph) :
    g.findCycles.Pairwise fun earlier later =>
      ∀ v ∈ earlier, ∀ w ∈ later, ¬ Reaches g.successors v w := by
  obtain ⟨s, hs, hsound, -⟩ := g.exists_search
  rw [findCycles, hs, List.pairwise_reverse]
  exact hsound.found_order

theorem cyclic_iff : Cyclic g.successors v ↔ ∃ c ∈ g.findCycles, v ∈ c :=
  ⟨exists_mem_findCycles, fun ⟨_, hc, hv⟩ => (isCycle_of_mem_findCycles hc).cyclic v hv⟩

end Graph

/-- Two components with a common unit are the same. -/
theorem IsCycle.eq {successors : String → List String} {c d : List String} {v : String}
    (hc : IsCycle successors c) (hd : IsCycle successors d) (hvc : v ∈ c) (hvd : v ∈ d) :
    c = d := by
  have hmem : ∀ w, w ∈ c ↔ w ∈ d := fun w => (hc.mem_iff v hvc w).trans (hd.mem_iff v hvd w).symm
  have hirr : ∀ {a b : String}, a < b → a ≠ b := fun hlt heq => String.lt_irrefl _ (heq ▸ hlt)
  have hperm : c.Perm d :=
    (List.perm_ext_iff_of_nodup (hc.sorted.imp hirr) (hd.sorted.imp hirr)).mpr hmem
  exact hperm.eq_of_pairwise (fun _ _ _ _ hab hba => absurd hba (String.lt_asymm hab))
    hc.sorted hd.sorted

end InitDaemon.Units
