import InitDaemon.Proofs.Units.CycleList
import InitDaemon.Proofs.Units.Verdict

/-!
# Built-in units among unit files

A built-in hides the unit file of its name and depends on built-ins that come before it. So the
part of the graph that it leads to is the same whatever unit files there are, and has no cycle.
-/

namespace InitDaemon.Units

open Relation Std

variable {b : Builtin} {disk : ExtTreeMap String UnitDef} {v w : String}

theorem name_injective {b b' : Builtin} (h : b.name = b'.name) : b = b' := by
  revert h
  cases b <;> cases b' <;> decide

/-- A built-in depends on built-ins that come before it. -/
theorem dependencies_before (b : Builtin) :
    ∀ d ∈ b.dependencies, ∃ b', d = b'.name ∧ Builtin.all.idxOf b' < Builtin.all.idxOf b := by
  have hnamed : ∀ d ∈ b.dependencies, ∃ b' ∈ Builtin.all,
      d = b'.name ∧ Builtin.all.idxOf b' < Builtin.all.idxOf b := by
    cases b <;> decide
  intro d hd
  obtain ⟨b', -, hb'⟩ := hnamed d hd
  exact ⟨b', hb'⟩

namespace Graph

/-- The unit files with the built-ins beside them. -/
def besideBuiltins (disk : ExtTreeMap String UnitDef) : Graph :=
  addBuiltins { disk := disk }

theorem get?_builtin (disk : ExtTreeMap String UnitDef) (b : Builtin) :
    (besideBuiltins disk).get? b.name = some b.definition := by
  have hbuiltin : withBuiltins.builtin[b.name]? = some b.definition := by
    cases b <;> decide +kernel
  change (withBuiltins.builtin[b.name]? <|> disk[b.name]?) = _
  rw [hbuiltin]
  rfl

theorem depends_before (h : (besideBuiltins disk).Depends b.name w) :
    ∃ b', w = b'.name ∧ Builtin.all.idxOf b' < Builtin.all.idxOf b := by
  obtain ⟨u, hu, hw⟩ := h
  obtain rfl := Option.some.inj ((get?_builtin disk b).symm.trans hu)
  exact dependencies_before b w (by simpa [Builtin.definition] using hw)

/-- Nothing but a built-in is below a built-in. -/
theorem builtin_of_reaches (h : ReflTransGen (besideBuiltins disk).Depends b.name v) :
    ∃ b' : Builtin, v = b'.name := by
  induction h with
  | refl => exact ⟨b, rfl⟩
  | tail _ hedge ih =>
    obtain ⟨b', rfl⟩ := ih
    obtain ⟨b'', rfl, -⟩ := depends_before hedge
    exact ⟨b'', rfl⟩

theorem before_of_path (h : TransGen (Edge (besideBuiltins disk).successors) b.name v) :
    ∃ b', v = b'.name ∧ Builtin.all.idxOf b' < Builtin.all.idxOf b := by
  induction h with
  | single hedge => exact depends_before (successors_depends hedge)
  | tail _ hedge ih =>
    obtain ⟨b', rfl, hlt⟩ := ih
    obtain ⟨b'', rfl, hlt'⟩ := depends_before (successors_depends hedge)
    exact ⟨b'', rfl, hlt'.trans hlt⟩

theorem builtin_acyclic (disk : ExtTreeMap String UnitDef) (b : Builtin) :
    ¬ Cyclic (besideBuiltins disk).successors b.name := by
  intro hcyclic
  obtain ⟨b', hname, hlt⟩ := before_of_path hcyclic
  exact absurd (name_injective hname ▸ hlt) (Nat.lt_irrefl _)

theorem builtin_not_mem_findCycles {cycle : List String}
    (h : cycle ∈ (besideBuiltins disk).findCycles) (b : Builtin) : b.name ∉ cycle := by
  intro hb
  obtain ⟨-, hcycle⟩ := mem_findCycles_iff.mp h
  exact builtin_acyclic disk b (hcycle.cyclic b.name hb)

theorem sameBelow_builtin (disk disk' : ExtTreeMap String UnitDef) (b : Builtin) :
    SameBelow (besideBuiltins disk) (besideBuiltins disk') b.name := by
  intro v hv
  obtain ⟨b', rfl⟩ := builtin_of_reaches hv
  rw [get?_builtin, get?_builtin]

end Graph

end InitDaemon.Units
