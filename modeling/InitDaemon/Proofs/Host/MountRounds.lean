import Mathlib.Logic.Function.Iterate
import InitDaemon.Proofs.Host.MountFailures

/-!
# Mounting everything again

A round that fails may be repeated, and so may one that succeeds. No round mounts anything on a
target that is listed, and after one that has succeeded the basics are left alone.
-/

namespace InitDaemon.Host

variable {σ : Type} [Files σ] {states : σ → Prop} {m : σ} {w : Watched σ}

/-- The machine after so many rounds, whatever became of them. -/
def afterRounds (m : σ) (n : Nat) : σ :=
  (fun m => (Direct.perform .mountAll m).2)^[n] m

/-- Whether the round after so many rounds succeeds. -/
def Succeeds (m : σ) (n : Nat) : Prop :=
  (Direct.perform .mountAll (afterRounds m n)).1.1 = .ok ()

/-- The rounds on a watched machine, with the calls of them all. -/
def mountRounds (m : σ) : Nat → Watched σ
  | 0 => ⟨m, []⟩
  | n + 1 => (Direct.perform .mountAll (mountRounds m n)).2

theorem mountRounds_machine (m : σ) (n : Nat) : (mountRounds m n).machine = afterRounds m n := by
  induction n with
  | zero => rfl
  | succ n ih =>
    rw [afterRounds, Function.iterate_succ_apply', ← afterRounds, ← ih,
      Direct.perform_map Watched.hom_machine]
    rfl

theorem succeeds_iff {n : Nat} :
    Succeeds m n ↔ (Direct.perform .mountAll (mountRounds m n)).1.1 = .ok () := by
  rw [Succeeds, ← mountRounds_machine, Direct.perform_map Watched.hom_machine]
  rfl

/-- Makes no directory and no device, and mounts nothing new on a mandatory target. -/
def SparesBasics : FileCall → Prop
  | .makeDirectory .. | .makeNode .. => False
  | .mount c _ => c.flags.remount = false → c.target ∉ mandatoryTargets
  | .makeLink .. => True

/-- The mandatory targets are all listed. -/
def Furnished (m : σ) : Prop :=
  ∀ p ∈ mandatoryTargets, Lists m p

theorem furnished_iff : Furnished m ↔ ∀ c ∈ decisiveMounts, Lists m c.target := by
  rw [Furnished, ← decisive_targets, List.forall_mem_map]

section

variable (hrules : MountRules states)

include hrules

theorem Orderly.round (h : Orderly states w) :
    let r := Direct.perform .mountAll w
    Orderly states r.2 ∧ (r.1.1 = .ok () → Furnished r.2.machine) ∧
      (Furnished w.machine → r.1.1 = .ok () ∧
        Onward states (fun call => IsLink deviceLinks call ∨ IsEntry call) w r.2) := by
  have hends := Direct.perform_ends .mountAll (mountAll_ends hrules h)
  rcases hends with ⟨hok, hafter, hlisted, hquiet⟩ | ⟨e, herror, done, c, rest, horder, hfails, -⟩
  · exact ⟨hafter, fun _ => furnished_iff.mpr hlisted,
      fun hall => ⟨hok, hquiet (furnished_iff.mp hall)⟩⟩
  · refine ⟨hfails.onward.orderly, fun hok => ?_, fun hall => ?_⟩
    · cases herror.symm.trans hok
    · have hc : c ∈ decisiveMounts := by simp [horder]
      exact absurd (hfails.onward.lists _ (furnished_iff.mp hall c hc)) hfails.unmounted

theorem orderly_mountRounds (hm : states m) (htable : HasTable m ∨ LacksTable m) (n : Nat) :
    Orderly states (mountRounds m n) := by
  induction n with
  | zero => exact orderly_start hm htable
  | succ n ih => exact (ih.round hrules).1

/-- What is furnished stays so, from the first round that succeeds. -/
theorem furnished_mountRounds (hm : states m) (htable : HasTable m ∨ LacksTable m) {k n : Nat}
    (hk : Succeeds m k) (hn : k < n) : Furnished (mountRounds m n).machine := by
  induction hn with
  | refl =>
    obtain ⟨-, hfurnished, -⟩ := (orderly_mountRounds hrules hm htable k).round hrules
    exact hfurnished (succeeds_iff.mp hk)
  | @step n _ ih =>
    obtain ⟨-, -, hquiet⟩ := (orderly_mountRounds hrules hm htable n).round hrules
    obtain ⟨-, honward⟩ := hquiet ih
    exact fun p hp => honward.lists p (ih p hp)

end

/-- On a machine that is furnished, links and the entries of the table spare the basics: an entry
whose mount point is listed is only remounted. -/
theorem Onward.sparesBasics {w' : Watched σ}
    (h : Onward states (fun call => IsLink deviceLinks call ∨ IsEntry call) w w')
    (hall : Furnished w.machine) :
    ∃ new, w'.calls = new ++ w.calls ∧ ∀ r ∈ new, SparesBasics r.call := by
  obtain ⟨new, hcalls, hnew⟩ := h.calls
  refine ⟨new, hcalls, fun r hr => ?_⟩
  obtain ⟨hmade, hlists⟩ := hnew r hr
  have hunlisted := h.orderly.unlisted r (hcalls ▸ List.mem_append_left _ hr)
  cases hcall : r.call with
  | makeDirectory path answer =>
    rw [hcall] at hmade
    obtain hlink | ⟨_, _, _, _, hentry⟩ := hmade
    · exact hlink
    · exact hentry
  | makeNode node answer =>
    rw [hcall] at hmade
    obtain hlink | ⟨_, _, _, _, hentry⟩ := hmade
    · exact hlink
    · exact hentry
  | mount c answer =>
    intro hfresh htarget
    exact hunlisted c answer hcall hfresh (hlists _ (hall _ htarget))
  | makeLink => trivial

/-- No round mounts anything new on a listed target, so no two new mounts have one target. After a
round that has succeeded every other succeeds, too, and spares the basics. -/
theorem mountRounds_mount_once (hrules : MountRules states) (hm : states m)
    (htable : HasTable m ∨ LacksTable m) (n : Nat) :
    (∀ r ∈ (mountRounds m n).calls, ∀ c answer, r.call = .mount c answer →
      c.flags.remount = false → ¬ Lists r.before c.target) ∧
    (newTargets (mountRounds m n).calls).Nodup ∧
    ∀ k < n, Succeeds m k → Succeeds m n ∧
      ∃ new, (mountRounds m (n + 1)).calls = new ++ (mountRounds m n).calls ∧
        ∀ r ∈ new, SparesBasics r.call := by
  have horderly := orderly_mountRounds hrules hm htable n
  refine ⟨horderly.unlisted, horderly.nodup, fun k hk hsucceeds => ?_⟩
  have hall := furnished_mountRounds hrules hm htable hsucceeds hk
  obtain ⟨-, -, hquiet⟩ := horderly.round hrules
  obtain ⟨hok, honward⟩ := hquiet hall
  exact ⟨succeeds_iff.mpr hok, honward.sparesBasics hall⟩

/-- A machine in memory with all mandatory targets mounted but one, and entries that name a target
twice. -/
def machineWithEntries : Simulation.Machine :=
  let table := "proc /proc proc\nsysfs /sys sysfs\nudev /dev devtmpfs\ndevpts /dev/pts devpts\n" ++
    ("tmpfs /run tmpfs" ++ "\n")
  let fstab := "none /tmp tmpfs ro\nnone /mnt tmpfs\nnone /mnt tmpfs\n"
  { mountTable := .ok table
    texts := (∅ : Std.ExtTreeMap String (Except ReadError String)).insert fstabPath (.ok fstab) }

open Simulation in
theorem mountRounds_with_entries :
    let m := machineWithEntries
    HasTable m ∧ (newTargets (mountRounds m 1).calls).Nodup ∧ Succeeds m 0 ∧ Succeeds m 1 ∧
      ∃ new, (mountRounds m 2).calls = new ++ (mountRounds m 1).calls ∧
        ∀ r ∈ new, SparesBasics r.call := by
  have htabled : machineWithEntries.IsTabled := .inl ⟨_, rfl⟩
  have htable : HasTable machineWithEntries := ⟨_, rfl, .append_line _ _⟩
  have hfirst : Succeeds machineWithEntries 0 := by
    rw [Succeeds]
    decide +kernel
  obtain ⟨-, hnodup, hlater⟩ := mountRounds_mount_once Machine.mountRules htabled (.inl htable) 1
  exact ⟨htable, hnodup, hfirst, hlater 0 Nat.zero_lt_one hfirst⟩

end InitDaemon.Host
