import InitDaemon.Proofs.Host.MountCourse
import InitDaemon.Proofs.Host.MountLines

/-!
# Where mounting everything stops

The mandatory targets are all mount points in the end, or the first that could not be made one has
ended the whole. Then nothing was tried for those after it, nor for the table of file systems.
-/

namespace InitDaemon.Host

variable {σ : Type} [Files σ] {states : σ → Prop} {m : σ}

def mandatoryTargets : List String :=
  ["/proc", "/sys", "/dev", "/dev/pts", "/run", "/tmp"]

theorem decisive_targets : decisiveMounts.map (·.target) = mandatoryTargets := rfl

/-- No directory is made for the target of the mount, and nothing is mounted on it. -/
def Spares (c : MountCall) : FileCall → Prop
  | .makeDirectory path _ => path ≠ c.target
  | .mount c' _ => c'.target ≠ c.target
  | .makeNode .. | .makeLink .. => True

/-- The directories that are made for the mandatory mounts up to one of them are none of the
targets after it. -/
theorem spares_later {done rest : List MountCall} {c : MountCall}
    (h : decisiveMounts = done ++ c :: rest) :
    ∀ d ∈ done ++ [c], ∀ t ∈ rest, ∀ call, IsMadeFor d.target call → Spares t call := by
  have hdirectories : ∀ n < decisiveMounts.length, ∀ d ∈ decisiveMounts.take (n + 1),
      ∀ t ∈ decisiveMounts.drop (n + 1), d.target ≠ t.target ∧ t.target ∉ Path.ancestors d.target ∧
        (d.target = "/dev" → t.target ∉ deviceDirectories (deviceNodes ++ terminals)) := by
    decide +kernel
  intro d hd t ht call hcall
  have hlength : done.length < decisiveMounts.length := by simp [h]
  have hdone : decisiveMounts.take (done.length + 1) = done ++ [c] := by
    rw [h, List.append_cons, List.take_left' (by simp)]
  have hrest : decisiveMounts.drop (done.length + 1) = rest := by
    rw [h, List.append_cons, List.drop_left' (by simp)]
  obtain ⟨hne, hancestors, hdevices⟩ :=
    hdirectories done.length hlength d (hdone ▸ hd) t (hrest ▸ ht)
  cases call with
  | makeDirectory path =>
    rintro rfl
    rcases hcall with hpath | ⟨hdev, hpath⟩
    · exact hancestors hpath
    · exact hdevices hdev hpath
  | mount c' =>
    obtain ⟨-, htarget⟩ := hcall
    exact fun heq => hne (htarget.symm.trans heq)
  | makeNode | makeLink => trivial

/-- Mounting everything has stopped at one of the mandatory mounts, with the error of its latest
call. -/
structure StopsAt (done : List MountCall) (c : MountCall) (rest : List MountCall) (e : HostError)
    (m m' : σ) (calls : List (SeenCall σ)) : Prop where
  order : decisiveMounts = done ++ c :: rest
  mounted : ∀ d ∈ done, isMountPoint d.target m' = true
  unmounted : isMountPoint c.target m' = false
  unmounted_before : HasTable m ∨ c.target = "/proc" → isMountPoint c.target m = false
  /-- The device directory is given up when its second try has failed, too. -/
  blamed : ∃ r old, calls = r :: old ∧ BlamedOn c r.call e ∧
    (c = devFallback → ∃ r' ∈ old, ∃ e', BlamedOn devMount r'.call e')
  made : ∀ r ∈ calls, ∃ d ∈ done ++ [c], IsMadeFor d.target r.call
  later : ∀ r ∈ calls, ∀ t ∈ rest, Spares t r.call

theorem Orderly.isMountPoint_eq_false {w : Watched σ} {p : String} (h : Orderly states w)
    (hp : HasTable w.machine ∨ p = "/proc") (hnot : ¬ Lists w.machine p) :
    isMountPoint p w.machine = false :=
  Bool.eq_false_iff.mpr fun hmounted => hnot ((h.isMountPoint_iff hp).mp hmounted)

theorem FailsAt.stops {done rest : List MountCall} {c : MountCall} {e : HostError} {w : Watched σ}
    (horderly : Orderly states ⟨m, []⟩) (horder : decisiveMounts = done ++ c :: rest)
    (h : FailsAt states (fun d => IsMadeFor d.target) done c e ⟨m, []⟩ w)
    (htried : c = devFallback →
      TriedBefore (fun call => ∃ e', BlamedOn devMount call e') ⟨m, []⟩ w) :
    StopsAt done c rest e m w.machine w.calls := by
  have htable : HasTable w.machine ∨ c.target = "/proc" := by
    cases done with
    | nil =>
      obtain ⟨rfl, -⟩ := List.cons.inj horder
      exact .inr rfl
    | cons d done => exact .inl (h.onward.orderly.hasTable (h.mounted d List.mem_cons_self))
  have hmade : ∀ r ∈ w.calls, ∃ d ∈ done ++ [c], IsMadeFor d.target r.call := by
    obtain ⟨new, hcalls, hnew⟩ := h.onward.calls
    intro r hr
    rw [hcalls, List.append_nil] at hr
    exact (hnew r hr).1
  refine ⟨horder, ?_, ?_, ?_, ?_, hmade, ?_⟩
  · intro d hd
    have hlisted := h.mounted d hd
    exact (h.onward.orderly.isMountPoint_iff (.inl (h.onward.orderly.hasTable hlisted))).mpr hlisted
  · exact h.onward.orderly.isMountPoint_eq_false htable h.unmounted
  · intro hbefore
    exact horderly.isMountPoint_eq_false hbefore fun hl => h.unmounted (h.onward.lists _ hl)
  · obtain ⟨r, new, hcalls, hr⟩ := h.latest
    rw [List.append_nil] at hcalls
    refine ⟨r, new, hcalls, hr, fun heq => ?_⟩
    obtain ⟨r', old, hcalls', htried⟩ := htried heq
    rw [List.append_nil, hcalls] at hcalls'
    obtain ⟨-, rfl⟩ := List.cons.inj hcalls'
    exact htried
  · intro r hr t ht
    obtain ⟨d, hd, hcall⟩ := hmade r hr
    exact spares_later horder d hd t ht r.call hcall

/-- Either all mandatory targets are mount points afterwards, or the first that could not be made
one has stopped the whole. -/
theorem mountAll_outcome (hrules : MountRules states) (hm : states m)
    (htable : HasTable m ∨ LacksTable m) :
    let r := Direct.perform .mountAll m
    let calls := (Direct.perform .mountAll (⟨m, []⟩ : Watched σ)).2.calls
    (r.1.1 = .ok () ∧ ∀ p ∈ mandatoryTargets, isMountPoint p r.2 = true) ∨
      ∃ e, r.1.1 = .error e ∧ ∃ done c rest, StopsAt done c rest e m r.2 calls := by
  have horderly := orderly_start hm htable
  have hends := Direct.perform_ends .mountAll (mountAll_ends hrules horderly)
  have hplain := Direct.perform_map Watched.hom_machine .mountAll (⟨m, []⟩ : Watched σ)
  change Direct.perform .mountAll m = _ at hplain
  rw [hplain]
  rcases hends with ⟨hok, hdone, hlisted, -⟩ | ⟨e, herror, done, c, rest, horder, hfails, htried⟩
  · refine .inl ⟨hok, fun p hp => ?_⟩
    rw [← decisive_targets] at hp
    obtain ⟨c, hc, rfl⟩ := List.mem_map.mp hp
    have hl := hlisted c hc
    exact (hdone.isMountPoint_iff (.inl (hdone.hasTable hl))).mpr hl
  · exact .inr ⟨e, herror, done, c, rest, hfails.stops horderly horder htried⟩

/-- A machine in memory that lets nothing be mounted on one of the targets. -/
def machineRefusing (target : String) : Simulation.Machine :=
  { failures := (∅ : Std.ExtTreeMap String Errno).insert ("mount " ++ target) .EPERM }

open Simulation in
theorem mountAll_refused_dev :
    let m := machineRefusing "/dev"
    LacksTable m ∧ ∃ done c rest,
      StopsAt done c rest (.mount "/dev" "tmpfs" .EPERM) m (Direct.perform .mountAll m).2
        (Direct.perform .mountAll (⟨m, []⟩ : Watched Machine)).2.calls := by
  have htabled : (machineRefusing "/dev").IsTabled :=
    .inr ⟨rfl, .inl rfl, by decide +kernel, by decide +kernel⟩
  have hlacks := htabled.lacksTable rfl
  have hanswer : (Direct.perform .mountAll (machineRefusing "/dev")).1.1 =
      .error (.mount "/dev" "tmpfs" .EPERM) := by
    decide +kernel
  refine ⟨hlacks, ?_⟩
  have houtcome := mountAll_outcome Machine.mountRules htabled (.inr hlacks)
  rcases houtcome with ⟨hok, -⟩ | ⟨e, herror, hstops⟩
  · cases hanswer.symm.trans hok
  · cases hanswer.symm.trans herror
    exact hstops

end InitDaemon.Host
