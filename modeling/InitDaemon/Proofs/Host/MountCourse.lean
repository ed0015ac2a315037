import InitDaemon.Proofs.FstabEntries
import InitDaemon.Proofs.Host.MountSteps

/-!
# The course of mounting everything

The device directory has a second try, with device nodes after it. The table of file systems comes
last, and nothing in it is a failure of the whole.
-/

namespace InitDaemon.Host

open Setup Text

variable {ε σ : Type} [Files σ] {states : σ → Prop} {w w' : Watched σ} {path : String}
  {c : MountCall}

/-- The mounts without which the whole fails, in their order. For the device directory it is the
second try. -/
def decisiveMounts : List MountCall :=
  kernelMounts ++ devFallback :: runtimeMounts

def mandatoryMounts : List MountCall :=
  devMount :: decisiveMounts

instance (c : MountCall) : Decidable (IsNewMount c) :=
  decidable_of_iff ((IsToken c.source ∧ IsToken c.target ∧ IsToken c.fstype) ∧
      c.flags.remount = false ∧
      ([c.source, c.target, c.fstype] ++ c.data.toList).findSome? nulPosition? = none)
    ⟨fun ⟨⟨hsource, htarget, hfstype⟩, hfresh, hfree⟩ =>
      ⟨⟨hsource, htarget, hfstype⟩, hfresh, hfree⟩,
    fun ⟨⟨hsource, htarget, hfstype⟩, hfresh, hfree⟩ =>
      ⟨⟨hsource, htarget, hfstype⟩, hfresh, hfree⟩⟩

theorem mandatory_new : ∀ c ∈ mandatoryMounts, IsNewMount c := by
  decide +kernel

/-- Before the latest call there was one of a kind. -/
def TriedBefore (p : FileCall → Prop) (w w' : Watched σ) : Prop :=
  ∃ r new, w'.calls = r :: (new ++ w.calls) ∧ ∃ r' ∈ new, p r'.call

omit [Files σ] in
theorem LatestCall.tried {p q : FileCall → Prop} {w₁ : Watched σ} (h : LatestCall p w w₁)
    (h' : LatestCall q w₁ w') : TriedBefore p w w' := by
  obtain ⟨r, new, heq, hr⟩ := h
  obtain ⟨r', new', heq', -⟩ := h'
  refine ⟨r', new' ++ r :: new, by rw [heq', heq, List.append_assoc, List.cons_append], r, ?_, hr⟩
  exact List.mem_append_right _ List.mem_cons_self

theorem TriedBefore.after {p made : FileCall → Prop} {w₁ : Watched σ} (h : TriedBefore p w₁ w')
    (h₁ : Onward states made w w₁) : TriedBefore p w w' := by
  obtain ⟨r, new, heq, r', hr', hp⟩ := h
  obtain ⟨new₁, heq₁, -⟩ := h₁.calls
  exact ⟨r, new ++ new₁, by rw [heq, heq₁, List.append_assoc], r', List.mem_append_left _ hr', hp⟩

theorem mem_of_split {mounts done rest : List MountCall} (h : mounts = done ++ c :: rest) :
    ∀ d ∈ done ++ [c], d ∈ mounts := by
  intro d hd
  rw [h, List.append_cons]
  exact List.mem_append_left rest hd

/-! ## Devices -/

/-- The directories that device nodes stand in, and those above. -/
def deviceDirectories (nodes : List DeviceNode) : List String :=
  nodes.flatMap fun node => (Path.parent? node.path).toList.flatMap Path.ancestors

def IsForDevices (nodes : List DeviceNode) : FileCall → Prop
  | .makeDirectory path _ => path ∈ deviceDirectories nodes
  | .makeNode node _ => node ∈ nodes
  | _ => False

def IsLink (links : List (String × String)) : FileCall → Prop
  | .makeLink target link _ => (target, link) ∈ links
  | _ => False

/-- The call is made on the way to the mandatory mount on that target. -/
def IsMadeFor (target : String) : FileCall → Prop
  | .makeDirectory path _ => path ∈ Path.ancestors target ∨
    target = "/dev" ∧ path ∈ deviceDirectories (deviceNodes ++ terminals)
  | .mount c _ => c ∈ mandatoryMounts ∧ c.target = target
  | .makeNode node _ => target = "/dev" ∧ node ∈ deviceNodes ++ terminals
  | .makeLink target' link _ => target = "/dev" ∧ (target', link) ∈ deviceLinks

theorem IsFor.isMadeFor (hc : c ∈ mandatoryMounts) :
    ∀ call, IsFor c call → IsMadeFor c.target call := by
  intro call hcall
  cases call with
  | makeDirectory => exact .inl hcall
  | mount =>
    cases hcall
    exact ⟨hc, rfl⟩
  | makeNode | makeLink => exact hcall.elim

theorem IsForDevices.isMadeFor :
    ∀ call, IsForDevices (deviceNodes ++ terminals) call → IsMadeFor "/dev" call := by
  intro call hcall
  cases call with
  | makeDirectory => exact .inr ⟨rfl, hcall⟩
  | makeNode => exact ⟨rfl, hcall⟩
  | mount | makeLink => exact hcall.elim

theorem IsLink.isMadeFor : ∀ call, IsLink deviceLinks call → IsMadeFor "/dev" call := by
  intro call hcall
  cases call with
  | makeLink => exact ⟨rfl, hcall⟩
  | _ => exact hcall.elim

section

variable (hrules : MountRules states)

include hrules

theorem ensureDirectory_still (h : Orderly states w) :
    (ensureDirectory path : Setup HostError (Watched σ) Unit).Ends w
      (fun _ w' => Still states (MakesIn (Path.ancestors path)) w w')
      (fun _ w' => Still states (MakesIn (Path.ancestors path)) w w') := by
  refine .adaptExcept ?_
  cases hnul : nulPosition? path with
  | none => exact (makeAll_ends hrules h hnul).mono (fun _ _ => id) fun _ _ => And.left
  | some position =>
    rw [makeAll, hnul]
    exact .bind (.throw (.refl h))

theorem makeDevice_ends {node : DeviceNode} {nodes : List DeviceNode} (h : Orderly states w)
    (hnode : node ∈ nodes) :
    (makeDevice node : Setup HostError (Watched σ) Unit).Ends w
      (fun _ w' => Still states (IsForDevices nodes) w w') (fun _ _ => False) := by
  have hnoded {w₁ : Watched σ} (hstill : Still states (IsForDevices nodes) w w₁) :
      Still states (IsForDevices nodes) w (Files.makeNode node w₁).2 :=
    hstill.trans <| hstill.orderly.still (.makeNode node (Files.makeNode node w₁.machine).1)
      (hrules.makeNode node _ hstill.orderly.states) hnode (by rintro _ _ ⟨⟩) rfl
  rw [makeDevice]
  split
  · next parent hparent =>
    have hdirectory : ∀ call, MakesIn (Path.ancestors parent) call → IsForDevices nodes call := by
      intro call hcall
      cases call with
      | makeDirectory path =>
        refine List.mem_flatMap.mpr ⟨node, hnode, ?_⟩
        rw [hparent]
        exact List.mem_flatMap.mpr ⟨parent, List.mem_singleton_self parent, hcall⟩
      | _ => exact hcall.elim
    have htried : (attempt (ensureDirectory parent) :
        Setup HostError (Watched σ) (Except HostError Unit)).Ends w
        (fun _ w' => Still states (IsForDevices nodes) w w') (fun _ _ => False) :=
      .attempt ((ensureDirectory_still hrules h).mono (fun _ _ hstill => hstill.mono hdirectory)
        fun _ _ hstill => hstill.mono hdirectory)
    refine .bind (htried.mono (fun _ w₁ hstill => .bind (.call ?_)) fun _ _ => id)
    split
    · exact .pure (hnoded hstill)
    · exact .say (hnoded hstill)
  · refine .bind (.call ?_)
    split
    · exact .pure (hnoded (.refl h))
    · exact .say (hnoded (.refl h))

theorem makeDevices_ends {nodes all : List DeviceNode} (h : Orderly states w)
    (hnodes : ∀ node ∈ nodes, node ∈ all) :
    (makeDevices nodes : Setup HostError (Watched σ) Unit).Ends w
      (fun _ w' => Still states (IsForDevices all) w w') (fun _ _ => False) := by
  induction nodes generalizing w with
  | nil => exact .pure (.refl h)
  | cons node nodes ih =>
    obtain ⟨hnode, hrest⟩ := List.forall_mem_cons.mp hnodes
    rw [makeDevices]
    refine .bind ((makeDevice_ends hrules h hnode).mono (fun _ w₁ hstill => ?_) fun _ _ => id)
    exact (ih hstill.orderly hrest).mono (fun _ _ => hstill.trans) fun _ _ => id

theorem makeLinks_ends {links all : List (String × String)} (h : Orderly states w)
    (hlinks : ∀ link ∈ links, link ∈ all) :
    (makeLinks links : Setup HostError (Watched σ) Unit).Ends w
      (fun _ w' => Still states (IsLink all) w w') (fun _ _ => False) := by
  induction links generalizing w with
  | nil => exact .pure (.refl h)
  | cons link links ih =>
    obtain ⟨target, link⟩ := link
    obtain ⟨hlink, hrest⟩ := List.forall_mem_cons.mp hlinks
    have hlinked : Still states (IsLink all) w (Files.makeLink target link w).2 :=
      h.still (.makeLink target link (Files.makeLink target link w.machine).1)
        (hrules.makeLink target link _ h.states) hlink (by rintro _ _ ⟨⟩) rfl
    have hgone : (makeLinks links : Setup HostError (Watched σ) Unit).Ends
        (Files.makeLink target link w).2
        (fun _ w' => Still states (IsLink all) w w') (fun _ _ => False) :=
      (ih hlinked.orderly hrest).mono (fun _ _ => hlinked.trans) fun _ _ => id
    rw [makeLinks]
    refine .bind (.ask ?_)
    split
    · exact ih h hrest
    · refine .bind (.call ?_)
      split
      · exact hgone
      · exact .bind (.say hgone)

/-- The second try is made only where the first has failed. -/
theorem mountDev_ends (h : Orderly states w) (htable : HasTable w.machine) :
    (mountDev : Setup HostError (Watched σ) Unit).Ends w
      (fun _ w' => Provided states (IsMadeFor "/dev") "/dev" w w')
      (fun e w' => FailsAt states (fun d => IsMadeFor d.target) [] devFallback e w w' ∧
        TriedBefore (fun call => ∃ e', BlamedOn devMount call e') w w') := by
  have hfirst := mandatory_new devMount (by decide)
  have hsecond := mandatory_new devFallback (by decide)
  have hfor : ∀ call, IsFor devMount call → IsMadeFor "/dev" call :=
    IsFor.isMadeFor (c := devMount) (by decide)
  have hfor' : ∀ call, IsFor devFallback call → IsMadeFor "/dev" call :=
    IsFor.isMadeFor (c := devFallback) (by decide)
  rw [mountDev]
  refine .bind (.attempt ((mountOne_ends hrules h hfirst (.inl htable)).mono ?_ ?_))
  · rintro _ w' ⟨honward, hlisted, hsame⟩
    exact .pure ⟨honward.mono hfor, hlisted, hsame⟩
  · rintro e w₁ ⟨hstill, hunlisted, hlatest⟩
    have hnew : ¬ Lists w.machine "/dev" := fun hl => hunlisted (hstill.keeps.lists_iff.mpr hl)
    have honward := hstill.toOnward.mono hfor
    have hretried := mountOne_ends hrules hstill.orderly hsecond
      (.inl (hstill.keeps.hasTable htable))
    refine .bind (.say (.bind (hretried.mono ?_ ?_)))
    · rintro _ w₂ ⟨honward₂, hlisted, -⟩
      refine (makeDevices_ends hrules honward₂.orderly fun _ => id).mono ?_ fun _ _ => False.elim
      intro _ w' hdevices
      have hdevices' := hdevices.toOnward.mono IsForDevices.isMadeFor
      exact ⟨honward.trans ((honward₂.mono hfor').trans hdevices'), hdevices'.lists _ hlisted,
        fun hl => absurd hl hnew⟩
    · rintro e' w' ⟨hstill', hunlisted', hlatest'⟩
      refine ⟨⟨?_, List.forall_mem_nil _, hunlisted', hlatest'.after honward⟩, ?_⟩
      · refine (honward.trans (hstill'.toOnward.mono hfor')).mono fun call hcall => ?_
        exact ⟨devFallback, List.mem_singleton_self _, hcall⟩
      · exact (hlatest.mono fun _ hblamed => ⟨e, hblamed⟩).tried hlatest'

end

/-! ## The table of file systems -/

omit [Files σ] in
/-- The columns of the table are words, so the mount table can show every entry. -/
theorem entryCall_plain {content : String} {entry : FstabEntry}
    (h : entry ∈ Fstab.bootEntries content) (remount : Bool) :
    (entryCall entry remount).IsPlain := by
  obtain ⟨line, -, hline⟩ := List.mem_filterMap.mp (List.mem_filter.mp h).1
  have hproper := (FstabEntry.ofLine?_eq_some_iff.mp hline).isProper
  exact ⟨hproper.source, hproper.mountPoint, hproper.fstype⟩

/-- The call mounts an entry of a table of file systems. -/
def IsEntry (call : FileCall) : Prop :=
  ∃ content, ∃ entry ∈ Fstab.bootEntries content, ∃ remount, IsMount (entryCall entry remount) call

section

variable (hrules : MountRules states)

include hrules

/-- An entry is remounted exactly where its mount point is listed. -/
theorem mountEntry_ends {content : String} {entry : FstabEntry} (h : Orderly states w)
    (htable : HasTable w.machine) (hentry : entry ∈ Fstab.bootEntries content) :
    (mountEntry entry : Setup HostError (Watched σ) Unit).Ends w
      (fun _ w' => Onward states IsEntry w w') (fun _ _ => False) := by
  have hlisted := h.isMountPoint_iff (p := entry.mountPoint) (.inl htable)
  have hunlisted : isMountPoint entry.mountPoint w = false →
      ¬ Lists w.machine entry.mountPoint := by
    intro hnot hl
    cases (hlisted.mpr hl).symm.trans hnot
  have hcalled : (callMount (entryCall entry (isMountPoint entry.mountPoint w)) :
      Setup HostError (Watched σ) (Except Errno Unit)).Ends w
      (fun _ w' => Onward states IsEntry w w') (fun _ _ => False) := by
    refine (callMount_ends hrules h (entryCall_plain hentry _) (.inl htable) hunlisted).mono ?_
      fun _ _ => id
    rintro (e | ⟨⟨⟩⟩) w' hw'
    · obtain ⟨hstill, -⟩ := hw'
      exact hstill.toOnward.mono fun call hcall => ⟨content, entry, hentry, _, hcall⟩
    · obtain ⟨honward, -⟩ := hw'
      exact honward.mono fun call hcall => ⟨content, entry, hentry, _, hcall⟩
  rw [mountEntry]
  refine .bind (.ask ?_)
  split
  · refine .bind (.say (.bind (hcalled.mono (fun r w' honward => ?_) fun _ _ => False.elim)))
    split
    · exact .say honward
    · exact .say honward
  · refine .bind (hcalled.mono (fun r w' honward => ?_) fun _ _ => False.elim)
    split
    · exact .say honward
    · exact .say honward

theorem mountEntries_ends {content : String} {entries : List FstabEntry} (h : Orderly states w)
    (hproc : Lists w.machine "/proc") (hentries : ∀ e ∈ entries, e ∈ Fstab.bootEntries content) :
    (mountEntries entries : Setup HostError (Watched σ) Unit).Ends w
      (fun _ w' => Onward states IsEntry w w') (fun _ _ => False) := by
  induction entries generalizing w with
  | nil => exact .pure (.refl h)
  | cons entry entries ih =>
    obtain ⟨hentry, hrest⟩ := List.forall_mem_cons.mp hentries
    rw [mountEntries]
    refine .bind ((mountEntry_ends hrules h (h.hasTable hproc) hentry).mono ?_ fun _ _ => id)
    intro _ w₁ honward
    have hproc₁ := honward.lists _ hproc
    exact (ih honward.orderly hproc₁ hrest).mono (fun _ _ => honward.trans) fun _ _ => id

theorem mountFstab_ends (h : Orderly states w) (hproc : Lists w.machine "/proc") :
    (mountFstab : Setup HostError (Watched σ) Unit).Ends w
      (fun _ w' => Onward states IsEntry w w') (fun _ _ => False) := by
  rw [mountFstab]
  refine .bind (.say (.bind (.ask ?_)))
  split
  · exact mountEntries_ends hrules h hproc fun _ => id
  · exact .say (.refl h)

end

/-! ## Everything -/

/-- What comes before the table of file systems. -/
def mountBasics : Setup HostError σ Unit := do
  say .mountingBasics
  mountEach kernelMounts
  mountDev
  makeLinks deviceLinks
  mountEach runtimeMounts

theorem mountAll_eq : (mountAll : Setup HostError σ Unit) = mountBasics >>= fun _ => mountFstab := by
  simp only [mountAll, mountBasics, bind_assoc]

section

variable (hrules : MountRules states)

include hrules

/-- The second half, once the device directory is there. -/
theorem mountRuntime_ends {w₀ : Watched σ} (h : Orderly states w)
    (honward : Onward states
      (fun call => ∃ d ∈ kernelMounts ++ [devFallback], IsMadeFor d.target call) w₀ w)
    (hlisted : ∀ c ∈ kernelMounts ++ [devFallback], Lists w.machine c.target) :
    (mountEach runtimeMounts : Setup HostError (Watched σ) Unit).Ends w
      (fun _ w' => Orderly states w' ∧ (∀ c ∈ decisiveMounts, Lists w'.machine c.target) ∧
        ((∀ c ∈ runtimeMounts, Lists w.machine c.target) → w' = w))
      (fun e w' => ∃ done c rest, decisiveMounts = done ++ c :: rest ∧
        FailsAt states (fun d => IsMadeFor d.target) done c e w₀ w' ∧ c ≠ devFallback) := by
  have hmandatory : ∀ c ∈ runtimeMounts, c ∈ mandatoryMounts := by decide
  have hproc : Lists w.machine "/proc" := hlisted _ List.mem_cons_self
  have hnew : ∀ c ∈ runtimeMounts, IsNewMount c := fun c hc => mandatory_new c (hmandatory c hc)
  refine (mountEach_ends hrules h hnew (.inl (h.hasTable hproc))).mono ?_ ?_
  · rintro _ w' ⟨honward', hruntime, hsame⟩
    refine ⟨honward'.orderly, fun c hc => ?_, hsame⟩
    rw [decisiveMounts, List.append_cons] at hc
    rcases List.mem_append.mp hc with hc | hc
    · exact honward'.lists _ (hlisted c hc)
    · exact hruntime c hc
  · rintro e w' ⟨done, c, rest, hsplit, hfails⟩
    have hmem := mem_of_split hsplit
    refine ⟨(kernelMounts ++ [devFallback]) ++ done, c, rest, ?_, ?_, ?_⟩
    · rw [decisiveMounts, hsplit, List.append_cons, List.append_assoc _ done]
    · refine FailsAt.after (hfails.mono fun d hd => IsFor.isMadeFor ?_) honward hlisted
      exact hmandatory d (hmem d hd)
    · rintro rfl
      exact absurd (hmem devFallback (by simp)) (by decide)

/-- The basics succeed with all mandatory file systems listed, or they fail at the first that could
not be mounted. Where they were all listed before, nothing is made but links. -/
theorem mountBasics_ends (h : Orderly states w) :
    (mountBasics : Setup HostError (Watched σ) Unit).Ends w
      (fun _ w' => Orderly states w' ∧ (∀ c ∈ decisiveMounts, Lists w'.machine c.target) ∧
        ((∀ c ∈ decisiveMounts, Lists w.machine c.target) →
          Onward states (IsLink deviceLinks) w w'))
      (fun e w' => ∃ done c rest, decisiveMounts = done ++ c :: rest ∧
        FailsAt states (fun d => IsMadeFor d.target) done c e w w' ∧
        (c = devFallback → TriedBefore (fun call => ∃ e', BlamedOn devMount call e') w w')) := by
  have hmandatory : ∀ c ∈ kernelMounts, c ∈ mandatoryMounts := by decide
  have hnew : ∀ c ∈ kernelMounts, IsNewMount c := fun c hc => mandatory_new c (hmandatory c hc)
  have hfirst : HasTable w.machine ∨ ∀ c ∈ kernelMounts.head?, c.target = "/proc" :=
    .inr (by decide)
  rw [mountBasics]
  refine .bind (.say (.bind ((mountEach_ends hrules h hnew hfirst).mono ?_ ?_)))
  · rintro _ w₁ ⟨hkernel, hlisted₁, hsame₁⟩
    have honward₁ : Onward states (fun call => ∃ d ∈ kernelMounts, IsMadeFor d.target call) w w₁ :=
      hkernel.mono fun call ⟨d, hd, hcall⟩ => ⟨d, hd, IsFor.isMadeFor (hmandatory d hd) call hcall⟩
    have htable₁ := honward₁.orderly.hasTable (hlisted₁ _ List.mem_cons_self)
    refine .bind ((mountDev_ends hrules honward₁.orderly htable₁).mono ?_ ?_)
    · rintro _ w₂ ⟨hdev, hlisted₂, hsame₂⟩
      refine .bind ((makeLinks_ends hrules hdev.orderly fun _ => id).mono ?_ fun _ _ => False.elim)
      intro _ w₃ hlinks
      have hlinks' := hlinks.toOnward.mono IsLink.isMadeFor
      have hdev' : Onward states
          (fun call => ∃ d ∈ kernelMounts ++ [devFallback], IsMadeFor d.target call) w w₃ := by
        refine (honward₁.mono ?_).trans ((hdev.trans hlinks').mono ?_)
        · exact fun call ⟨d, hd, hcall⟩ => ⟨d, List.mem_append_left _ hd, hcall⟩
        · exact fun call hcall => ⟨devFallback, by simp, hcall⟩
      have hlisted₃ : ∀ c ∈ kernelMounts ++ [devFallback], Lists w₃.machine c.target := by
        intro c hc
        refine hlinks.lists _ ?_
        rcases List.mem_append.mp hc with hc | hc
        · exact hdev.lists _ (hlisted₁ c hc)
        · exact List.mem_singleton.mp hc ▸ hlisted₂
      refine (mountRuntime_ends hrules hlinks.orderly hdev' hlisted₃).mono ?_ ?_
      · rintro _ w' ⟨horderly, hlisted, hsame₃⟩
        refine ⟨horderly, hlisted, fun hall => ?_⟩
        obtain rfl := hsame₁ fun c hc => hall c (List.mem_append_left _ hc)
        obtain rfl := hsame₂ (hall devFallback (by decide))
        have hruntime : ∀ c ∈ runtimeMounts, Lists w₃.machine c.target := fun c hc =>
          hlinks.lists _ (hall c (List.mem_append_right _ (List.mem_cons_of_mem _ hc)))
        obtain rfl := hsame₃ hruntime
        exact hlinks.toOnward
      · rintro e w' ⟨done, c, rest, hsplit, hfails, hne⟩
        exact ⟨done, c, rest, hsplit, hfails, fun heq => absurd heq hne⟩
    · rintro e w' ⟨hfails, htried⟩
      exact ⟨kernelMounts ++ [], devFallback, runtimeMounts, rfl, hfails.after honward₁ hlisted₁,
        fun _ => htried.after honward₁⟩
  · rintro e w' ⟨done, c, rest, hsplit, hfails⟩
    have hmem := mem_of_split hsplit
    refine ⟨done, c, rest ++ devFallback :: runtimeMounts, ?_, ?_, ?_⟩
    · rw [decisiveMounts, hsplit, List.append_assoc, List.cons_append]
    · exact hfails.mono fun d hd => IsFor.isMadeFor (hmandatory d (hmem d hd))
    · rintro rfl
      exact absurd (hmem devFallback (by simp)) (by decide)

/-- The whole fails just as the basics do. Where these were there before, nothing is made but links
and entries of the table. -/
theorem mountAll_ends (h : Orderly states w) :
    (mountAll : Setup HostError (Watched σ) Unit).Ends w
      (fun _ w' => Orderly states w' ∧ (∀ c ∈ decisiveMounts, Lists w'.machine c.target) ∧
        ((∀ c ∈ decisiveMounts, Lists w.machine c.target) →
          Onward states (fun call => IsLink deviceLinks call ∨ IsEntry call) w w'))
      (fun e w' => ∃ done c rest, decisiveMounts = done ++ c :: rest ∧
        FailsAt states (fun d => IsMadeFor d.target) done c e w w' ∧
        (c = devFallback → TriedBefore (fun call => ∃ e', BlamedOn devMount call e') w w')) := by
  rw [mountAll_eq]
  refine .bind ((mountBasics_ends hrules h).mono ?_ fun _ _ => id)
  rintro _ w₁ ⟨horderly, hlisted, hlinks⟩
  have hproc : Lists w₁.machine "/proc" := hlisted _ List.mem_cons_self
  refine (mountFstab_ends hrules horderly hproc).mono ?_ fun _ _ => False.elim
  intro _ w' hentries
  refine ⟨hentries.orderly, fun c hc => hentries.lists _ (hlisted c hc), fun hall => ?_⟩
  exact ((hlinks hall).mono fun _ => .inl).trans (hentries.mono fun _ => .inr)

end

end InitDaemon.Host
