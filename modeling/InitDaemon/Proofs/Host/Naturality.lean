import InitDaemon.Proofs.Process.Deeds

/-!
# Setup steps and maps of machines

A setup step knows of a machine only what its calls answer. So a map between machines that keeps
the answers keeps the whole step: it ends the same way with the same notices, all of them about
setup itself.
-/

namespace InitDaemon

open Host

/-- The image of a machine answers as the machine does, and stays its image. -/
structure Files.Hom {σ τ : Type} [Files σ] [Files τ] (f : σ → τ) : Prop where
  readText : ∀ path m, Files.readText path (f m) = Files.readText path m
  present : ∀ path m, Files.present path (f m) = Files.present path m
  isDirectory : ∀ path m, Files.isDirectory path (f m) = Files.isDirectory path m
  device? : ∀ path m, Files.device? path (f m) = Files.device? path m
  isExecutable : ∀ path m, Files.isExecutable path (f m) = Files.isExecutable path m
  makeDirectory : ∀ path m, Files.makeDirectory path (f m) = (Files.makeDirectory path m).map id f
  mount : ∀ c m, Files.mount c (f m) = (Files.mount c m).map id f
  makeNode : ∀ node m, Files.makeNode node (f m) = (Files.makeNode node m).map id f
  makeLink : ∀ target link m,
    Files.makeLink target link (f m) = (Files.makeLink target link m).map id f
  setHostname : ∀ name m, Files.setHostname name (f m) = (Files.setHostname name m).map id f
  run : ∀ program argv env m,
    Files.run program argv env (f m) = (Files.run program argv env m).map id f

theorem Files.Hom.id {σ : Type} [Files σ] : Files.Hom (fun m : σ => m) := by
  constructor
  all_goals intros; rfl

namespace Host

open Setup

variable {ε ε' σ τ α β : Type}

def Console.map (f : σ → τ) (c : Console σ) : Console τ :=
  ⟨f c.machine, c.notices⟩

def Console.IsPreparatory (c : Console σ) : Prop :=
  ∀ n ∈ c.notices, n.IsPreparatory

namespace Setup

theorem bind_of_ok {step : Setup ε σ α} {next : α → Setup ε σ β} {c c' : Console σ} {a : α}
    (h : step c = .ok a c') : (step >>= next) c = next a c' := by
  change EStateM.bind step next c = _
  rw [EStateM.bind, h]

theorem bind_of_error {step : Setup ε σ α} {next : α → Setup ε σ β} {c c' : Console σ} {e : ε}
    (h : step c = .error e c') : (step >>= next) c = .error e c' := by
  change EStateM.bind step next c = _
  rw [EStateM.bind, h]

def mapResult (f : σ → τ) :
    EStateM.Result ε (Console σ) α → EStateM.Result ε (Console τ) α
  | .ok a c => .ok a (c.map f)
  | .error e c => .error e (c.map f)

def after (r : EStateM.Result ε (Console σ) α) : Console σ :=
  match r with
  | .ok _ c | .error _ c => c

/-- The second step does on the image of a machine what the first does on the machine, which says
nothing but what is preparatory. -/
def Agrees (f : σ → τ) (step : Setup ε σ α) (step' : Setup ε τ α) : Prop :=
  ∀ c : Console σ, c.IsPreparatory →
    step' (c.map f) = mapResult f (step c) ∧ (after (step c)).IsPreparatory

namespace Agrees

variable {f : σ → τ} {step : Setup ε σ α} {step' : Setup ε τ α}

theorem pure (a : α) : Agrees f (pure a : Setup ε σ α) (pure a) :=
  fun _ hc => ⟨rfl, hc⟩

theorem throw (e : ε) : Agrees f (throw e : Setup ε σ α) (throw e) :=
  fun _ hc => ⟨rfl, hc⟩

theorem say {n : Notice} (hn : n.IsPreparatory) : Agrees f (say n : Setup ε σ Unit) (say n) := by
  intro c hc
  refine ⟨rfl, fun n' hn' => ?_⟩
  rcases List.mem_append.mp hn' with hold | hnew
  · exact hc n' hold
  · cases List.mem_singleton.mp hnew
    exact hn

theorem ask {query : σ → α} {query' : τ → α} (h : ∀ m, query' (f m) = query m) :
    Agrees f (ask query : Setup ε σ α) (ask query') := by
  intro c hc
  refine ⟨?_, hc⟩
  change EStateM.Result.ok (query' (f c.machine)) (c.map f) = .ok (query c.machine) (c.map f)
  rw [h]

theorem call {g : σ → α × σ} {g' : τ → α × τ} (h : ∀ m, g' (f m) = (g m).map id f) :
    Agrees f (call g : Setup ε σ α) (call g') := by
  intro c hc
  refine ⟨?_, hc⟩
  change EStateM.Result.ok (g' (f c.machine)).1 (⟨(g' (f c.machine)).2, c.notices⟩ : Console τ) = _
  rw [h]
  rfl

theorem bind {next : α → Setup ε σ β} {next' : α → Setup ε τ β} (hs : Agrees f step step')
    (hnext : ∀ a, Agrees f (next a) (next' a)) : Agrees f (step >>= next) (step' >>= next') := by
  intro c hc
  obtain ⟨heq, hafter⟩ := hs c hc
  cases hstep : step c with
  | ok a c' =>
    rw [hstep] at heq hafter
    rw [bind_of_ok heq, bind_of_ok hstep]
    exact hnext a c' hafter
  | error e c' =>
    rw [hstep] at heq hafter
    rw [bind_of_error heq, bind_of_error hstep]
    exact ⟨rfl, hafter⟩

theorem adaptExcept (hs : Agrees f step step') (g : ε → ε') :
    Agrees f (EStateM.adaptExcept g step) (EStateM.adaptExcept g step') := by
  intro c hc
  obtain ⟨heq, hafter⟩ := hs c hc
  rw [EStateM.adaptExcept, EStateM.adaptExcept, heq]
  cases hstep : step c with
  | ok a c' =>
    rw [hstep] at hafter
    exact ⟨rfl, hafter⟩
  | error e c' =>
    rw [hstep] at hafter
    exact ⟨rfl, hafter⟩

theorem attempt {step : Setup HostError σ Unit} {step' : Setup HostError τ Unit}
    (hs : Agrees f step step') :
    Agrees f (attempt step : Setup ε σ (Except HostError Unit)) (attempt step') := by
  intro c hc
  obtain ⟨heq, hafter⟩ := hs c hc
  rw [Host.attempt, Host.attempt, heq]
  cases hstep : step c with
  | ok a c' =>
    rw [hstep] at hafter
    exact ⟨rfl, hafter⟩
  | error e c' =>
    rw [hstep] at hafter
    exact ⟨rfl, hafter⟩

end Agrees

end Setup

section

variable [Files σ] [Files τ] {f : σ → τ} (hf : Files.Hom f)

include hf

/-! ## Directories -/

theorem agrees_alreadyThere (path : String) (e : Errno) :
    Agrees f (alreadyThere path e : Setup ε σ Bool) (alreadyThere path e) := by
  rw [alreadyThere, alreadyThere]
  exact .bind (.ask (hf.isDirectory path)) fun _ => .pure _

theorem agrees_climb (paths : List String) :
    Agrees f (climb paths : Setup Errno σ (List String)) (climb paths) := by
  induction paths with
  | nil => exact .pure _
  | cons path paths ih =>
    rw [climb, climb]
    split
    · exact .pure _
    · refine .bind (.call (hf.makeDirectory path)) fun r => ?_
      split
      · exact .pure _
      · exact .bind ih fun _ => .pure _
      · refine .bind (agrees_alreadyThere hf _ _) fun there => ?_
        split
        · exact .pure _
        · exact .throw _

theorem agrees_makeDirectories (paths : List String) :
    Agrees f (makeDirectories paths : Setup Errno σ Unit) (makeDirectories paths) := by
  induction paths with
  | nil => exact .pure _
  | cons path paths ih =>
    rw [makeDirectories, makeDirectories]
    refine .bind (.call (hf.makeDirectory path)) fun r => ?_
    split
    · exact ih
    · refine .bind (agrees_alreadyThere hf _ _) fun there => ?_
      split
      · exact ih
      · exact .throw _

theorem agrees_makeAll (path : String) :
    Agrees f (makeAll path : Setup DirectoryError σ Unit) (makeAll path) := by
  have hmade : Agrees f
      (do makeDirectories (← climb (Path.ancestors path)) : Setup Errno σ Unit)
      (do makeDirectories (← climb (Path.ancestors path))) :=
    .bind (agrees_climb hf _) (agrees_makeDirectories hf)
  rw [makeAll, makeAll]
  split
  · exact .bind (.throw _) fun _ => hmade.adaptExcept _
  · exact hmade.adaptExcept _

theorem agrees_ensureDirectory (path : String) :
    Agrees f (ensureDirectory path : Setup HostError σ Unit) (ensureDirectory path) :=
  (agrees_makeAll hf path).adaptExcept _

/-! ## File systems -/

theorem isMountPoint_map (path : String) (m : σ) :
    isMountPoint path (f m) = isMountPoint path m := by
  simp only [isMountPoint, hf.readText, hf.device?]

theorem agrees_callMount (m : MountCall) :
    Agrees f (callMount m : Setup ε σ (Except Errno Unit)) (callMount m) := by
  rw [callMount, callMount]
  split
  · exact .pure _
  · exact .call (hf.mount m)

theorem agrees_mountOne (m : MountCall) :
    Agrees f (mountOne m : Setup HostError σ Unit) (mountOne m) := by
  rw [mountOne, mountOne]
  refine .bind (.ask (isMountPoint_map hf _)) fun mounted => ?_
  split
  · exact .say trivial
  · refine .bind (.ask (hf.present _)) fun present => ?_
    -- With the mount point or without, the call comes last.
    split
    · refine .bind (agrees_callMount hf m) fun r => ?_
      split
      · exact .say trivial
      · exact .throw _
    · refine .bind ((agrees_makeAll hf _).adaptExcept _) fun _ => ?_
      refine .bind (agrees_callMount hf m) fun r => ?_
      split
      · exact .say trivial
      · exact .throw _

theorem agrees_mountEach (mounts : List MountCall) :
    Agrees f (mountEach mounts : Setup HostError σ Unit) (mountEach mounts) := by
  induction mounts with
  | nil => exact .pure _
  | cons m mounts ih => exact .bind (agrees_mountOne hf m) fun _ => ih

theorem agrees_makeDevice (node : DeviceNode) :
    Agrees f (makeDevice node : Setup HostError σ Unit) (makeDevice node) := by
  rw [makeDevice, makeDevice]
  split
  · refine .bind (agrees_ensureDirectory hf _).attempt fun _ => ?_
    refine .bind (.call (hf.makeNode node)) fun r => ?_
    split
    · exact .pure _
    · exact .say trivial
  · refine .bind (.call (hf.makeNode node)) fun r => ?_
    split
    · exact .pure _
    · exact .say trivial

theorem agrees_makeDevices (nodes : List DeviceNode) :
    Agrees f (makeDevices nodes : Setup HostError σ Unit) (makeDevices nodes) := by
  induction nodes with
  | nil => exact .pure _
  | cons node nodes ih => exact .bind (agrees_makeDevice hf node) fun _ => ih

theorem agrees_mountDev : Agrees f (mountDev : Setup HostError σ Unit) mountDev := by
  rw [mountDev, mountDev]
  refine .bind (agrees_mountOne hf _).attempt fun r => ?_
  split
  · exact .pure _
  · refine .bind (.say trivial) fun _ => ?_
    exact .bind (agrees_mountOne hf _) fun _ => agrees_makeDevices hf _

theorem agrees_makeLinks (links : List (String × String)) :
    Agrees f (makeLinks links : Setup HostError σ Unit) (makeLinks links) := by
  induction links with
  | nil => exact .pure _
  | cons link links ih =>
    rw [makeLinks, makeLinks]
    refine .bind (.ask (hf.present _)) fun present => ?_
    split
    · exact ih
    · refine .bind (.call (hf.makeLink _ _)) fun r => ?_
      split
      · exact ih
      · exact .bind (.say trivial) fun _ => ih

theorem agrees_mountEntry (e : FstabEntry) :
    Agrees f (mountEntry e : Setup HostError σ Unit) (mountEntry e) := by
  rw [mountEntry, mountEntry]
  refine .bind (.ask (isMountPoint_map hf _)) fun remount => ?_
  split
  · refine .bind (.say trivial) fun _ => .bind (agrees_callMount hf _) fun r => ?_
    split
    · exact .say trivial
    · exact .say trivial
  · refine .bind (agrees_callMount hf _) fun r => ?_
    split
    · exact .say trivial
    · exact .say trivial

theorem agrees_mountEntries (entries : List FstabEntry) :
    Agrees f (mountEntries entries : Setup HostError σ Unit) (mountEntries entries) := by
  induction entries with
  | nil => exact .pure _
  | cons e entries ih => exact .bind (agrees_mountEntry hf e) fun _ => ih

theorem agrees_mountFstab : Agrees f (mountFstab : Setup HostError σ Unit) mountFstab := by
  refine .bind (.say trivial) fun _ => .bind (.ask (hf.readText _)) fun content => ?_
  split
  · exact agrees_mountEntries hf _
  · exact .say trivial

theorem agrees_mountAll : Agrees f (mountAll : Setup HostError σ Unit) mountAll := by
  refine .bind (.say trivial) fun _ => .bind (agrees_mountEach hf _) fun _ => ?_
  refine .bind (agrees_mountDev hf) fun _ => .bind (agrees_makeLinks hf _) fun _ => ?_
  exact .bind (agrees_mountEach hf _) fun _ => agrees_mountFstab hf

/-! ## Loopback and host name -/

theorem agrees_startNetwork : Agrees f (startNetwork : Setup HostError σ Unit) startNetwork := by
  have hprogram (m : σ) : (ipPaths.find? fun path => isExecutable path (f m)) =
      ipPaths.find? fun path => isExecutable path m := by
    simp only [isExecutable, hf.isExecutable]
  refine .bind (.say trivial) fun _ => .bind (.ask hprogram) fun ip => ?_
  split
  · exact .say trivial
  · refine .bind (.call (hf.run _ _ _)) fun r => ?_
    split
    · exact .throw _
    · split
      · exact .pure _
      · exact .throw _

theorem agrees_setHostname : Agrees f (setHostname : Setup HostError σ Unit) setHostname := by
  refine .bind (.ask (hf.readText _)) fun content => .bind (.say trivial) fun _ => ?_
  refine .bind (.call (hf.setHostname _)) fun r => ?_
  split
  · exact .pure _
  · exact .throw _

end

end Host

namespace Direct

variable {σ τ : Type} [Files σ] [Files τ] {f : σ → τ}

theorem agrees_setup (hf : Files.Hom f) (step : HostStep) :
    Setup.Agrees f (setup step : Setup HostError σ Unit) (setup step) := by
  cases step with
  | mountAll => exact agrees_mountAll hf
  | startNetwork => exact agrees_startNetwork hf
  | setHostname => exact agrees_setHostname hf
  | ensureDirectory path => exact agrees_ensureDirectory hf path

theorem perform_map (hf : Files.Hom f) (step : HostStep) (m : σ) :
    perform step (f m) = (perform step m).map id f := by
  obtain ⟨heq, -⟩ := agrees_setup hf step ⟨m, []⟩ (List.forall_mem_nil _)
  change setup step (⟨f m, []⟩ : Console τ) = _ at heq
  rw [perform, perform, heq]
  cases setup step (⟨m, []⟩ : Console σ) with
  | ok => rfl
  | error => rfl

end Direct

end InitDaemon
