import InitDaemon.Proofs.Host.Naturality

/-!
# Watched machines

A machine can keep the calls that change its files, each with its answer and the state in which it
was made. It does what it does unwatched. What a setup step comes to on a machine is told step by
step, whether it fails or not.
-/

namespace InitDaemon

/-- A call that changes files, with its answer. -/
inductive FileCall
  | makeDirectory (path : String) (answer : Except Errno Unit)
  | mount (m : MountCall) (answer : Except Errno Unit)
  | makeNode (node : DeviceNode) (answer : Except Errno Unit)
  | makeLink (target link : String) (answer : Except Errno Unit)

/-- A call and the machine as it was when the call was made. -/
structure SeenCall (σ : Type) where
  before : σ
  call : FileCall

structure Watched (σ : Type) where
  machine : σ
  /-- The latest call first. -/
  calls : List (SeenCall σ) := []

namespace Watched

variable {σ : Type}

def record (w : Watched σ) (call : Except Errno Unit → FileCall) (r : Except Errno Unit × σ) :
    Except Errno Unit × Watched σ :=
  (r.1, ⟨r.2, ⟨w.machine, call r.1⟩ :: w.calls⟩)

def pass {α : Type} (w : Watched σ) (r : α × σ) : α × Watched σ :=
  (r.1, ⟨r.2, w.calls⟩)

instance [Files σ] : Files (Watched σ) where
  readText path w := Files.readText path w.machine
  present path w := Files.present path w.machine
  isDirectory path w := Files.isDirectory path w.machine
  device? path w := Files.device? path w.machine
  isExecutable path w := Files.isExecutable path w.machine
  makeDirectory path w := w.record (.makeDirectory path) (Files.makeDirectory path w.machine)
  mount m w := w.record (.mount m) (Files.mount m w.machine)
  makeNode node w := w.record (.makeNode node) (Files.makeNode node w.machine)
  makeLink target link w := w.record (.makeLink target link) (Files.makeLink target link w.machine)
  setHostname name w := w.pass (Files.setHostname name w.machine)
  run program argv env w := w.pass (Files.run program argv env w.machine)

theorem hom_machine [Files σ] : Files.Hom (machine : Watched σ → σ) := by
  constructor
  all_goals intros; rfl

end Watched

namespace Host

variable {ε ε' σ α β : Type}

/-- Whatever was said before, the step leaves the machine as `ok` says of its result or, if it
fails, as `error` says of the failure. -/
def Setup.Ends (step : Setup ε σ α) (m : σ) (ok : α → σ → Prop) (error : ε → σ → Prop) : Prop :=
  ∀ notices, match step ⟨m, notices⟩ with
    | .ok a c => ok a c.machine
    | .error e c => error e c.machine

namespace Setup.Ends

variable {m : σ} {ok ok' : α → σ → Prop} {error error' : ε → σ → Prop} {step : Setup ε σ α}

theorem mono (h : step.Ends m ok error) (hok : ∀ a m', ok a m' → ok' a m')
    (herror : ∀ e m', error e m' → error' e m') : step.Ends m ok' error' := by
  intro notices
  have hstep := h notices
  split at hstep
  · exact hok _ _ hstep
  · exact herror _ _ hstep

theorem pure {a : α} (h : ok a m) : Ends (pure a : Setup ε σ α) m ok error :=
  fun _ => h

theorem throw {e : ε} (h : error e m) : Ends (throw e : Setup ε σ α) m ok error :=
  fun _ => h

theorem say {n : Notice} {ok : Unit → σ → Prop} (h : ok () m) :
    Ends (say n : Setup ε σ Unit) m ok error :=
  fun _ => h

theorem ask {query : σ → α} (h : ok (query m) m) : Ends (ask query : Setup ε σ α) m ok error :=
  fun _ => h

theorem call {f : σ → α × σ} (h : ok (f m).1 (f m).2) :
    Ends (call f : Setup ε σ α) m ok error :=
  fun _ => h

theorem bind {next : α → Setup ε σ β} {ok : β → σ → Prop}
    (h : step.Ends m (fun a m' => (next a).Ends m' ok error) error) :
    (step >>= next).Ends m ok error := by
  intro notices
  have hstep := h notices
  cases heq : step ⟨m, notices⟩ with
  | ok a c =>
    rw [heq] at hstep
    rw [bind_of_ok heq]
    exact hstep c.notices
  | error e c =>
    rw [heq] at hstep
    rw [bind_of_error heq]
    exact hstep

theorem adaptExcept {f : ε → ε'} {error : ε' → σ → Prop}
    (h : step.Ends m ok fun e m' => error (f e) m') :
    Ends (EStateM.adaptExcept f step) m ok error := by
  intro notices
  have hstep := h notices
  rw [EStateM.adaptExcept]
  cases heq : step ⟨m, notices⟩ with
  | ok a c =>
    rw [heq] at hstep
    exact hstep
  | error e c =>
    rw [heq] at hstep
    exact hstep

theorem attempt {step : Setup HostError σ Unit} {ok : Except HostError Unit → σ → Prop}
    (h : step.Ends m (fun _ m' => ok (.ok ()) m') fun e m' => ok (.error e) m') :
    Ends (attempt step) m ok error := by
  intro notices
  have hstep := h notices
  rw [Host.attempt]
  cases heq : step ⟨m, notices⟩ with
  | ok a c =>
    rw [heq] at hstep
    exact hstep
  | error e c =>
    rw [heq] at hstep
    exact hstep

end Setup.Ends

end Host

/-- What is known of a setup step is known of its performance. -/
theorem Direct.perform_ends {σ : Type} [Files σ] (step : HostStep) {m : σ} {ok : Unit → σ → Prop}
    {error : HostError → σ → Prop}
    (h : (setup step : Host.Setup HostError σ Unit).Ends m ok error) :
    ((perform step m).1.1 = .ok () ∧ ok () (perform step m).2) ∨
      ∃ e, (perform step m).1.1 = .error e ∧ error e (perform step m).2 := by
  have hstep := h []
  rw [perform]
  split at hstep
  next heq =>
    rw [heq]
    exact .inl ⟨rfl, hstep⟩
  next e c heq =>
    rw [heq]
    exact .inr ⟨e, rfl, hstep⟩

end InitDaemon
