import InitDaemon.Host.Mount
import InitDaemon.Host.Network
import InitDaemon.Process.Kernel

/-!
# Platforms

What the init runs on: the process calls and the setup steps of a machine, with the time at which
each is made. Any machine with the calls of `Kernel` and `Files` is a platform.
-/

namespace InitDaemon

/-- A setup step that a built-in unit performs. -/
inductive HostStep
  | mountAll
  | startNetwork
  | setHostname
  | ensureDirectory (path : String)
deriving DecidableEq, Repr, Inhabited

class Platform (σ : Type) where
  spawn : Nat → List String → List String → σ → Except SpawnError Pid × σ
  /-- Collects a child that has ended: none if there is no such child yet. -/
  tryWaitAny : Nat → σ → Except Errno (Option (Pid × ExitStatus)) × σ
  waitBlocking : Nat → Pid → σ → Blocking (Except Errno ExitStatus) × σ
  signalAll : Nat → ShutdownSignal → σ → Except Errno Unit × σ
  sync : Nat → σ → σ
  reboot : Nat → PowerState → σ → Except Errno Unit × σ
  host : Nat → HostStep → σ → (Except HostError Unit × List Notice) × σ
  isExecutable : String → σ → Bool

/-- A machine that is driven by its own calls. -/
structure Direct (σ : Type) where
  machine : σ

namespace Direct

variable {σ : Type}

def lift {α : Type} (f : σ → α × σ) (d : Direct σ) : α × Direct σ :=
  let (a, m) := f d.machine
  (a, ⟨m⟩)

def setup [Files σ] : HostStep → Host.Setup HostError σ Unit
  | .mountAll => Host.mountAll
  | .startNetwork => Host.startNetwork
  | .setHostname => Host.setHostname
  | .ensureDirectory path => Host.ensureDirectory path

/-- Performs a setup step from a silent start. -/
def perform [Files σ] (step : HostStep) (m : σ) : (Except HostError Unit × List Notice) × σ :=
  match setup step { machine := m } with
  | .ok () c => ((.ok (), c.notices), c.machine)
  | .error e c => ((.error e, c.notices), c.machine)

instance [Files σ] [Kernel σ] : Platform (Direct σ) where
  spawn t argv env := lift fun m => Kernel.spawn argv env (Kernel.setTime t m)
  tryWaitAny t := lift fun m => Kernel.tryWaitAny (Kernel.setTime t m)
  waitBlocking t pid := lift fun m => Kernel.waitBlocking pid (Kernel.setTime t m)
  signalAll t signal := lift fun m => Kernel.signalAll signal (Kernel.setTime t m)
  sync t d := ⟨Kernel.sync (Kernel.setTime t d.machine)⟩
  reboot t state := lift fun m => Kernel.reboot state (Kernel.setTime t m)
  host t step := lift fun m => perform step (Kernel.setTime t m)
  isExecutable path d := Host.isExecutable path d.machine

end Direct

end InitDaemon
