import InitDaemon.Failure
import InitDaemon.Power
import InitDaemon.Process.WaitStatus

/-!
# Kernel calls for processes

What the init asks of the kernel, for any type of kernel states, and the two ways to wait for
children on top of it. Waiting passes over stops and continuations.
-/

namespace InitDaemon

/-- A call that may block: it never comes back, or it does so at some time. -/
inductive Blocking (α : Type)
  | never
  | at (time : Nat) (answer : α)
deriving Repr

class Kernel (σ : Type) where
  setTime : Nat → σ → σ
  /-- Starts a process with its arguments and environment, and gives its number. -/
  fork : List String → List String → σ → Except Errno Pid × σ
  /-- Looks for a child that has changed its state, without blocking. -/
  waitAny : σ → Except Errno WaitAnswer × σ
  /-- Blocks until the given child changes its state. -/
  waitFor : Pid → σ → Blocking (Except Errno WaitAnswer) × σ
  signalAll : ShutdownSignal → σ → Except Errno Unit × σ
  sync : σ → σ
  /-- Comes back only if it fails. -/
  reboot : PowerState → σ → Except Errno Unit × σ
  /-- A bound on the number of answers about children that are due. -/
  backlog : σ → Nat
  backlog_waitAny : ∀ s a s', waitAny s = (.ok a, s') → a.pid ≠ 0 → backlog s' < backlog s
  backlog_waitFor : ∀ pid s t r s', waitFor pid s = (.at t r, s') →
    (r = .error .EINTR ∨ ∃ a, r = .ok a) → backlog s' < backlog s

namespace Kernel

variable {σ : Type} [Kernel σ]

/-- Starts a program; a string with a NUL cannot be handed over. -/
def spawn (argv env : List String) (s : σ) : Except SpawnError Pid × σ :=
  if argv.isEmpty then (.error .emptyCommand, s)
  else match rejectNul (argv ++ env) with
    | .error e => (.error e, s)
    | .ok () =>
      let (r, s) := fork argv env s
      (r.mapError .fork, s)

def tryWaitAny (s : σ) : Except Errno (Option (Pid × ExitStatus)) × σ :=
  match h : waitAny s with
  | (.error e, s') => (.error e, s')
  | (.ok a, s') =>
    match hc : a.change with
    | .error e => (.error e, s')
    | .ok .unchanged => (.ok none, s')
    | .ok (.ended pid status) => (.ok (some (pid, status)), s')
    | .ok (.stopped _) | .ok (.continued _) =>
      have : backlog s' < backlog s := backlog_waitAny s a s' h (by
        intro h0
        simp [WaitAnswer.change, h0] at hc)
      tryWaitAny s'
termination_by backlog s

/-- Blocks until a child has ended. An interrupted call is made again. -/
def waitBlocking (pid : Pid) (s : σ) : Blocking (Except Errno ExitStatus) × σ :=
  match h : waitFor pid s with
  | (.never, s') => (.never, s')
  | (.at _ (.error .EINTR), s') =>
    have : backlog s' < backlog s := backlog_waitFor pid s _ _ s' h (.inl rfl)
    waitBlocking pid s'
  | (.at t (.error e), s') => (.at t (.error e), s')
  | (.at t (.ok a), s') =>
    match a.change with
    | .error e => (.at t (.error e), s')
    | .ok (.ended _ status) => (.at t (.ok status), s')
    | .ok _ =>
      have : backlog s' < backlog s := backlog_waitFor pid s _ _ s' h (.inr ⟨a, rfl⟩)
      waitBlocking pid s'
termination_by backlog s

end Kernel

end InitDaemon
