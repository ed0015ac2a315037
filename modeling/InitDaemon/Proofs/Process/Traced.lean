import Mathlib.Control.Monad.Basic
import InitDaemon.Proofs.Process.Chores

/-!
# Traces of kernel calls

A machine can keep a trace of the kernel calls that are made to it, with their answers. It answers
as it does without one. Whatever is done with the process table makes none of the calls of a
shutdown.
-/

namespace InitDaemon

/-- A kernel call with its answer, of which there is none if the call never comes back. -/
inductive KernelCall
  | spawn (argv : List String) (answer : Except SpawnError Pid)
  | tryWaitAny (answer : Except Errno (Option (Pid × ExitStatus)))
  | waitBlocking (pid : Pid) (answer : Option (Except Errno ExitStatus))
  | signalAll (signal : ShutdownSignal) (answer : Except Errno Unit)
  | sync
  | reboot (state : PowerState) (answer : Except Errno Unit)
deriving DecidableEq

namespace KernelCall

/-- Whether it is one of the calls of a shutdown. -/
def isFinal : KernelCall → Bool
  | signalAll .. | sync | reboot .. => true
  | _ => false

def isReboot : KernelCall → Bool
  | reboot .. => true
  | _ => false

/-- Starts a process, or looks for one that has ended. -/
def IsRoutine : KernelCall → Prop
  | spawn .. | tryWaitAny _ => True
  | _ => False

theorem IsRoutine.isFinal {call : KernelCall} (h : call.IsRoutine) : call.isFinal = false := by
  cases call with
  | spawn | tryWaitAny => rfl
  | _ => exact h.elim

end KernelCall

structure TimedCall where
  time : Nat
  call : KernelCall
deriving DecidableEq

structure Traced (σ : Type) where
  machine : σ
  /-- The latest call first. -/
  calls : List TimedCall := []

namespace Traced

variable {σ : Type}

def record {α : Type} (time : Nat) (calls : List TimedCall) (call : α → KernelCall) (r : α × σ) :
    α × Traced σ :=
  (r.1, ⟨r.2, ⟨time, call r.1⟩ :: calls⟩)

def answerOf {α : Type} : Blocking α → Option α
  | .never => none
  | .at _ answer => some answer

instance [Platform σ] : Platform (Traced σ) where
  spawn t argv env m := record t m.calls (.spawn argv) (Platform.spawn t argv env m.machine)
  tryWaitAny t m := record t m.calls .tryWaitAny (Platform.tryWaitAny t m.machine)
  waitBlocking t pid m :=
    record t m.calls (fun r => .waitBlocking pid (answerOf r))
      (Platform.waitBlocking t pid m.machine)
  signalAll t signal m :=
    record t m.calls (.signalAll signal) (Platform.signalAll t signal m.machine)
  sync t m := ⟨Platform.sync t m.machine, ⟨t, .sync⟩ :: m.calls⟩
  reboot t state m := record t m.calls (.reboot state) (Platform.reboot t state m.machine)
  host t step m :=
    let (r, machine) := Platform.host t step m.machine
    (r, ⟨machine, m.calls⟩)
  isExecutable path m := Platform.isExecutable path m.machine

instance [Platform σ] [PlainSetup σ] : PlainSetup (Traced σ) where
  host_preparatory now step m := PlainSetup.host_preparatory now step m.machine

/-- From the one trace to the other there are only calls of a kind. -/
def Makes (p : KernelCall → Prop) (calls calls' : List TimedCall) : Prop :=
  ∃ new, calls' = new ++ calls ∧ ∀ c ∈ new, p c.call

namespace Makes

variable {p q : KernelCall → Prop} {calls calls' calls'' : List TimedCall}

theorem refl (calls : List TimedCall) : Makes p calls calls :=
  ⟨[], rfl, List.forall_mem_nil _⟩

theorem trans (h : Makes p calls calls') (h' : Makes p calls' calls'') :
    Makes p calls calls'' := by
  obtain ⟨new, rfl, hnew⟩ := h
  obtain ⟨new', rfl, hnew'⟩ := h'
  refine ⟨new' ++ new, (List.append_assoc ..).symm, fun c hc => ?_⟩
  exact (List.mem_append.mp hc).elim (hnew' c) (hnew c)

theorem cons {c : TimedCall} (hc : p c.call) (calls : List TimedCall) :
    Makes p calls (c :: calls) :=
  ⟨[c], rfl, List.forall_mem_singleton.mpr hc⟩

theorem mono (h : Makes p calls calls') (hpq : ∀ call, p call → q call) :
    Makes q calls calls' := by
  obtain ⟨new, heq, hnew⟩ := h
  exact ⟨new, heq, fun c hc => hpq _ (hnew c hc)⟩

end Makes

/-- From the one trace to the other no call of a shutdown is made. -/
abbrev Silent (calls calls' : List TimedCall) : Prop :=
  Makes (fun call => call.isFinal = false) calls calls'

end Traced

open Traced

namespace World

variable {σ : Type} [Platform σ]

def calls {σ : Type} (w : World (Traced σ)) : List TimedCall :=
  w.machine.calls

theorem makes_spawn (argv env : List String) (w : World (Traced σ)) :
    Makes KernelCall.IsRoutine w.calls (w.spawn argv env).2.calls := by
  have hcalled (answer : Except SpawnError Pid) :
      Makes KernelCall.IsRoutine w.calls (⟨w.now, .spawn argv answer⟩ :: w.calls) :=
    .cons trivial _
  simp only [spawn]
  split
  all_goals exact hcalled _

omit [Platform σ] in
theorem calls_foldl_say (notices : List Notice) (w : World (Traced σ)) :
    (notices.foldl say w).calls = w.calls := by
  induction notices generalizing w with
  | nil => rfl
  | cons n notices ih => exact ih _

theorem calls_host (step : HostStep) (w : World (Traced σ)) : (w.host step).2.calls = w.calls :=
  calls_foldl_say _ _

theorem calls_waitBlocking (pid : Pid) (suspended : Bool) (w : World (Traced σ)) :
    (w.waitBlocking pid suspended).2.calls =
      ⟨w.now, .waitBlocking pid (w.waitBlocking pid suspended).1⟩ :: w.calls := by
  have hcall : Platform.waitBlocking w.now pid w.machine =
      record w.now w.calls (fun r => .waitBlocking pid (answerOf r))
        (Platform.waitBlocking w.now pid w.machine.machine) := rfl
  simp only [waitBlocking]
  rw [show (w.note (.waitedBlocking pid suspended)).now = w.now from rfl,
    show (w.note (.waitedBlocking pid suspended)).machine = w.machine from rfl, hcall]
  rcases Platform.waitBlocking w.now pid w.machine.machine with ⟨_ | ⟨time, r⟩, machine⟩
  · rfl
  · rfl

end World

namespace Supervisor

variable {σ : Type} [Platform σ] {s s' : Supervisor (Traced σ)}

omit [Platform σ] in
theorem calls_settle (s : Supervisor (Traced σ)) (pid : Pid) (status : Option ExitStatus) :
    (s.settle pid status).calls = s.calls := by
  obtain ⟨waiters, settled, heq⟩ := s.settle_eq pid status
  rw [heq]

theorem makes_spawn (command : String) (s : Supervisor (Traced σ)) :
    Makes KernelCall.IsRoutine s.calls (s.spawn command).2.calls := by
  rw [Supervisor.spawn]
  split
  next => exact .refl _
  next program args _ =>
    have hspawned := s.toWorld.makes_spawn (program :: args) s.config.env
    split
    next heq => rwa [heq] at hspawned
    next heq => rwa [heq] at hspawned

theorem makes_spawnAndAwait (command : String) (s : Supervisor (Traced σ)) :
    Makes KernelCall.IsRoutine s.calls (s.spawnAndAwait command).2.calls := by
  have hspawned := s.makes_spawn command
  rw [Supervisor.spawnAndAwait]
  split
  next pid t heq =>
    rw [heq] at hspawned
    exact (t.calls_settle pid none).symm ▸ hspawned
  next heq => rwa [heq] at hspawned

theorem makes_launchService (unit : String) (u : UnitDef) (s : Supervisor (Traced σ)) :
    Makes KernelCall.IsRoutine s.calls (s.launchService unit u).2.calls := by
  rw [Supervisor.launchService]
  split
  next => exact .refl _
  next command _ =>
    have hspawned := s.makes_spawn command
    split
    next heq => rwa [heq] at hspawned
    next heq => rwa [heq] at hspawned

theorem Chore.makes (h : s.Chore s') : Makes KernelCall.IsRoutine s.calls s'.calls := by
  cases h with
  | remark | boast | count | file => exact .refl _
  | spawn command => exact s.makes_spawn command
  | spawnAndAwait command => exact s.makes_spawnAndAwait command
  | look => exact .cons trivial _
  | collect =>
    rw [Supervisor.collect, calls_settle]
    exact .cons trivial _

/-- Not even the rescue shell makes a call of a shutdown. -/
theorem Errands.silent (h : s.Errands s') : Silent s.calls s'.calls := by
  induction h with
  | refl => exact .refl _
  | tail _ herrand ih =>
    refine ih.trans ?_
    cases herrand with
    | chore h => exact h.makes.mono fun _ => KernelCall.IsRoutine.isFinal
    | wait pid =>
      dsimp only
      rw [World.calls_waitBlocking]
      exact .cons (p := fun call => call.isFinal = false) rfl _
    | release pid => exact (calls_settle _ pid none).symm ▸ .refl _

end Supervisor

end InitDaemon
