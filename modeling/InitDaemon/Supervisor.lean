import InitDaemon.Config
import InitDaemon.CrashTracker
import InitDaemon.Units.Graph
import InitDaemon.World

/-!
# The process table

Every process that the init starts has a record with the name to show for it and, for services, its
unit. A process that has ended is collected by `tick`, which also restarts services: at once, or
after a cool-down when they crash too often. Processes that nobody started are collected too.

Whoever waits for the end of a process holds a ticket. A ticket is settled once: with the status of
its process, or without one when the record is released.
-/

namespace InitDaemon

open Std InitDaemon.Units

structure ProcessRecord where
  display : String
  unit : Option String
deriving DecidableEq, Repr, Inhabited

abbrev Ticket := Nat

/-- The right to learn how a process ended. -/
structure Completion where
  pid : Pid
  ticket : Ticket
deriving DecidableEq, Repr, Inhabited

/-- The answer of one look for a process that has ended. -/
inductive Tick
  | reaped (pid : Pid)
  | idle
  | failed
deriving DecidableEq, Repr, Inhabited

structure Supervisor (σ : Type) extends World σ where
  config : Config
  graph : Graph
  processes : ExtTreeMap Pid ProcessRecord := ∅
  waiters : ExtTreeMap Pid Ticket := ∅
  settled : ExtTreeMap Ticket (Option ExitStatus) := ∅
  nextTicket : Ticket := 0
  crashes : CrashTracker
  /-- Set when a shutdown begins: nothing is restarted from then on. -/
  stopping : Bool := false

namespace Supervisor

variable {σ : Type}

def say (s : Supervisor σ) (n : Notice) : Supervisor σ :=
  { s with toWorld := s.toWorld.say n }

/-- Settles the ticket of a process, if anyone waits for it. -/
def settle (s : Supervisor σ) (pid : Pid) (status : Option ExitStatus) : Supervisor σ :=
  match s.waiters[pid]? with
  | some ticket =>
    { s with waiters := s.waiters.erase pid, settled := s.settled.insert ticket status }
  | none => s

/-- Drops the record of a process that was collected elsewhere. -/
def release (s : Supervisor σ) (pid : Pid) : Supervisor σ :=
  { s.settle pid none with processes := s.processes.erase pid }

/-- The process of a unit; of several, the one with the smallest number. -/
def pidOf? (s : Supervisor σ) (unit : String) : Option Pid :=
  (s.processes.toList.find? fun (_, record) => record.unit == some unit).map (·.1)

def display? (s : Supervisor σ) (pid : Pid) : Option String :=
  s.processes[pid]?.map (·.display)

def running (s : Supervisor σ) : Nat :=
  s.processes.size

def stopRestarts (s : Supervisor σ) : Supervisor σ :=
  { s with stopping := true }

variable [Platform σ]

/-- Starts a command line, cut at white space, under its first word. -/
def spawn (command : String) (s : Supervisor σ) : Except SpawnError Pid × Supervisor σ :=
  match Text.wordsOf command with
  | [] => (.error .emptyCommand, s)
  | program :: args =>
    match s.toWorld.spawn (program :: args) s.config.env with
    | (.ok pid, w) =>
      (.ok pid,
        { s with toWorld := w, processes := s.processes.insert pid ⟨program, none⟩ })
    | (.error e, w) => (.error e, { s with toWorld := w })

/-- Starts the command of a unit that has one, and files the process under the unit. -/
def launchService (unit : String) (u : UnitDef) (s : Supervisor σ) :
    Except SpawnError (Option Pid) × Supervisor σ :=
  match u.execStart? with
  | none => (.ok none, s.say (.targetReached unit))
  | some command =>
    match s.spawn command with
    | (.ok pid, s) =>
      let s := { s with processes := s.processes.insert pid ⟨unit, some unit⟩ }
      (.ok (some pid), s.say (.serviceStarted unit pid))
    | (.error e, s) => (.error e, s)

/-- Starts a command whose end someone waits for. Whoever waited for an earlier process of the same
number waits no longer. -/
def spawnAndAwait (command : String) (s : Supervisor σ) :
    Except SpawnError Completion × Supervisor σ :=
  match s.spawn command with
  | (.ok pid, s) =>
    let s := s.settle pid none
    (.ok ⟨pid, s.nextTicket⟩,
      { s with waiters := s.waiters.insert pid s.nextTicket, nextTicket := s.nextTicket + 1 })
  | (.error e, s) => (.error e, s)

def relaunch (unit : String) (u : UnitDef) (s : Supervisor σ) : Supervisor σ :=
  match s.launchService unit u with
  | (.ok _, s) => s
  | (.error e, s) => s.say (.restartFailed unit e)

/-- Restarts a unit that has crashed, or parks it. Times do not end here: a program that ends with
`recordCrash` has done what is done here until then. -/
def crashed (unit : String) (u : UnitDef) (now : Nat) (s : Supervisor σ) : Supervisor σ :=
  match s.crashes.judge unit now with
  | (.restart, crashes) =>
    ({ s with crashes := crashes }.say (.restarting unit)).relaunch unit u
  | (.coolDown deadline, crashes) =>
    { s with crashes := crashes }.say (.crashLoop unit (deadline - now))

def applyRestartPolicy (unit : String) (now : Nat) (s : Supervisor σ) : Supervisor σ :=
  match s.graph.get? unit with
  | none => s
  | some u =>
    if u.restart == .no then s
    else if s.stopping then s.say (.restartSuppressed unit)
    else s.crashed unit u now

def handleExit (pid : Pid) (status : ExitStatus) (now : Nat) (s : Supervisor σ) : Supervisor σ :=
  let record := s.processes[pid]?
  let s := { s with processes := s.processes.erase pid }
  let s := s.say (.reaped pid status (record.elim "unknown" (·.display)))
  let s := s.settle pid (some status)
  match record.bind (·.unit) with
  | some unit => s.applyRestartPolicy unit now
  | none => s

def relaunchDue (s : Supervisor σ) : List String → Supervisor σ
  | [] => s
  | unit :: rest =>
    match s.graph.get? unit with
    | some u => ((s.say (.restartingAfterPause unit)).relaunch unit u).relaunchDue rest
    | none => s.relaunchDue rest

def launchDueRestarts (now : Nat) (s : Supervisor σ) : Supervisor σ :=
  if s.stopping then s
  else
    let (due, crashes) := s.crashes.takeDue now
    { s with crashes := crashes }.relaunchDue due

/-- Launches the restarts that are due and collects at most one process. -/
def tick (now : Nat) (s : Supervisor σ) : Tick × Supervisor σ :=
  let s := s.launchDueRestarts now
  match s.toWorld.tryWaitAny with
  | (.ok (some (pid, status)), w) =>
    (.reaped pid, { s with toWorld := w }.handleExit pid status now)
  | (.ok none, w) | (.error .ECHILD, w) => (.idle, { s with toWorld := w })
  | (.error e, w) => (.failed, { s with toWorld := w }.say (.waitFailed e))

end Supervisor

end InitDaemon
