import Std.Data.ExtTreeSet
import InitDaemon.Process.Platform
import InitDaemon.Simulation.Children

/-!
# A scripted platform

A platform that answers from a script. Children end when the script says so, no setup step does
anything, and every kind of call can be made to fail.
-/

namespace InitDaemon.Simulation

open Std

/-- The end of a process, which need not have been started. -/
structure ScheduledEnd where
  time : Nat
  pid : Pid
  status : ExitStatus
deriving DecidableEq, Repr, Inhabited

structure Script where
  children : ChildScript := {}
  /-- In the order in which they were scheduled. -/
  schedule : List ScheduledEnd := []
  /-- Processes that were started and have not been collected. -/
  alive : ExtTreeSet Pid := ∅
  latest : ExtTreeMap String Pid := ∅
  env : List String := []
  /-- The next look for an ended process fails with this error. -/
  waitFailure : Option Errno := none
  blocking : List (Except Errno ExitStatus) := []
  terminateFailure : Option Errno := none
  killFailure : Option Errno := none
  rebootFailure : Option Errno := none
  hostFailures : ExtTreeMap String HostError := ∅
  executables : List String := []

def stepName : HostStep → String
  | .mountAll => "mount_all"
  | .startNetwork => "network_start"
  | .setHostname => "set_hostname"
  | .ensureDirectory path => "ensure_dir " ++ path

namespace Script

def scheduleEnd (s : Script) (e : ScheduledEnd) : Script :=
  { s with schedule := s.schedule ++ [e] }

/-- Files a new process, and schedules its end if it has one. -/
def register (s : Script) (now : Nat) (program : String) (env : List String) (birth : Birth) :
    Script :=
  let s := { s with
    alive := s.alive.insert birth.pid
    latest := s.latest.insert program birth.pid
    env := env }
  match birth.ending with
  | some e => s.scheduleEnd ⟨now + e.delay, birth.pid, e.status⟩
  | none => s

def spawn (now : Nat) (argv env : List String) (s : Script) : Except SpawnError Pid × Script :=
  match rejectNul (argv ++ env) with
  | .error e => (.error e, s)
  | .ok () =>
    let program := argv.headD ""
    match s.children.start program with
    | (.ok birth, children) =>
      (.ok birth.pid, { s with children := children }.register now program env birth)
    | (.error e, children) => (.error (.fork e), { s with children := children })

def firstDue? (now : Nat) (ends : List ScheduledEnd) : Option ScheduledEnd :=
  match ((ends.filter (·.time ≤ now)).map (·.time)).min? with
  | some t => ends.find? (·.time == t)
  | none => none

def tryWaitAny (now : Nat) (s : Script) : Except Errno (Option (Pid × ExitStatus)) × Script :=
  match s.waitFailure with
  | some e => (.error e, { s with waitFailure := none })
  | none =>
    match firstDue? now s.schedule with
    | some e =>
      (.ok (some (e.pid, e.status)),
        { s with schedule := s.schedule.erase e, alive := s.alive.erase e.pid })
    | none => (if s.alive.isEmpty then .error .ECHILD else .ok none, s)

def waitBlocking (now : Nat) (pid : Pid) (s : Script) :
    Blocking (Except Errno ExitStatus) × Script :=
  let forgotten := { s with
    alive := s.alive.erase pid
    schedule := s.schedule.filter (·.pid != pid) }
  match s.blocking with
  | [] => (.at now (.ok (.exited 0)), forgotten)
  | r :: rest => (.at now r, { forgotten with blocking := rest })

def answer (failure : Option Errno) : Except Errno Unit :=
  match failure with
  | some e => .error e
  | none => .ok ()

instance : Platform Script where
  spawn := spawn
  tryWaitAny := tryWaitAny
  waitBlocking := waitBlocking
  signalAll _ signal s :=
    match signal with
    | .terminate => (answer s.terminateFailure, s)
    | .kill => (answer s.killFailure, s)
  sync _ s := s
  reboot _ _ s := (answer s.rebootFailure, s)
  host _ step s :=
    match s.hostFailures[stepName step]? with
    | some e => ((.error e, []), s)
    | none => ((.ok (), []), s)
  isExecutable path s := s.executables.contains path

end Script

end InitDaemon.Simulation
