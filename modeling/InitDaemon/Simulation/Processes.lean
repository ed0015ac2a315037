import InitDaemon.Simulation.Machine
import InitDaemon.Simulation.Shell.Evaluation

/-!
# Starting and collecting a process

A process is started on a machine whose programs are shell scripts and collected in one of the two
ways that there are.
-/

namespace InitDaemon.Simulation.Processes

def firstPid : Pid := 100

/-- A machine on which every process ends as its script says, as soon as it has started. -/
def machineFor (argv env : List String) : Machine :=
  let ending : Ending := ⟨Shell.endOf firstPid.toNat argv env, 0⟩
  { script := { endings := .ofList [(argv.headD "", Endings.always ending)], nextPid := firstPid } }

/-- What was seen of a process that was waited for: its status, and the error of looking for another
one. -/
structure Waited where
  status : Except Errno ExitStatus
  afterwards : Option Errno

/-- What was seen of a process that was looked for: its number, the number found and its status. -/
structure Polled where
  started : Pid
  found : Pid
  status : ExitStatus

def wait (pid : Pid) (m : Machine) : Except Errno ExitStatus × Machine :=
  match Kernel.waitBlocking pid m with
  | (.at _ r, m) => (r, m)
  | (.never, m) => (.error .ECHILD, m)

/-- Starts a process, waits for it and looks for another one. -/
def startAndWait (argv env : List String) (m : Machine) : Except SpawnError Waited × Machine :=
  match Kernel.spawn argv env m with
  | (.error e, m) => (.error e, m)
  | (.ok pid, m) =>
    let (status, m) := wait pid m
    let (r, m) := Kernel.tryWaitAny m
    (.ok ⟨status, match r with
      | .error e => some e
      | .ok _ => none⟩, m)

def startAndPoll (argv env : List String) (m : Machine) : Option Polled × Machine :=
  match Kernel.spawn argv env m with
  | (.error _, m) => (none, m)
  | (.ok pid, m) =>
    match Kernel.tryWaitAny m with
    | (.ok (some (found, status)), m) => (some ⟨pid, found, status⟩, m)
    | (_, m) => (none, m)

end InitDaemon.Simulation.Processes
