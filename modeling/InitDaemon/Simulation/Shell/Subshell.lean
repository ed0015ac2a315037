import InitDaemon.Simulation.Shell.State

/-!
# Processes of a shell

A subshell is run in a state of its own, of which only files, output and signals come back. The
shell either waits for it, so that its clock catches up, or lets it run beside itself as a job.
-/

namespace InitDaemon.Simulation.Shell

abbrev Runner := List Char → Run Unit

/-- Runs the action for the end of a shell, which keeps its status unless the action ends it with
another one. -/
def State.leave (run : Runner) (s : State) : ExitStatus × State :=
  match s.trap? 0 with
  | none => (.exited s.status, s)
  | some action =>
    let start :=
      { s with traps := s.traps.filter (·.1 != 0), beforeTrap := some s.status, loops := 0 }
    match (run action.toList).run start with
    | .error .exit t => (.exited t.status, t)
    | .error (.ended e) t => (e, t)
    | .ok _ t | .error _ t => (.exited s.status, t)

def State.conclude (run : Runner) (body : Run Unit) (s : State) : ExitStatus × State :=
  match body.run s with
  | .error (.ended e) t => (e, t)
  | .ok _ t | .error _ t =>
    let (e, t) := t.leave run
    match e with
    | .exited code => (.exited (code % 256), t)
    | .signaled n => (.signaled n, t)

def subshell (run : Runner) (body : Run Unit) : Run ExitStatus := do
  let s ← get
  let (status, ended) := s.child.conclude run body
  set { s.after ended with clock := ended.clock }
  deliver
  return status

def State.capturing (s : State) : State :=
  { s with
    output := []
    sinks := (1, .captured) :: s.sinks.map fun (n, k) =>
      (n, if k == .captured then .dropped else k) }

/-- Runs commands in a process and takes what it writes. -/
def capture (run : Runner) (body : Run Unit) : Run (List Char × ExitStatus) := do
  let s ← get
  let (status, ended) := s.child.capturing.conclude run body
  set { s.after ended with clock := ended.clock, output := s.output }
  deliver
  return (ended.output.reverse.flatten, status)

/-- Runs commands beside the shell, without input. -/
def startJob (run : Runner) (body : Run Unit) : Run Unit := do
  let s ← get
  let (status, ended) := { s.child with input := [] }.conclude run body
  let job : Job := ⟨s.nextPid, ended.clock, status⟩
  set { s.after ended with
    input := s.input
    lastJob := some job.pid
    jobs := s.jobs ++ [job]
    status := 0 }

/-- Runs the actions of the signals that were taken. The status stays what it was. -/
def runTraps (run : Runner) : Run Unit := do
  let s ← get
  for n in s.due do
    let t ← get
    match t.trap? n with
    | some action =>
      set { t with due := t.due.drop 1, beforeTrap := some t.status }
      run action.toList
      modify fun u => { u with status := t.status, beforeTrap := t.beforeTrap }
    | none => set { t with due := t.due.drop 1 }

/-- Lets a job end and gives its status. A signal with an action that arrives before ends the
waiting. -/
def waitFor (pid : Nat) : Run Nat := do
  let s ← get
  match s.jobs.find? (·.pid == pid) with
  | some j =>
    let trapped (a : Arrival) : Bool :=
      a.pid == s.self && a.time ≤ j.finish && (s.trap? a.signal).any fun action => !action.isEmpty
    match s.sent.find? trapped with
    | some a =>
      set { s with clock := max s.clock a.time }
      deliver
      return 128 + a.signal
    | none =>
      set { s with clock := max s.clock j.finish, jobs := s.jobs.filter (·.pid != pid) }
      deliver
      return statusOf j.status
  | none => return 127

def pass (milliseconds : Nat) : Run Unit := do
  modify fun s => { s with clock := s.clock + milliseconds }
  deliver

end InitDaemon.Simulation.Shell
