import InitDaemon.ExitStatus
import InitDaemon.Simulation.Shell.Command
import InitDaemon.Simulation.Shell.FileTree
import InitDaemon.Simulation.Shell.Lexer

/-!
# The state of a shell

A shell holds variables, functions, traps and the jobs that it started. Time passes only while it
waits; a signal that a process sends at some time reaches the shell when its clock gets there.
-/

namespace InitDaemon.Simulation.Shell

/-! ## Signals -/

def signalNames : List String :=
  ["HUP", "INT", "QUIT", "ILL", "TRAP", "ABRT", "BUS", "FPE", "KILL", "USR1", "SEGV", "USR2",
    "PIPE", "ALRM", "TERM", "STKFLT", "CHLD", "CONT", "STOP", "TSTP", "TTIN", "TTOU", "URG",
    "XCPU", "XFSZ", "VTALRM", "PROF", "WINCH", "IO", "PWR", "SYS"]

def killSignal : Nat := 9

def pipeSignal : Nat := 13

def termSignal : Nat := 15

/-- One more than the largest signal. -/
def signalLimit : Nat := 65

/-- Signals that do not end a process. -/
def harmless : List Nat := [0, 17, 18, 19, 20, 21, 22, 23, 28]

/-- A signal by its number or its name. The name `EXIT` stands for 0. -/
def signal? (s : String) : Option Nat :=
  if !s.isEmpty && s.all Char.isDigit then
    match s.toNat? with
    | some n => if n < signalLimit then some n else none
    | none => none
  else if s.toUpper == "EXIT" then some 0
  else (signalNames.findIdx? (· == s.toUpper)).map (· + 1)

/-! ## Numbers -/

def isSpace (c : Char) : Bool :=
  c == ' ' || c == '\t' || c == '\n' || c == '\r' || c == '\x0b' || c == '\x0c'

/-- A number in decimal with blanks around it, within 64 bits. -/
def decimal? (s : String) : Option Int :=
  let cs := s.toList.dropWhile isSpace
  let (negative, cs) :=
    match cs with
    | '-' :: cs => (true, cs)
    | '+' :: cs => (false, cs)
    | cs => (false, cs)
  let (ds, rest) := cs.span Char.isDigit
  let n := ds.foldl (fun n c => n * 10 + (c.toNat - '0'.toNat)) 0
  let n : Int := if negative then -n else n
  let fits := Int64.minValue.toInt ≤ n && n ≤ Int64.maxValue.toInt
  if ds.isEmpty || !rest.all isSpace || !fits then none else some n

/-- A number of 31 bits. -/
def natural? (s : String) : Option Nat :=
  (decimal? s).bind fun n => if 0 ≤ n && n ≤ Int32.maxValue.toInt then some n.toNat else none

/-! ## The state -/

/-- A variable may be exported or read-only without a value. -/
structure Variable where
  value : Option String
  exported : Bool := false
  readOnly : Bool := false
deriving DecidableEq, Repr, Inhabited

inductive Sink
  | captured
  | dropped
  | file (p : Path)
deriving DecidableEq, Repr, Inhabited

structure Job where
  pid : Nat
  finish : Nat
  status : ExitStatus
deriving Repr, Inhabited

structure Arrival where
  time : Nat
  pid : Nat
  signal : Nat
deriving Repr, Inhabited

inductive Stop
  /-- Leaves loops or, if `again`, goes on with the next turn of the outermost one of them. -/
  | loop (again : Bool) (levels : Nat)
  | returned
  /-- The shell ends with its status, after the trap for that. -/
  | exit
  | ended (s : ExitStatus)
deriving Repr, Inhabited

structure State where
  name : String
  arguments : List String
  bindings : List (String × Variable)
  functions : List (String × Command) := []
  /-- What variables were before functions made them their own, the innermost function first. -/
  locals : List (List (String × Option Variable)) := []
  options : List Char := []
  status : Nat := 0
  /-- The number that a script knows its shell by, and those of this process and its parent. -/
  root : Nat
  self : Nat
  parent : Nat
  nextPid : Nat
  lastJob : Option Nat := none
  jobs : List Job := []
  /-- Actions for signals, with 0 for the end of the shell. An empty one ignores the signal. -/
  traps : List (Nat × String) := []
  /-- Signals ignored from the start, which cannot be trapped. -/
  ignored : List Nat := []
  due : List Nat := []
  /-- The status before the action that is being run. -/
  beforeTrap : Option Nat := none
  sent : List Arrival := []
  clock : Nat := 0
  directory : Path := []
  tree : FileTree := .standard
  input : List Char := []
  sinks : List (Nat × Sink) := [(1, .dropped), (2, .dropped)]
  /-- What was captured, the latest first. -/
  output : List (List Char) := []
  loops : Nat := 0
  /-- How much of an argument `getopts` has read. -/
  optionOffset : Nat := 0
  /-- Status of the last command whose output was taken for a word. -/
  substituted : Option Nat := none
deriving Inhabited

abbrev Run := EStateM Stop State

namespace State

def entry? (s : State) (name : String) : Option Variable :=
  s.bindings.lookup name

def value? (s : State) (name : String) : Option String :=
  (s.entry? name).bind (·.value)

def setVariable (s : State) (name : String) (v : Variable) : State :=
  { s with bindings := (name, v) :: s.bindings.filter (·.1 != name) }

def dropVariable (s : State) (name : String) : State :=
  { s with bindings := s.bindings.filter (·.1 != name) }

def option (s : State) (letter : Char) : Bool :=
  s.options.contains letter

def environment (s : State) : List String :=
  s.bindings.filterMap fun (name, v) =>
    match v.value with
    | some value => if v.exported then some (name ++ "=" ++ value) else none
    | none => none

def trap? (s : State) (signal : Nat) : Option String :=
  s.traps.lookup signal

/-- Signals without an effect on this process and those that it starts. -/
def ignores (s : State) : List Nat :=
  s.ignored ++ (s.traps.filter fun (n, action) => n != 0 && action.isEmpty).map (·.1)

def pathOf (p : Path) : String :=
  "/" ++ String.intercalate "/" p

end State

def statusOf : ExitStatus → Nat
  | .exited code => code.toNat % 256
  | .signaled n => (128 + n.toNat) % 256

def setStatus (n : Nat) : Run Unit :=
  modify fun s => { s with status := n }

def failure {α : Type} : Run α := do
  setStatus 2
  throw .exit

/-- Gives a variable a value. A read-only one cannot get any. -/
def assign (name value : String) : Run Unit := do
  let s ← get
  let old := (s.entry? name).getD ⟨none, false, false⟩
  if old.readOnly then failure
  let exported := old.exported || s.option 'a'
  set (s.setVariable name { old with value := some value, exported })

/-! ## Streams -/

def write (stream : Nat) (text : List Char) : Run Unit :=
  modify fun s =>
    match s.sinks.lookup stream with
    | some .captured => { s with output := text :: s.output }
    | some (.file p) => { s with tree := s.tree.append p text }
    | some .dropped | none => s

/-- Takes a line from the input, and says whether it was ended. -/
def readLine : Run (List Char × Bool) := do
  let s ← get
  let (line, rest) := s.input.span (· != '\n')
  set { s with input := rest.drop 1 }
  return (line, !rest.isEmpty)

/-! ## Signals and processes -/

/-- Takes a signal. One with an action waits until the running command has ended. -/
def receive (n : Nat) : Run Unit := do
  let s ← get
  if n == killSignal then throw (.ended (.signaled n))
  if s.ignored.contains n then return
  match s.trap? n with
  | some action => if !action.isEmpty && n != 0 then set { s with due := s.due ++ [n] }
  | none => if !harmless.contains n then throw (.ended (.signaled n))

/-- Ends a job that is still running. -/
def Job.receive (a : Arrival) (j : Job) : Job :=
  if j.pid == a.pid && a.time < j.finish && !harmless.contains a.signal then
    { j with finish := a.time, status := .signaled a.signal }
  else j

/-- Takes the signals that have arrived by now and hands on those for jobs. -/
def deliver : Run Unit := do
  let s ← get
  let (own, others) := s.sent.partition (·.pid == s.self)
  let (arrived, later) := own.partition (·.time ≤ s.clock)
  set { s with
    sent := later ++ others.filter fun (a : Arrival) => !s.jobs.any (·.pid == a.pid)
    jobs := s.jobs.map fun j => others.foldl (fun j a => j.receive a) j }
  for a in arrived do receive a.signal

/-- Sends a signal and says whether there is a process that can get it. -/
def send (pid signal : Nat) : Run Bool := do
  let s ← get
  let known := pid == s.self || pid == s.root || pid == s.parent || s.jobs.any (·.pid == pid)
  if known then
    let a : Arrival := ⟨s.clock, pid, signal⟩
    set { s with sent := s.sent ++ [a] }
    deliver
  return known

/-- The state of a new process of this shell. Only ignored signals keep their traps. -/
def State.child (s : State) : State :=
  { s with
    self := s.nextPid
    parent := s.self
    nextPid := s.nextPid + 1
    jobs := []
    traps := s.traps.filter fun (n, action) => n != 0 && action.isEmpty
    due := []
    sent := [] }

/-- What remains of a process in the state of the shell that started it. -/
def State.after (s ended : State) : State :=
  { s with
    nextPid := ended.nextPid
    tree := ended.tree
    output := ended.output
    input := ended.input
    sent := s.sent ++ ended.sent }

end InitDaemon.Simulation.Shell
