import InitDaemon.Program
import InitDaemon.Simulation.Machine

/-!
# Sessions

A session runs the whole program on a machine in memory. Time passes only while every task waits:
then the clock moves to the next signal from outside, the next end of a child or the next sleeping
task, in this order at equal times.
-/

namespace InitDaemon.Simulation

inductive SessionEnd
  | rebooted
  /-- The program would have gone on after the end of the session. -/
  | limit
  /-- The program waits for a process that does not end in time. -/
  | blocked
  | returned
  | exited (code : Nat)
deriving DecidableEq, Repr, Inhabited

structure SessionInput where
  arguments : List String := []
  /-- The filter for log lines, if one is set. -/
  filter : Option String := none
  directories : List Units.Directory := []
  machine : Machine
  /-- Signals to the program and their times, in time order. -/
  signals : List (Nat × Signal) := []

structure SessionResult where
  ending : SessionEnd
  lines : List (Nat × String)
  calls : List (Nat × Call) := []

namespace Session

abbrev State := Init (Direct Machine)

inductive Event
  | signal (s : Signal) (rest : List (Nat × Signal))
  | death (rest : List (Nat × Pid))
  | alarm

/-- The earlier of two events; at equal times the first. -/
def earlier (a b : Option (Nat × Event)) : Option (Nat × Event) :=
  match a, b with
  | some (t, _), some (u, _) => if t ≤ u then a else b
  | some _, none => a
  | none, b => b

def firstDeath (deaths : List (Nat × Pid)) : Option (Nat × Event) := do
  let t ← (deaths.map (·.1)).min?
  let d ← deaths.find? (·.1 == t)
  return (t, .death (deaths.erase d))

/-- The next event. One that came while the program was blocked comes now. -/
def next? (s : State) (signals : List (Nat × Signal)) : Option (Nat × Event) :=
  let late (e : Nat × Event) : Nat × Event := (max s.now e.1, e.2)
  let signal := signals.head?.map fun (t, signal) => late (t, .signal signal signals.tail)
  let death := (firstDeath s.machine.machine.deaths).map late
  let alarm := s.nextDeadline?.map fun t => late (t, .alarm)
  earlier signal (earlier death alarm)

def setDeaths (s : State) (deaths : List (Nat × Pid)) : State :=
  let machine : Direct Machine := ⟨{ s.machine.machine with deaths := deaths }⟩
  { s with toWorld := { s.toWorld with machine := machine } }

/-- Lets an event happen. Gives the signals that are still to come. -/
def happen (s : State) (signals : List (Nat × Signal)) :
    Event → List (Nat × Signal) × State
  | .signal signal rest => (rest, (s.raise signal).lookOutside)
  | .death rest => (signals, ((setDeaths s rest).raise .child).lookOutside)
  | .alarm => (signals, s.lookOutside)

def fuel : Nat := 10000000

def run (policy : Init.Policy) (limit : Nat) :
    Nat → List (Nat × Signal) → State → SessionEnd × State
  | 0, _, s => (.limit, s)
  | fuel + 1, signals, s =>
    let s := s.settle policy fuel
    match s.halt with
    | some .powerDown => (.rebooted, s)
    | some .stuck => (.limit, s)
    | some .blocked => (.blocked, s)
    | none =>
      match next? s signals with
      | none => (.limit, s)
      | some (t, event) =>
        if limit < t then (.limit, s)
        else
          let (signals, s) := happen (s.passTo t) signals event
          run policy limit fuel signals s

def perform (input : SessionInput) : SessionResult :=
  let m := input.machine
  match Program.action input.arguments input.directories m.isFirstProcess
      (⟨m⟩ : Direct Machine) with
  | .answer text => { ending := .exited 0, lines := [(0, text)] }
  | .printGraph text => { ending := .returned, lines := [(0, text)] }
  | .boot s root =>
    let (ending, s) := run { root := some root } m.limit fuel input.signals s
    { ending := ending
      lines := Program.console (Filter.ofSetting input.filter) s.journal
      calls := s.machine.machine.calls.reverse }

end Session

end InitDaemon.Simulation
