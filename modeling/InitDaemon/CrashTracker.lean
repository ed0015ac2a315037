import Std.Data.ExtTreeMap

/-!
# Crash loops

A unit whose crashes come too close together is parked: once `threshold` crashes fall inside
`window`, it waits for `cooldown` and its history starts afresh. Times are milliseconds, and a time
before an earlier one counts as no distance from it.

The times of a program are instants, and there is a last one. A cool-down that would end after it is
the end of the program.
-/

namespace InitDaemon

open Std

structure CrashTracker where
  window : Nat
  threshold : Nat
  cooldown : Nat
  /-- The times of the crashes that count against a unit, oldest first. -/
  history : ExtTreeMap String (List Nat) := ∅
  /-- The end of the cool-down of each parked unit. -/
  parked : ExtTreeMap String Nat := ∅

inductive RestartDecision
  | restart
  | coolDown (deadline : Nat)
deriving DecidableEq, Repr, Inhabited

namespace CrashTracker

/-- Crashes currently counted against a unit, oldest first. -/
def crashesOf (t : CrashTracker) (unit : String) : List Nat :=
  t.history[unit]?.getD []

def crashCount (t : CrashTracker) (unit : String) : Nat :=
  (t.crashesOf unit).length

def deadline? (t : CrashTracker) (unit : String) : Option Nat :=
  t.parked[unit]?

/-- The crashes that count once a unit has crashed at time `now`. -/
def recentCrashes (t : CrashTracker) (unit : String) (now : Nat) : List Nat :=
  (t.crashesOf unit).filter (fun crash => now - crash < t.window) ++ [now]

/-- What a crash calls for, and the tracker after it, as long as times do not end. -/
def judge (t : CrashTracker) (unit : String) (now : Nat) : RestartDecision × CrashTracker :=
  let crashes := t.recentCrashes unit now
  if crashes.length < t.threshold then
    (.restart, { t with history := t.history.insert unit crashes })
  else
    (.coolDown (now + t.cooldown),
      { t with
        history := t.history.insert unit []
        parked := t.parked.insert unit (now + t.cooldown) })

/-- The last time that an instant can hold. Its seconds are a signed number of 64 bits. -/
def lastInstant : Nat :=
  0x7fffffffffffffff * 1000 + 999

/-- Records a crash. There is no answer if no instant holds the end of the cool-down: the program
ends at that sum, and by then it has forgotten the crashes of the unit but has not parked it. -/
def recordCrash (t : CrashTracker) (unit : String) (now : Nat) :
    Option RestartDecision × CrashTracker :=
  match t.judge unit now with
  | (.restart, next) => (some .restart, next)
  | (.coolDown deadline, next) =>
    if deadline ≤ lastInstant then (some (.coolDown deadline), next)
    else (none, { next with parked := t.parked })

def dueUnits (t : CrashTracker) (now : Nat) : List String :=
  (t.parked.filter fun _ deadline => deadline ≤ now).keys

def takeDue (t : CrashTracker) (now : Nat) : List String × CrashTracker :=
  (t.dueUnits now, { t with parked := t.parked.filter fun _ deadline => now < deadline })

end CrashTracker

end InitDaemon
