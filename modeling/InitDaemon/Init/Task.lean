import InitDaemon.Supervisor

/-!
# Tasks

A task runs until it has to wait. What is left of it then is a value: the place where it goes on
and what it waits for. To poll a task that still has to wait changes nothing.
-/

namespace InitDaemon

abbrev TaskId := Nat

inductive StartPhase
  | fresh
  /-- Waiting for the first of the remaining dependencies. -/
  | awaiting (dependencies : List Handle)
  /-- The service has been started and gets its settle delay, for which no alarm is set yet. -/
  | started (deadline : Nat)
  | settling (deadline : Nat)
  | makingMachineId (ticket : Ticket)
  | startingBus (ticket : Ticket)
deriving DecidableEq, Repr, Inhabited

inductive SessionPhase
  | fresh
  /-- Waiting for the first of the remaining foundation units. -/
  | awaiting (units : List Handle)
  | running (ticket : Ticket)
deriving DecidableEq, Repr, Inhabited

inductive PowerPhase
  | fresh
  /-- The pause has begun, and no alarm is set for its end yet. -/
  | delayed (deadline : Nat) (next : PowerStage)
  | pausing (deadline : Nat) (next : PowerStage)
deriving DecidableEq, Repr, Inhabited

inductive ReapPhase
  | fresh
  /-- Lets others run after a process has been collected. -/
  | yielding
  /-- Waits for a child event, but not past the deadline. -/
  | idle (deadline : Nat)
  | failing (deadline : Nat)
deriving DecidableEq, Repr, Inhabited

inductive Task
  /-- `chain` holds the units that asked for this one, nearest first. -/
  | start (unit : String) (chain : List String) (phase : StartPhase)
  | watchNetworkManager (ticket : Ticket)
  /-- Waits for a signal that asks for another power state; the fields hold those that came. -/
  | watchSignals (terminated interrupted : Bool)
  /-- Starts the boot target, and the rescue shell if that fails. There is no handle before the
  target is asked for. -/
  | bootChain (target : Option Handle)
  | session (phase : SessionPhase)
  | power (state : PowerState) (phase : PowerPhase)
  /-- `childEvent` tells whether a child event has come, for a loop that gets them. -/
  | reap (childEvent : Option Bool) (phase : ReapPhase)
  | report (completion : Completion)
deriving DecidableEq, Repr, Inhabited

inductive Signal
  | interrupt
  | terminate
  | child
deriving DecidableEq, Repr, Inhabited

/-- Signals in the order in which they are delivered when they were raised together. -/
def Signal.all : List Signal := [interrupt, terminate, child]

inductive Halt
  /-- The last call has ended the uptime. -/
  | powerDown
  /-- The last call has failed, and nothing is left to do. -/
  | stuck
  /-- The init waits for a process that does not end. -/
  | blocked
deriving DecidableEq, Repr, Inhabited

end InitDaemon
