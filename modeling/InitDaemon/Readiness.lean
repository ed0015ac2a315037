import Std.Data.ExtTreeMap
import InitDaemon.Failure

/-!
# Readiness

Whoever asks for a unit gets a handle on the channel over which the unit's outcome comes. A channel
holds what was sent last, which is nothing while the unit is starting. Its sending end is kept under
the unit's name, and a channel without a sending end is closed.
-/

namespace InitDaemon

open Std

abbrev Channel := Nat

/-- The right to learn the outcome of a unit. -/
structure Handle where
  unit : String
  channel : Channel
deriving DecidableEq, Repr, Inhabited

/-- What someone finds who waits for a channel to hold an outcome. -/
inductive Arrival
  | pending
  | arrived (value : Option Outcome)
  | closed

structure Readiness where
  /-- The channel on which the outcome of each unit is sent. -/
  senders : ExtTreeMap String Channel := ∅
  values : ExtTreeMap Channel (Option Outcome) := ∅
  next : Channel := 0

namespace Readiness

/-- A handle on a unit that has been asked for before. -/
def subscribe? (r : Readiness) (unit : String) : Option Handle :=
  r.senders[unit]?.map fun channel => ⟨unit, channel⟩

def enter (r : Readiness) (unit : String) (value : Option Outcome) : Handle × Readiness :=
  (⟨unit, r.next⟩,
    { senders := r.senders.insert unit r.next
      values := r.values.insert r.next value
      next := r.next + 1 })

def send (r : Readiness) (channel : Channel) (outcome : Outcome) : Readiness :=
  { r with values := r.values.insert channel (some outcome) }

/-- Whether the sending end of a handle's channel is still there. -/
def isOpen (r : Readiness) (h : Handle) : Bool :=
  r.senders[h.unit]? == some h.channel

/-- The outcome so far. -/
def outcome? (r : Readiness) (h : Handle) : Option Outcome :=
  r.values[h.channel]?.join

/-- Looks whether the channel holds an outcome, and otherwise whether one can still come. -/
def arrival (r : Readiness) (h : Handle) : Arrival :=
  if (r.outcome? h).isSome then .arrived (r.outcome? h)
  else if r.isOpen h then .pending
  else .closed

/-- What someone who waits gets. There is no answer while the unit is starting. -/
def wait? (r : Readiness) (h : Handle) : Option Outcome :=
  match r.arrival h with
  | .pending => none
  | .arrived value => some (value.getD (.ok ()))
  | .closed => some (.error (.abandoned h.unit))

/-- The outcome of a unit that has been asked for and has one. -/
def outcomeOf? (r : Readiness) (unit : String) : Option Outcome :=
  (r.subscribe? unit).bind r.outcome?

/-- The sending ends go away, and no channel gets another outcome. -/
def abandon (r : Readiness) : Readiness :=
  { r with senders := ∅ }

end Readiness

end InitDaemon
