import Std.Data.ExtTreeSet

/-!
# Units

A unit has a set of dependencies, an action that starts it and a restart policy.
-/

namespace InitDaemon

open Std

inductive RestartPolicy
  | no
  | always
deriving DecidableEq, Repr, Inhabited

/-- Only the exact word `always` asks for restarts. -/
def RestartPolicy.ofText (s : String) : RestartPolicy :=
  if s == "always" then .always else .no

/-- Units that need no unit file: their action is part of the init. -/
inductive Builtin
  | mounts
  | network
  | hostname
  | dbus
  | networkManager
  | userSessions
  | plymouthQuit
deriving DecidableEq, Repr, Inhabited

inductive StartAction
  /-- Nothing to run: the unit is reached as soon as its dependencies are ready. -/
  | reach
  | command (line : String)
  | builtin (b : Builtin)
deriving DecidableEq, Repr, Inhabited

structure UnitDef where
  dependencies : ExtTreeSet String := ∅
  start : StartAction := .reach
  restart : RestartPolicy := .no
deriving DecidableEq

instance : Inhabited UnitDef := ⟨{}⟩

namespace UnitDef

def execStart? (u : UnitDef) : Option String :=
  match u.start with
  | .command line => some line
  | _ => none

end UnitDef

namespace Builtin

def all : List Builtin :=
  [mounts, network, hostname, dbus, networkManager, userSessions, plymouthQuit]

theorem mem_all (b : Builtin) : b ∈ all := by
  cases b <;> decide

def name : Builtin → String
  | mounts => "mounts"
  | network => "network"
  | hostname => "hostname"
  | dbus => "dbus"
  | networkManager => "network-manager"
  | userSessions => "systemd-user-sessions.service"
  | plymouthQuit => "plymouth-quit.service"

def dependencies : Builtin → List String
  | mounts | plymouthQuit => []
  | network => ["mounts"]
  | hostname => ["mounts", "network"]
  | dbus => ["mounts", "network", "hostname"]
  | networkManager => ["mounts", "network", "hostname", "dbus"]
  | userSessions => ["mounts", "network", "hostname", "dbus", "network-manager"]

def definition (b : Builtin) : UnitDef :=
  { dependencies := .ofList b.dependencies, start := .builtin b }

end Builtin

def isUnitFile (name : String) : Bool :=
  name.endsWith ".service" || name.endsWith ".target"

end InitDaemon
