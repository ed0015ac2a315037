import InitDaemon.ExitStatus
import InitDaemon.Failure
import InitDaemon.Fstab

/-!
# The calls behind machine setup

What the setup steps of the init ask of the machine, for any type of machine states. A call answers
and gives the state after it; a query leaves the state alone.
-/

namespace InitDaemon

structure MountCall where
  source : String
  target : String
  fstype : String
  flags : MountFlags := {}
  data : Option String := none
deriving DecidableEq, Repr, Inhabited

structure DeviceNode where
  path : String
  mode : Nat
  major : Nat
  minor : Nat
deriving DecidableEq, Repr, Inhabited

class Files (σ : Type) where
  readText : String → σ → Except ReadError String
  present : String → σ → Bool
  isDirectory : String → σ → Bool
  device? : String → σ → Option Nat
  isExecutable : String → σ → Bool
  makeDirectory : String → σ → Except Errno Unit × σ
  mount : MountCall → σ → Except Errno Unit × σ
  makeNode : DeviceNode → σ → Except Errno Unit × σ
  /-- Makes a link with the target first. -/
  makeLink : String → String → σ → Except Errno Unit × σ
  setHostname : String → σ → Except Errno Unit × σ
  /-- Runs a program to its end, with its arguments and environment. -/
  run : String → List String → List String → σ → Except Errno ExitStatus × σ

end InitDaemon
