/-!
# Ending the machine's uptime
-/

namespace InitDaemon

inductive PowerState
  | off
  | restart
deriving DecidableEq, Repr, Inhabited

namespace PowerState

/-- The words that the reboot call wants to see before it believes its command. -/
def magic1 : UInt32 := 0xfee1dead

def magic2 : UInt32 := 672274793

def command : PowerState → UInt32
  | off => 0x4321fedc
  | restart => 0x01234567

end PowerState

/-- The signals that are sent to every process during a shutdown. -/
inductive ShutdownSignal
  | terminate
  | kill
deriving DecidableEq, Repr, Inhabited

namespace ShutdownSignal

def name : ShutdownSignal → String
  | terminate => "SIGTERM"
  | kill => "SIGKILL"

def number : ShutdownSignal → Nat
  | terminate => 15
  | kill => 9

end ShutdownSignal

end InitDaemon
