/-!
# How a child ended
-/

namespace InitDaemon

/-- Exit code or number of the fatal signal. -/
inductive ExitStatus
  | exited (code : Int)
  | signaled (signal : Int)
deriving DecidableEq, Repr, Inhabited

namespace ExitStatus

def code? : ExitStatus → Option Int
  | exited code => some code
  | signaled _ => none

def success (s : ExitStatus) : Bool :=
  s == exited 0

def text : ExitStatus → String
  | exited code => "exit " ++ toString code
  | signaled signal => "signal " ++ toString signal

end ExitStatus

/-- What the operator asked for when leaving the rescue shell. -/
inductive RescueOutcome
  | resume
  | reboot
  | powerOff
deriving DecidableEq, Repr, Inhabited

/-- `exit 2` asks for a reboot and `exit 3` for a power-off. -/
def RescueOutcome.ofStatus (s : ExitStatus) : RescueOutcome :=
  match s.code? with
  | some 2 => .reboot
  | some 3 => .powerOff
  | _ => .resume

end InitDaemon
