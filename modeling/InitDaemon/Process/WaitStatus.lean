import InitDaemon.Errno
import InitDaemon.Process.Pid
import InitDaemon.ExitStatus

/-!
# Wait status words

A wait call answers with a process number and a word. The number is zero when no child has changed
its state. Otherwise the word tells an exit, a death by a signal, a stop or a continuation.
-/

namespace InitDaemon

/-- The answer of a wait call as it comes. -/
structure WaitAnswer where
  pid : Pid
  word : Nat
deriving DecidableEq, Repr, Inhabited

inductive ChildChange
  | unchanged
  | ended (pid : Pid) (status : ExitStatus)
  | stopped (pid : Pid)
  | continued (pid : Pid)
deriving DecidableEq, Repr, Inhabited

namespace WaitAnswer

/-- Only the signals 1 to 31 have names; a word with another one cannot be read. -/
def namedSignal (n : Nat) : Except Errno Nat :=
  if 1 ≤ n ∧ n ≤ 31 then .ok n else .error .EINVAL

/-- The signal number when a child was killed, and 0 or 127 otherwise. -/
def termSignal (word : Nat) : Nat := word % 128

def exitCode (word : Nat) : Nat := word / 256 % 256

def stopSignal (word : Nat) : Nat := word / 256 % 256

def traceStop : Nat := 5 + 128

def change (a : WaitAnswer) : Except Errno ChildChange :=
  if a.pid = 0 then .ok .unchanged
  else if termSignal a.word = 0 then .ok (.ended a.pid (.exited (exitCode a.word)))
  else if termSignal a.word ≠ 127 then
    (namedSignal (termSignal a.word)).map fun n => .ended a.pid (.signaled n)
  else if a.word % 256 = 127 then
    if stopSignal a.word = traceStop then .ok (.stopped a.pid)
    else (namedSignal (stopSignal a.word)).map fun _ => .stopped a.pid
  else .ok (.continued a.pid)

end WaitAnswer

end InitDaemon
