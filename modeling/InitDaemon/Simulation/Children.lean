import Std.Data.ExtTreeMap
import InitDaemon.Errno
import InitDaemon.Process.Pid
import InitDaemon.ExitStatus

/-!
# Scripted children

A script tells for each program which number its processes get, which attempts to start it fail
and when its processes end. The attempts at one program are counted from zero.
-/

namespace InitDaemon.Simulation

open Std

/-- How a process ends, and how long after its start. -/
structure Ending where
  status : ExitStatus
  delay : Nat
deriving DecidableEq, Repr, Inhabited

inductive Endings
  | always (e : Ending)
  /-- One for each attempt; a process without one stays. -/
  | listed (es : List (Option Ending))
deriving DecidableEq, Repr, Inhabited

def Endings.of? : Endings → Nat → Option Ending
  | always e, _ => some e
  | listed es, n => es[n]?.join

structure ChildScript where
  firstPids : ExtTreeMap String Int := ∅
  failures : ExtTreeMap String (List (Option Errno)) := ∅
  endings : ExtTreeMap String Endings := ∅
  attempts : ExtTreeMap String Nat := ∅
  /-- The next number for programs without numbers of their own. -/
  nextPid : Pid := 100

structure Birth where
  pid : Pid
  ending : Option Ending
deriving DecidableEq, Repr, Inhabited

namespace ChildScript

def start (s : ChildScript) (program : String) : Except Errno Birth × ChildScript :=
  let n := s.attempts[program]?.getD 0
  let counted := { s with attempts := s.attempts.insert program (n + 1) }
  match (s.failures[program]?.bind (·[n]?)).join with
  | some e => (.error e, counted)
  | none =>
    let ending := s.endings[program]?.bind (·.of? n)
    match s.firstPids[program]? with
    | some first => (.ok ⟨first + n, ending⟩, counted)
    | none => (.ok ⟨s.nextPid, ending⟩, { counted with nextPid := s.nextPid + 1 })

end ChildScript

end InitDaemon.Simulation
