import InitDaemon.Simulation.Shell.Expansion

/-!
# Loops, functions and assignments

A loop is left early by the commands for that, a function by its own. Both have limits, so that a
script that never ends is told apart from one that does.
-/

namespace InitDaemon.Simulation.Shell

/-! ## Loops -/

/-- More turns than a script takes. -/
def turnLimit : Nat := 1000000

/-- A script that has not ended by then is taken for stuck. -/
def exhausted {α : Type} : Run α :=
  throw (.ended (.signaled 11))

/-- Runs turns of a loop until one is the last. Each gets the status of the one before it. -/
def repeatTurns (turn : Nat → Run (Bool × Nat)) : Nat → Nat → Run Nat
  | 0, _ => exhausted
  | n + 1, status => do
    let (again, status) ← turn status
    if again then repeatTurns turn n status else return status

def eachTurn (turn : String → Run (Bool × Nat)) : List String → Nat → Run Nat
  | [], status => return status
  | v :: vs, _ => do
    let (again, status) ← turn v
    if again then eachTurn turn vs status else return status

/-- Runs a loop and keeps the status of its last turn. -/
def inLoop (body : Run Nat) : Run Unit := fun s =>
  match body { s with loops := s.loops + 1 } with
  | .ok status t => .ok () { t with loops := s.loops, status }
  | .error e t => .error e { t with loops := s.loops }

/-- A turn of a loop, with whether there is another one and its status. It may be left early. -/
def leaving (body : Run (Bool × Nat)) : Run (Bool × Nat) := fun s =>
  match body s with
  | .error (.loop again levels) t =>
    if levels ≤ 1 then .ok (again, 0) t else .error (.loop again (levels - 1)) t
  | r => r

/-! ## Functions and variables -/

def callLimit : Nat := 1000

/-- Runs the body of a function with arguments and variables of its own. -/
def calling (args : List String) (body : Run Unit) : Run Unit := fun s =>
  if s.locals.length ≥ callLimit then failure s else
  let restore (t : State) : State :=
    let t := (t.locals.headD []).foldl (fun t (name, old) =>
      match old with
      | some v => t.setVariable name v
      | none => t.dropVariable name) t
    { t with arguments := s.arguments, loops := s.loops, locals := s.locals }
  match body { s with arguments := args, loops := 0, locals := [] :: s.locals } with
  | .ok a t => .ok a (restore t)
  | .error .returned t => .ok () (restore t)
  | .error e t => .error e (restore t)

def assigning (run : Runner) (as : List Assignment) (body : Run Unit) : Run Unit := do
  let before ← get
  for a in as do
    assign a.name (← textOf run a.value)
    modify fun s => s.setVariable a.name { (s.entry? a.name).getD default with exported := true }
  let restore (s : State) : State :=
    as.foldl (fun s a =>
      match before.entry? a.name with
      | some v => s.setVariable a.name v
      | none => s.dropVariable a.name) s
  fun s =>
    match body s with
    | .ok a t => .ok a (restore t)
    | .error e t => .error e (restore t)

/-- Gives variables values that stay, and exports them if `exported`. -/
def assignAll (run : Runner) (exported : Bool) : List Assignment → Run Unit
  | [] => pure ()
  | a :: rest => do
    assign a.name (← textOf run a.value)
    modify fun s =>
      let v := (s.entry? a.name).getD default
      s.setVariable a.name { v with exported := v.exported || exported }
    assignAll run exported rest

end InitDaemon.Simulation.Shell
