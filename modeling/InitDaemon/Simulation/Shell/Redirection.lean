import InitDaemon.Simulation.Shell.Expansion

/-!
# Redirections

A redirection gives a command its input from a file or a text, or lets a stream go to a file or to
where another stream goes.
-/

namespace InitDaemon.Simulation.Shell

def setSink (stream : Nat) (k : Sink) : Run Unit :=
  modify fun s => { s with sinks := (stream, k) :: s.sinks.filter (·.1 != stream) }

def setInput (text : List Char) : Run Unit :=
  modify fun s => { s with input := text }

/-- Takes the input from what is found at a path, and says whether there is anything. -/
def openInput : Option Node → Run Bool
  | some (.file content) => do
    setInput content
    return true
  | some _ => do
    setInput []
    return true
  | none => return false

/-- Lets a stream go to a path, and says whether it can. A file is emptied unless `append`. -/
def openOutput (stream : Nat) (append : Bool) (path : Option Path) : Run Bool := do
  let s ← get
  match path with
  | none => return false
  | some p =>
    match s.tree.nodeAt? p with
    | some .directory => return false
    | some .null | some (.program _) =>
      setSink stream .dropped
      return true
    | node =>
      if !s.tree.hasRoom p || (node.isSome && !append && s.option 'C') then return false
      if !append || node.isNone then set { s with tree := s.tree.write p [] }
      setSink stream (.file p)
      return true

/-- Lets a stream go to where the one with a number goes, or closes it. -/
def duplicate (stream : Nat) (target : String) : Run Bool := do
  let s ← get
  match target.toList with
  | ['-'] =>
    set { s with sinks := s.sinks.filter (·.1 != stream) }
    return true
  | [c] =>
    if !c.isDigit then failure
    let source := c.toNat - '0'.toNat
    match s.sinks.lookup source with
    | some k =>
      setSink stream k
      return true
    | none => return source == 0
  | _ => failure

/-- Sets up the streams of a command, and says whether that worked. -/
def redirectAll (run : Runner) : List Redirect → Run Bool
  | [] => return true
  | r :: rest => do
    let target ← textOf run r.target
    let s ← get
    let ok ← match r.kind with
      | .here => do
        setInput target.toList
        pure true
      | .input => openInput (s.tree.node? s.directory target)
      | .output => openOutput r.stream false (s.tree.place? s.directory target)
      | .append => openOutput r.stream true (s.tree.place? s.directory target)
      | .duplicate => duplicate r.stream target
    if ok then redirectAll run rest
    else
      setStatus 2
      return false

/-- Runs a body with redirected streams. If they cannot be set up it is not run, which ends the
shell if `strict`. -/
def redirecting (run : Runner) (strict : Bool) (rs : List Redirect) (body : Run Unit) :
    Run Unit := do
  if rs.isEmpty then body
  else
    let before ← get
    if ← redirectAll run rs then
      let replaced := rs.any fun r => r.stream == 0
      let restore (s : State) : State :=
        { s with sinks := before.sinks, input := if replaced then before.input else s.input }
      fun s =>
        match body s with
        | .ok a t => .ok a (restore t)
        | .error e t => .error e (restore t)
    else
      modify fun s => { s with sinks := before.sinks, input := before.input }
      if strict then throw .exit

end InitDaemon.Simulation.Shell
