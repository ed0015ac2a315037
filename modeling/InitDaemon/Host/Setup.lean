import InitDaemon.Host.Files
import InitDaemon.Host.Path
import InitDaemon.Notice

/-!
# Setup steps

A setup step works on a machine, says what it does and may fail. The machine and what was said stay
when it fails.
-/

namespace InitDaemon.Host

/-- A machine and what was said so far, oldest first. -/
structure Console (σ : Type) where
  machine : σ
  notices : List Notice := []

abbrev Setup (ε σ : Type) := EStateM ε (Console σ)

namespace Setup

variable {ε σ α : Type}

def say (n : Notice) : Setup ε σ Unit :=
  modify fun c => { c with notices := c.notices ++ [n] }

def ask (query : σ → α) : Setup ε σ α := do
  return query (← get).machine

def call (f : σ → α × σ) : Setup ε σ α :=
  modifyGet fun c =>
    let (a, m) := f c.machine
    (a, { c with machine := m })

end Setup

open Setup

variable {ε σ : Type} [Files σ]

/-- Whether a path names a program. One with a NUL names nothing. -/
def isExecutable (path : String) (machine : σ) : Bool :=
  (nulPosition? path).isNone && Files.isExecutable path machine

/-- A mount call with a NUL in one of its strings fails before the machine sees it. -/
def callMount (m : MountCall) : Setup ε σ (Except Errno Unit) := do
  let strings := [m.source, m.target, m.fstype] ++ m.data.toList
  if (strings.findSome? nulPosition?).isSome then return .error .EINVAL
  else call (Files.mount m)

/-- An existing directory is as good as a new one. -/
def alreadyThere (path : String) (e : Errno) : Setup ε σ Bool := do
  return e == .EEXIST && (← ask (Files.isDirectory path))

/-- Goes up from a path until a directory is made or found. Answers the directories that are still
missing, outermost first. -/
def climb : List String → Setup Errno σ (List String)
  | [] => return []
  | path :: rest => do
    if path.isEmpty || (Path.parent? path).isNone then return []
    match ← call (Files.makeDirectory path) with
    | .ok () => return []
    | .error .ENOENT => return (← climb rest) ++ [path]
    | .error e => if ← alreadyThere path e then return [] else throw e

def makeDirectories : List String → Setup Errno σ Unit
  | [] => return
  | path :: rest => do
    match ← call (Files.makeDirectory path) with
    | .ok () => makeDirectories rest
    | .error e => if ← alreadyThere path e then makeDirectories rest else throw e

/-- Makes a directory and those above it that are missing. -/
def makeAll (path : String) : Setup DirectoryError σ Unit := do
  if (nulPosition? path).isSome then throw .nulInPath
  let make : Setup Errno σ Unit := do makeDirectories (← climb (Path.ancestors path))
  make.adaptExcept .errno

def ensureDirectory (path : String) : Setup HostError σ Unit :=
  (makeAll path).adaptExcept (.createDir path)

end InitDaemon.Host
