import InitDaemon.Errno
import InitDaemon.Process.Pid

/-!
# Failures

Why a unit did not become ready, why a process could not be spawned, why a setup step of the host
failed and why a file could not be read. Each has one text.
-/

namespace InitDaemon

/-- Why a unit did not become ready. Every requester of the unit sees the same value. -/
inductive StartError
  /-- `chain` holds the units that asked for it, nearest first. -/
  | notFound (name : String) (chain : List String)
  | cycle (members : List String)
  | dependency (unit dependency reason : String)
  | spawn (unit reason : String)
  | action (unit reason : String)
  | abandoned (unit : String)
  | shuttingDown (unit : String)
deriving DecidableEq, Repr, Inhabited

def StartError.text : StartError → String
  | notFound name chain => "Unit " ++ name ++ " not found " ++ ",".intercalate chain
  | cycle members => "Dependency cycle detected: " ++ " -> ".intercalate members
  | dependency unit dep reason => unit ++ ": dependency " ++ dep ++ " failed: " ++ reason
  | spawn unit reason => unit ++ ": failed to spawn: " ++ reason
  | action unit reason => unit ++ ": " ++ reason
  | abandoned unit => unit ++ ": start sequence abandoned"
  | shuttingDown unit => unit ++ ": not started, shutting down"

/-- Ready, or the reason why not. -/
abbrev Outcome := Except StartError Unit

instance : DecidableEq Outcome
  | .ok (), .ok () => isTrue rfl
  | .error e, .error e' => decidable_of_iff (e = e') ⟨congrArg _, fun h => by cases h; rfl⟩
  | .ok (), .error _ | .error _, .ok () => isFalse (fun h => by cases h)

inductive SpawnError
  | emptyCommand
  /-- A string that holds a NUL, with the position of its first one in bytes. -/
  | invalidArgument (position : Nat)
  | fork (errno : Errno)
deriving DecidableEq, Repr, Inhabited

def SpawnError.text : SpawnError → String
  | emptyCommand => "Empty command line"
  | invalidArgument position =>
    "Invalid argument: nul byte found in provided data at position: " ++ toString position
  | fork errno => "fork failed: " ++ errno.text

def nulPosition? (s : String) : Option Nat :=
  if s.toList.contains '\x00' then
    some (((s.toList.takeWhile (· != '\x00')).map Char.utf8Size).foldl (· + ·) 0)
  else none

/-- No system call takes a string with a NUL: the first one that has one decides. -/
def rejectNul (strings : List String) : Except SpawnError Unit :=
  match strings.findSome? nulPosition? with
  | some position => .error (.invalidArgument position)
  | none => .ok ()

inductive DirectoryError
  | errno (e : Errno)
  /-- The path holds a NUL, so that no call was made. -/
  | nulInPath
deriving DecidableEq, Repr, Inhabited

def DirectoryError.text : DirectoryError → String
  | errno e => e.ioText
  | nulInPath => "file name contained an unexpected NUL byte"

inductive HostError
  | mountPoint (path : String) (reason : DirectoryError)
  | mount (target fstype : String) (errno : Errno)
  | command (line : String) (errno : Errno)
  | status (code : Int)
  | hostname (errno : Errno)
  | createDir (path : String) (reason : DirectoryError)
deriving DecidableEq, Repr, Inhabited

def HostError.text : HostError → String
  | mountPoint path reason => "Failed to create directory " ++ path ++ ": " ++ reason.text
  | mount target fstype errno =>
    "Failed to mount " ++ fstype ++ " on " ++ target ++ ": " ++ errno.text
  | command line errno => "Failed to run " ++ line ++ ": " ++ errno.ioText
  | status code => "ip link returned " ++ toString code
  | hostname errno => "sethostname failed: " ++ errno.text
  | createDir path reason => "Failed to create " ++ path ++ ": " ++ reason.text

inductive ReadError
  | errno (e : Errno)
  | notText
deriving DecidableEq, Repr, Inhabited

def ReadError.text : ReadError → String
  | errno e => e.ioText
  | notText => "stream did not contain valid UTF-8"

end InitDaemon
