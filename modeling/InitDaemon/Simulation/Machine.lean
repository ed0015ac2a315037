import Std.Data.ExtTreeSet
import InitDaemon.Host.Files
import InitDaemon.Process.Kernel
import InitDaemon.Simulation.Children

/-!
# A machine in memory

A machine whose files, devices and processes are tables. It keeps a record of the calls that change
it, and every call can be made to fail.
-/

namespace InitDaemon.Simulation

open Std

inductive Call
  | makeDirectory (path : String)
  | mount (m : MountCall) (result : Except Errno Unit)
  | makeNode (node : DeviceNode) (result : Except Errno Unit)
  | makeLink (target link : String) (result : Except Errno Unit)
  | setHostname (name : String) (result : Except Errno Unit)
  | run (program : String) (argv env : List String)
  | signalAll (signal : ShutdownSignal) (result : Except Errno Unit)
  | sync
  | reboot (state : PowerState) (result : Except Errno Unit)
  | spawn (pid : Pid) (argv env : List String)
  | forkFailed (argv : List String)

structure Child where
  pid : Pid
  ending : Option (Nat × ExitStatus)
deriving DecidableEq, Repr, Inhabited

def Child.death (c : Child) : List (Nat × Pid) :=
  (c.ending.map fun (time, _) => (time, c.pid)).toList

structure Machine where
  /-- Existing directories; the root need not be listed. -/
  directories : ExtTreeSet String := ∅
  files : ExtTreeSet String := ∅
  mountTable : Except ReadError String := .error (.errno .ENOENT)
  /-- The lines of all mounts so far, whether there is a table for them or not. -/
  mountLines : String := ""
  texts : ExtTreeMap String (Except ReadError String) := ∅
  devices : ExtTreeMap String Nat := ∅
  nextDevice : Nat := 1
  executables : List String := []
  /-- Calls that fail, by the name of the call and what it is about. -/
  failures : ExtTreeMap String Errno := ∅
  ip : Except Errno ExitStatus := .ok (.exited 0)
  isFirstProcess : Bool := false
  clock : Nat := 0
  /-- No blocking call outlasts this time. -/
  limit : Nat := 0
  /-- Answers of wait calls that come before those about children. -/
  answers : List (Except Errno WaitAnswer) := []
  script : ChildScript := {}
  /-- Children that have not been collected, in the order of their start. -/
  children : List Child := []
  /-- Children that end, with the time, of those ends that have not been announced. -/
  deaths : List (Nat × Pid) := []
  /-- Calls and their times, the latest first. -/
  calls : List (Nat × Call) := []

namespace Machine

def root : String := "/"

/-- A path without the slashes at its end. -/
def stem (path : String) : String :=
  String.ofList (path.toList.reverse.dropWhile (· == '/')).reverse

/-- What stands before the last slash of a path. A single name stands in the root. -/
def directoryOf (path : String) : String :=
  String.ofList ((path.toList.reverse.dropWhile (· != '/')).drop 1).reverse

/-- The tables know paths as they are spelled. -/
def isDirectory (m : Machine) (path : String) : Bool :=
  path == root || m.directories.contains path

def present (m : Machine) (path : String) : Bool :=
  m.isDirectory path || m.files.contains path

def record (m : Machine) (c : Call) : Machine :=
  { m with calls := (m.clock, c) :: m.calls }

def failure? (m : Machine) (keys : List String) : Option Errno :=
  keys.findSome? fun key => m.failures[key]?

def unlessFails (m : Machine) (keys : List String) (r : Except Errno Unit) : Except Errno Unit :=
  match m.failure? keys with
  | some e => .error e
  | none => r

/-- Whether the nearest thing at or above a path, at most `depth` steps up, is a file. -/
def belowFile (m : Machine) : Nat → String → Bool
  | 0, _ => false
  | depth + 1, path =>
    !path.isEmpty && !m.directories.contains path &&
      (m.files.contains path || m.belowFile depth (directoryOf path))

def roomFor (m : Machine) (path : String) : Except Errno Unit :=
  let directory := directoryOf (stem path)
  if directory.isEmpty || m.directories.contains directory then .ok ()
  else if m.belowFile directory.length directory then .error .ENOTDIR
  else .error .ENOENT

/-- A directory that is there already is found before the one that it stands in is looked at. -/
def roomForDirectory (m : Machine) (path : String) : Except Errno Unit :=
  if m.present path then .error .EEXIST else m.roomFor path

def roomForNode (m : Machine) (path : String) : Except Errno Unit := do
  m.roomFor path
  if m.present path then throw .EEXIST

def makeDirectory (path : String) (m : Machine) : Except Errno Unit × Machine :=
  match m.unlessFails ["mkdir " ++ path] (m.roomForDirectory path) with
  | .ok () =>
    (.ok (), { m.record (.makeDirectory path) with directories := m.directories.insert path })
  | .error e => (.error e, m)

def addFile (m : Machine) (path : String) : Except Errno Unit → Machine
  | .ok () => { m with files := m.files.insert path }
  | .error _ => m

def makeNode (node : DeviceNode) (m : Machine) : Except Errno Unit × Machine :=
  let r := m.unlessFails ["mknod " ++ node.path] (m.roomForNode node.path)
  (r, (m.record (.makeNode node r)).addFile node.path r)

def makeLink (target link : String) (m : Machine) : Except Errno Unit × Machine :=
  let r := m.unlessFails ["symlink " ++ link] (m.roomFor link)
  (r, (m.record (.makeLink target link r)).addFile link r)

/-- A failure for a mount point comes before one for a file system on it. -/
def mountKeys (c : MountCall) : List String :=
  let call := if c.flags.remount then "remount " else "mount "
  [call ++ c.target, call ++ c.target ++ " " ++ c.fstype]

def mountLine (c : MountCall) : String :=
  c.source ++ " " ++ c.target ++ " " ++ c.fstype ++ " rw 0 0\n"

/-- A new mount lies on a device of its own and has a line in the mount table. A table that is
missing appears together with the file system that holds it. -/
def addMount (m : Machine) (c : MountCall) : Machine :=
  let table := m.mountLines ++ mountLine c
  { m with
    devices := m.devices.insert c.target m.nextDevice
    nextDevice := m.nextDevice + 1
    mountLines := table
    mountTable := match m.mountTable with
      | .ok listed => .ok (listed ++ mountLine c)
      | .error (.errno .ENOENT) => if c.target == "/proc" then .ok table else m.mountTable
      | .error _ => m.mountTable }

def mount (c : MountCall) (m : Machine) : Except Errno Unit × Machine :=
  let r := m.unlessFails (mountKeys c) (.ok ())
  let seen := m.record (.mount c r)
  match r with
  | .ok () => (r, if c.flags.remount then seen else seen.addMount c)
  | .error _ => (r, seen)

def setHostname (name : String) (m : Machine) : Except Errno Unit × Machine :=
  let r := m.unlessFails ["sethostname"] (.ok ())
  (r, m.record (.setHostname name r))

def run (program : String) (argv env : List String) (m : Machine) :
    Except Errno ExitStatus × Machine :=
  (m.ip, m.record (.run program argv env))

/-- The number of the nearest device at or above a path. -/
def deviceAt (m : Machine) : Nat → String → Nat
  | 0, _ => m.devices[root]?.getD 0
  | depth + 1, path =>
    match m.devices[path]? with
    | some n => n
    | none => m.deviceAt depth (directoryOf path)

def device? (path : String) (m : Machine) : Option Nat :=
  if m.present path then some (m.deviceAt path.length path) else none

def readText (path : String) (m : Machine) : Except ReadError String :=
  if path == "/proc/mounts" then m.mountTable
  else m.texts[path]?.getD (.error (.errno .ENOENT))

instance : Files Machine where
  readText := readText
  present path m := m.present path
  isDirectory path m := m.isDirectory path
  device? := device?
  isExecutable path m := m.executables.contains path
  makeDirectory := makeDirectory
  mount := mount
  makeNode := makeNode
  makeLink := makeLink
  setHostname := setHostname
  run := run

def fork (argv env : List String) (m : Machine) : Except Errno Pid × Machine :=
  match m.script.start (argv.headD "") with
  | (.ok birth, script) =>
    let child : Child :=
      ⟨birth.pid, birth.ending.map fun e => (m.clock + e.delay, e.status)⟩
    (.ok birth.pid,
      { m.record (.spawn birth.pid argv env) with
        script := script
        children := m.children ++ [child]
        deaths := m.deaths ++ child.death })
  | (.error e, script) => (.error e, { m.record (.forkFailed argv) with script := script })

def wordOf : ExitStatus → Nat
  | .exited code => (code % 256).toNat * 256
  | .signaled signal => (signal % 128).toNat

/-- Of the children that have ended by a time, the one that did so first. -/
def firstEnded? (now : Nat) (children : List Child) : Option Child :=
  let times := children.filterMap fun c => c.ending.map (·.1)
  match (times.filter (· ≤ now)).min? with
  | some t => children.find? fun c => c.ending.map (·.1) == some t
  | none => none

def endWord (c : Child) : Nat :=
  wordOf (c.ending.elim (.exited 0) (·.2))

/-- Removes a child that has been collected. Its end is not announced any more. -/
def collect (c : Child) (m : Machine) : Machine :=
  { m with children := m.children.erase c, deaths := m.deaths.removeAll c.death }

def waitAny (m : Machine) : Except Errno WaitAnswer × Machine :=
  match m.answers with
  | a :: rest => (a, { m with answers := rest })
  | [] =>
    if m.children.isEmpty then (.error .ECHILD, m)
    else match firstEnded? m.clock m.children with
      | some c => (.ok ⟨c.pid, endWord c⟩, m.collect c)
      | none => (.ok ⟨0, 0⟩, m)

def waitFor (pid : Pid) (m : Machine) : Blocking (Except Errno WaitAnswer) × Machine :=
  match m.answers with
  | a :: rest => (.at m.clock a, { m with answers := rest })
  | [] =>
    match m.children.find? fun c => c.pid == pid with
    | none => (.at m.clock (.error .ECHILD), m)
    | some c =>
      match c.ending with
      | none => (.never, m)
      | some (t, _) =>
        if max m.clock t ≤ m.limit then
          (.at (max m.clock t) (.ok ⟨pid, endWord c⟩),
            { m with clock := max m.clock t }.collect c)
        else (.never, m)

def signalAll (signal : ShutdownSignal) (m : Machine) : Except Errno Unit × Machine :=
  let r := m.unlessFails ["kill " ++ toString signal.number] (.ok ())
  (r, m.record (.signalAll signal r))

def reboot (state : PowerState) (m : Machine) : Except Errno Unit × Machine :=
  let r := m.unlessFails ["reboot"] (.ok ())
  (r, m.record (.reboot state r))

def backlog (m : Machine) : Nat :=
  m.answers.length + m.children.length

theorem mem_of_firstEnded? {now : Nat} {children : List Child} {c : Child}
    (h : firstEnded? now children = some c) : c ∈ children := by
  simp only [firstEnded?] at h
  split at h
  · exact List.mem_of_find?_eq_some h
  · cases h

theorem backlog_collect (m : Machine) (c : Child) (hc : c ∈ m.children) :
    (m.collect c).backlog < m.backlog := by
  have := List.length_pos_of_mem hc
  simp only [backlog, collect, List.length_erase_of_mem hc]
  omega

theorem backlog_waitAny (m : Machine) (a : WaitAnswer) (m' : Machine)
    (h : waitAny m = (.ok a, m')) (ha : a.pid ≠ 0) : m'.backlog < m.backlog := by
  unfold waitAny at h
  split at h
  · next hq =>
    cases h
    simp [backlog, hq]
  · split at h
    · simp at h
    · split at h
      · next c hc =>
        cases h
        exact backlog_collect m c (mem_of_firstEnded? hc)
      · cases h
        simp at ha

theorem backlog_waitFor (pid : Pid) (m : Machine) (t : Nat) (r : Except Errno WaitAnswer)
    (m' : Machine) (h : waitFor pid m = (.at t r, m'))
    (hr : r = .error .EINTR ∨ ∃ a, r = .ok a) : m'.backlog < m.backlog := by
  unfold waitFor at h
  split at h
  · next hq =>
    cases h
    simp [backlog, hq]
  · split at h
    · cases h
      simp at hr
    · next c hc =>
      split at h
      · cases h
      · split at h
        · cases h
          exact backlog_collect { m with clock := _ } c (List.mem_of_find?_eq_some hc)
        · cases h

instance : Kernel Machine where
  setTime t m := { m with clock := t }
  fork := fork
  waitAny := waitAny
  waitFor := waitFor
  signalAll := signalAll
  sync m := m.record .sync
  reboot := reboot
  backlog := backlog
  backlog_waitAny := backlog_waitAny
  backlog_waitFor := backlog_waitFor

end Machine

end InitDaemon.Simulation
