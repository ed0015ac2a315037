import InitDaemon.Host.Setup

/-!
# File systems

The mandatory file systems are mounted first, and the first that fails ends the step. The entries
of the table of file systems follow; they may fail one by one. What is mounted already is left
alone or, in the table, remounted.
-/

namespace InitDaemon.Host

open Setup Text

def kernelMounts : List MountCall :=
  let flags : MountFlags := { noSuid := true, noDev := true, noExec := true }
  [{ source := "proc", target := "/proc", fstype := "proc", flags },
    { source := "sysfs", target := "/sys", fstype := "sysfs", flags }]

def devMount : MountCall :=
  { source := "devtmpfs", target := "/dev", fstype := "devtmpfs", flags := { noSuid := true },
    data := some "mode=0755" }

/-- Takes the place of `devMount` on a kernel that has no device file system. -/
def devFallback : MountCall :=
  { devMount with source := "tmpfs", fstype := "tmpfs" }

def runtimeMounts : List MountCall :=
  [{ source := "devpts", target := "/dev/pts", fstype := "devpts",
      flags := { noSuid := true, noExec := true }, data := some "mode=0620,gid=5" },
    { source := "tmpfs", target := "/run", fstype := "tmpfs",
      flags := { noSuid := true, noDev := true }, data := some "mode=0755" },
    { source := "tmpfs", target := "/tmp", fstype := "tmpfs" }]

/-- Devices that every program expects, then those of screen and input. -/
def deviceNodes : List DeviceNode :=
  [⟨"/dev/null", 0o666, 1, 3⟩, ⟨"/dev/zero", 0o666, 1, 5⟩, ⟨"/dev/full", 0o666, 1, 7⟩,
    ⟨"/dev/random", 0o666, 1, 8⟩, ⟨"/dev/urandom", 0o666, 1, 9⟩, ⟨"/dev/tty", 0o666, 5, 0⟩,
    ⟨"/dev/console", 0o600, 5, 1⟩, ⟨"/dev/ptmx", 0o666, 5, 2⟩, ⟨"/dev/fb0", 0o660, 29, 0⟩,
    ⟨"/dev/dri/card0", 0o660, 226, 0⟩, ⟨"/dev/dri/renderD128", 0o660, 226, 128⟩,
    ⟨"/dev/input/mice", 0o660, 13, 63⟩, ⟨"/dev/input/event0", 0o660, 13, 64⟩]

def terminals : List DeviceNode :=
  (List.range 8).map fun n => ⟨"/dev/tty" ++ toString n, 0o666, 4, n⟩

/-- Links below the device directory, each with its target first. -/
def deviceLinks : List (String × String) :=
  [("/proc/self/fd", "/dev/fd"), ("/proc/self/fd/0", "/dev/stdin"),
    ("/proc/self/fd/1", "/dev/stdout"), ("/proc/self/fd/2", "/dev/stderr")]

def mountTable : String := "/proc/mounts"

def fstabPath : String := "/etc/fstab"

/-- The mount points that a mount table lists: the second word of each line. -/
def listedMountPoints (table : String) : List String :=
  (lines table.toList).filterMap fun line => (words line)[1]?.map String.ofList

variable {ε σ : Type} [Files σ]

/-- Asks the mount table. Without one, a mount point is a path on another device than its
parent. -/
def isMountPoint (path : String) (machine : σ) : Bool :=
  match Files.readText mountTable machine with
  | .ok table => (listedMountPoints table).contains path
  | .error _ =>
    match Path.parent? path with
    | none => false
    | some parent =>
      match Files.device? path machine, Files.device? parent machine with
      | some own, some above => own != above
      | _, _ => false

/-- Mounts a file system unless its mount point is one already. -/
def mountOne (m : MountCall) : Setup HostError σ Unit := do
  if ← ask (isMountPoint m.target) then
    say (.alreadyMounted m.target)
  else
    unless ← ask (Files.present m.target) do
      (makeAll m.target).adaptExcept (.mountPoint m.target)
    match ← callMount m with
    | .ok () => say (.mounted m.fstype m.target)
    | .error e => throw (.mount m.target m.fstype e)

def mountEach : List MountCall → Setup HostError σ Unit
  | [] => return
  | m :: rest => do
    mountOne m
    mountEach rest

def attempt (step : Setup HostError σ Unit) : Setup ε σ (Except HostError Unit) := fun c =>
  match step c with
  | .ok () c => .ok (.ok ()) c
  | .error e c => .ok (.error e) c

/-- Makes a device and the directory that it stands in. Only the device's failure is told. -/
def makeDevice (node : DeviceNode) : Setup HostError σ Unit := do
  if let some parent := Path.parent? node.path then
    let _ ← attempt (ε := HostError) (ensureDirectory parent)
  match ← call (Files.makeNode node) with
  | .ok () => return
  | .error e => say (.nodeFailed node.path e)

def makeDevices : List DeviceNode → Setup HostError σ Unit
  | [] => return
  | node :: rest => do
    makeDevice node
    makeDevices rest

def mountDev : Setup HostError σ Unit := do
  match ← attempt (mountOne devMount) with
  | .ok () => return
  | .error e =>
    say (.fallingBack e)
    mountOne devFallback
    makeDevices (deviceNodes ++ terminals)

def makeLinks : List (String × String) → Setup HostError σ Unit
  | [] => return
  | (target, link) :: rest => do
    unless ← ask (Files.present link) do
      match ← call (Files.makeLink target link) with
      | .ok () => pure ()
      | .error e => say (.linkFailed link target e)
    makeLinks rest

/-- The call for an entry of the table of file systems. -/
def entryCall (e : FstabEntry) (remount : Bool) : MountCall where
  source := e.source
  target := e.mountPoint
  fstype := e.fstype
  flags := { e.flags with remount := remount }
  data := if e.data.isEmpty then none else some e.data

def mountEntry (e : FstabEntry) : Setup HostError σ Unit := do
  let remount ← ask (isMountPoint e.mountPoint)
  if remount then say (.remounting e.mountPoint)
  match ← callMount (entryCall e remount) with
  | .ok () => say (.entryMounted e.mountPoint)
  | .error err => say (.entryFailed e.mountPoint err)

def mountEntries : List FstabEntry → Setup HostError σ Unit
  | [] => return
  | e :: rest => do
    mountEntry e
    mountEntries rest

def mountFstab : Setup HostError σ Unit := do
  say (.readingFstab fstabPath)
  match ← ask (Files.readText fstabPath) with
  | .ok content => mountEntries (Fstab.bootEntries content)
  | .error e => say (.fstabUnreadable fstabPath e)

def mountAll : Setup HostError σ Unit := do
  say .mountingBasics
  mountEach kernelMounts
  mountDev
  makeLinks deviceLinks
  mountEach runtimeMounts
  mountFstab

end InitDaemon.Host
