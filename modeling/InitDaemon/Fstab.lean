import InitDaemon.Text.Blank

/-!
# The table of file systems

An entry has a source, a mount point, a type and options. Options are flags of the mount call or
are handed to the file system as data.
-/

namespace InitDaemon

open Text

/-- The flags of a mount call that the init uses. -/
structure MountFlags where
  readOnly : Bool := false
  noSuid : Bool := false
  noDev : Bool := false
  noExec : Bool := false
  remount : Bool := false
  noAtime : Bool := false
deriving DecidableEq, Repr, Inhabited

namespace MountFlags

def bits (f : MountFlags) : Nat :=
  (if f.readOnly then 1 else 0) + (if f.noSuid then 2 else 0) + (if f.noDev then 4 else 0) +
    (if f.noExec then 8 else 0) + (if f.remount then 32 else 0) + if f.noAtime then 1024 else 0

end MountFlags

structure FstabEntry where
  /-- A device, or a name for one. -/
  source : String
  mountPoint : String
  fstype : String
  /-- The options as written, empty where the column is missing. -/
  options : String
deriving DecidableEq, Repr, Inhabited

namespace FstabEntry

def isSwap (e : FstabEntry) : Bool :=
  e.fstype == "swap" || e.mountPoint == "none" || e.mountPoint == "swap"

/-- The options column cut at commas, without empty pieces. -/
def optionList (e : FstabEntry) : List String :=
  (((splitAt ',' e.options.toList).map trim).filter fun o => !o.isEmpty).map String.ofList

def isAuto (e : FstabEntry) : Bool :=
  !((splitAt ',' e.options.toList).map fun o => String.ofList (trim o)).contains "noauto"

/-- The flag that an option stands for; `rw` and `defaults` stand for the flags as they are. -/
def flagOf? (f : MountFlags) : String → Option MountFlags
  | "ro" => some { f with readOnly := true }
  | "noatime" => some { f with noAtime := true }
  | "nosuid" => some { f with noSuid := true }
  | "nodev" => some { f with noDev := true }
  | "noexec" => some { f with noExec := true }
  | "rw" | "defaults" => some f
  | _ => none

def flags (e : FstabEntry) : MountFlags :=
  e.optionList.foldl (fun f o => (flagOf? f o).getD f) {}

/-- The options that are no flags, in the order in which they are written. -/
def dataOptions (e : FstabEntry) : List String :=
  e.optionList.filter fun o => (flagOf? {} o).isNone

def data (e : FstabEntry) : String :=
  ",".intercalate e.dataOptions

/-- A line with at least three words that is no comment. -/
def ofLine? (line : List Char) : Option FstabEntry :=
  if (trim line).head? = some '#' then none
  else match words line with
    | source :: mountPoint :: fstype :: rest =>
      some {
        source := String.ofList source
        mountPoint := String.ofList mountPoint
        fstype := String.ofList fstype
        options := String.ofList (rest.headD []) }
    | _ => none

end FstabEntry

namespace Fstab

def parse (content : String) : List FstabEntry :=
  (lines content.toList).filterMap FstabEntry.ofLine?

def bootEntries (content : String) : List FstabEntry :=
  (parse content).filter fun e => !e.isSwap && e.isAuto

end Fstab

end InitDaemon
