/-!
# Errors of system calls

A call that fails gives an errno. It has two texts: one for a bare errno and one for a failed
input or output operation.
-/

namespace InitDaemon

inductive Errno
  | EPERM | ENOENT | ESRCH | EINTR | EIO | ENOEXEC | ECHILD | EAGAIN | ENOMEM | EACCES | EBUSY
  | EEXIST | ENODEV | ENOTDIR | EISDIR | EINVAL | ENOSPC | EROFS | ENAMETOOLONG | ELOOP
deriving DecidableEq, Repr, Inhabited

namespace Errno

def all : List Errno :=
  [EPERM, ENOENT, ESRCH, EINTR, EIO, ENOEXEC, ECHILD, EAGAIN, ENOMEM, EACCES, EBUSY, EEXIST,
    ENODEV, ENOTDIR, EISDIR, EINVAL, ENOSPC, EROFS, ENAMETOOLONG, ELOOP]

theorem mem_all (e : Errno) : e ∈ all := by
  cases e <;> decide

def name : Errno → String
  | EPERM => "EPERM"
  | ENOENT => "ENOENT"
  | ESRCH => "ESRCH"
  | EINTR => "EINTR"
  | EIO => "EIO"
  | ENOEXEC => "ENOEXEC"
  | ECHILD => "ECHILD"
  | EAGAIN => "EAGAIN"
  | ENOMEM => "ENOMEM"
  | EACCES => "EACCES"
  | EBUSY => "EBUSY"
  | EEXIST => "EEXIST"
  | ENODEV => "ENODEV"
  | ENOTDIR => "ENOTDIR"
  | EISDIR => "EISDIR"
  | EINVAL => "EINVAL"
  | ENOSPC => "ENOSPC"
  | EROFS => "EROFS"
  | ENAMETOOLONG => "ENAMETOOLONG"
  | ELOOP => "ELOOP"

def number : Errno → Nat
  | EPERM => 1
  | ENOENT => 2
  | ESRCH => 3
  | EINTR => 4
  | EIO => 5
  | ENOEXEC => 8
  | ECHILD => 10
  | EAGAIN => 11
  | ENOMEM => 12
  | EACCES => 13
  | EBUSY => 16
  | EEXIST => 17
  | ENODEV => 19
  | ENOTDIR => 20
  | EISDIR => 21
  | EINVAL => 22
  | ENOSPC => 28
  | EROFS => 30
  | ENAMETOOLONG => 36
  | ELOOP => 40

def description : Errno → String
  | EPERM => "Operation not permitted"
  | ENOENT => "No such file or directory"
  | ESRCH => "No such process"
  | EINTR => "Interrupted system call"
  | EIO => "I/O error"
  | ENOEXEC => "Exec format error"
  | ECHILD => "No child processes"
  | EAGAIN => "Try again"
  | ENOMEM => "Out of memory"
  | EACCES => "Permission denied"
  | EBUSY => "Device or resource busy"
  | EEXIST => "File exists"
  | ENODEV => "No such device"
  | ENOTDIR => "Not a directory"
  | EISDIR => "Is a directory"
  | EINVAL => "Invalid argument"
  | ENOSPC => "No space left on device"
  | EROFS => "Read-only file system"
  | ENAMETOOLONG => "File name too long"
  | ELOOP => "Too many symbolic links encountered"

/-- The wording of the C library, which differs from `description` in four places. -/
def libraryDescription : Errno → String
  | EIO => "Input/output error"
  | EAGAIN => "Resource temporarily unavailable"
  | ENOMEM => "Cannot allocate memory"
  | ELOOP => "Too many levels of symbolic links"
  | e => e.description

def text (e : Errno) : String :=
  e.name ++ ": " ++ e.description

def ioText (e : Errno) : String :=
  e.libraryDescription ++ " (os error " ++ toString e.number ++ ")"

def ofName? (s : String) : Option Errno :=
  all.find? fun e => e.name == s

/-- No two errors have the same name. -/
theorem ofName?_name (e : Errno) : ofName? e.name = some e := by
  cases e <;> decide

end Errno

end InitDaemon
