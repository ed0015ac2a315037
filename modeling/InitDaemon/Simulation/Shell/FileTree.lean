/-!
# The files that scripts see

A path is the list of its names from the root. The tree of a small machine has its programs in one
directory, to which older names are links.
-/

namespace InitDaemon.Simulation.Shell

abbrev Path := List String

inductive Node
  | directory
  | program (name : String)
  | file (content : List Char)
  /-- Takes whatever is written and is always empty. -/
  | null
deriving DecidableEq, Repr, Inhabited

structure FileTree where
  directories : List Path
  files : List (Path × List Char)
deriving Repr, Inhabited

namespace FileTree

def programs : Path := ["usr", "bin"]

def programNames : List String :=
  ["sh", "dash", "bash", "rbash", "true", "false", "echo", "printf", "test", "[", "sleep", "cat",
    "expr", "env", "basename", "dirname", "seq", "pwd", "printenv", "timeout", "nice", "nohup",
    "setsid", "ls", "touch", "rm", "mkdir", "rmdir", "cp", "mv", "ln", "chmod", "chown", "date",
    "id", "whoami", "uname", "hostname", "head", "tail", "wc", "tr", "cut", "sort", "uniq", "tee",
    "grep", "sed", "find", "xargs", "mktemp", "readlink", "realpath", "stat", "sync", "tty", "yes",
    "tar", "gzip", "od", "nproc", "which", "kill", "arch", "base64", "cksum", "cmp", "comm", "dd",
    "df", "diff", "du", "expand", "factor", "fold", "groups", "install", "join", "link", "logname",
    "md5sum", "nl", "numfmt", "paste", "pathchk", "sha1sum", "sha256sum", "shuf", "split", "stty",
    "tac", "truncate", "unlink", "users"]

def links : List (Path × Path) :=
  [(["bin"], ["usr", "bin"]), (["sbin"], ["usr", "sbin"]), (["lib"], ["usr", "lib"]),
    (["lib64"], ["usr", "lib64"])]

/-- Whether a path names one of the links, or that to the shell. -/
def isLink (path : String) : Bool :=
  let names := (path.splitOn "/").filter (· != "")
  (links.lookup names).isSome || names == ["bin", "sh"] || names == ["usr", "bin", "sh"]

def standard : FileTree where
  directories :=
    [[], ["usr"], ["usr", "bin"], ["usr", "sbin"], ["usr", "lib"], ["usr", "lib64"],
      ["usr", "local"], ["usr", "local", "bin"], ["usr", "local", "sbin"], ["usr", "share"],
      ["etc"], ["dev"], ["proc"], ["proc", "self"], ["proc", "1"], ["sys"], ["tmp"], ["var"],
      ["var", "tmp"], ["var", "log"], ["var", "lib"], ["run"], ["root"], ["home"], ["opt"],
      ["mnt"], ["media"], ["srv"], ["boot"]]
  files :=
    [(["etc", "passwd"], "root:x:0:0:root:/root:/bin/bash\n".toList),
      (["etc", "group"], "root:x:0:\n".toList), (["etc", "hostname"], "localhost\n".toList),
      (["etc", "hosts"], "127.0.0.1\tlocalhost\n".toList), (["etc", "resolv.conf"], ['\n']),
      (["etc", "fstab"], ['\n']), (["etc", "shadow"], ['\n']), (["proc", "mounts"], ['\n'])]

def isDirectory (t : FileTree) (p : Path) : Bool :=
  t.directories.contains p

/-- Follows names from a directory. All but the last one must be directories. -/
def follow (t : FileTree) (here : Path) : List String → Option Path
  | [] => some here
  | name :: rest =>
    if name == "" || name == "." then t.follow here rest
    else if name == ".." then t.follow here.dropLast rest
    else
      let next := (links.lookup (here ++ [name])).getD (here ++ [name])
      if rest.isEmpty then some next
      else if t.isDirectory next then t.follow next rest
      else none

/-- The place that a path names, seen from a directory. The empty path names none. -/
def place? (t : FileTree) (here : Path) (path : String) : Option Path :=
  if path == "" then none
  else if path.startsWith "/" then t.follow [] (path.splitOn "/")
  else t.follow here (path.splitOn "/")

def nodeAt? (t : FileTree) (p : Path) : Option Node :=
  if t.isDirectory p then some .directory
  else if p == ["dev", "null"] then some .null
  else
    match t.files.lookup p with
    | some content => some (.file content)
    | none =>
      match p.getLast? with
      | some name =>
        if p.dropLast == programs && programNames.contains name then some (.program name) else none
      | none => none

def node? (t : FileTree) (here : Path) (path : String) : Option Node :=
  (t.place? here path).bind t.nodeAt?

def hasRoom (t : FileTree) (p : Path) : Bool :=
  !p.isEmpty && t.isDirectory p.dropLast && !t.isDirectory p

def write (t : FileTree) (p : Path) (content : List Char) : FileTree :=
  { t with files := (p, content) :: t.files.filter (·.1 != p) }

def append (t : FileTree) (p : Path) (content : List Char) : FileTree :=
  t.write p ((t.files.lookup p).getD [] ++ content)

def remove (t : FileTree) (p : Path) : FileTree :=
  { t with files := t.files.filter (·.1 != p) }

end FileTree

end InitDaemon.Simulation.Shell
