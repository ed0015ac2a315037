import InitDaemon.Simulation.Shell.Printing
import InitDaemon.Simulation.Shell.Test

/-!
# Programs

What the programs of the machine do with their arguments, the files and their input.
-/

namespace InitDaemon.Simulation.Shell.Programs

structure Outcome where
  status : Nat := 0
  output : List Char := []
  milliseconds : Nat := 0
  tree : FileTree

/-- A number of seconds with a unit, in milliseconds. -/
def duration? (s : String) : Option Nat :=
  let cs := s.toList
  let (whole, rest) := cs.span Char.isDigit
  let (fraction, rest) :=
    match rest with
    | '.' :: rest => rest.span Char.isDigit
    | rest => ([], rest)
  if whole.isEmpty && fraction.isEmpty then none
  else
    let part := (fraction ++ ['0', '0', '0']).take 3
    let value := Printing.numberOf whole * 1000 + Printing.numberOf part
    match rest with
    | [] | ['s'] => some value
    | ['m'] => some (value * 60)
    | ['h'] => some (value * 3600)
    | ['d'] => some (value * 86400)
    | _ => none

/-! ## Expressions -/

def isNull (s : String) : Bool :=
  s == "" || decimal? s == some 0

def flag (b : Bool) : String :=
  if b then "1" else "0"

/-- The value of an operation on arguments. Texts are compared as numbers if both are some. -/
def combine? (a operator b : String) : Option String :=
  let less := match decimal? a, decimal? b with
    | some m, some n => m < n
    | _, _ => a < b
  let equal := match decimal? a, decimal? b with
    | some m, some n => m == n
    | _, _ => a == b
  match operator with
  | "|" => some (if !isNull a then a else if isNull b then "0" else b)
  | "&" => some (if isNull a || isNull b then "0" else a)
  | "=" | "==" => some (flag equal)
  | "!=" => some (flag !equal)
  | "<" => some (flag less)
  | "<=" => some (flag (less || equal))
  | ">" => some (flag (!less && !equal))
  | ">=" => some (flag !less)
  | _ => do
    let m ← decimal? a
    let n ← decimal? b
    match operator with
    | "+" => return toString (m + n)
    | "-" => return toString (m - n)
    | "*" => return toString (m * n)
    | "/" => if n == 0 then none else return toString (m.tdiv n)
    | "%" => if n == 0 then none else return toString (m.tmod n)
    | _ => none

/-- Operators by how tightly they bind, the loosest first. -/
def operatorLevels : List (List String) :=
  [["|"], ["&"], ["=", "==", "!=", "<", "<=", ">", ">="], ["+", "-"], ["*", "/", "%"]]

mutual

def expression : Nat → List (List String) → List String → Option (String × List String)
  | 0, _, _ => none
  | n + 1, [], args =>
    match args with
    | "(" :: rest => do
      match ← expression n operatorLevels rest with
      | (a, ")" :: rest) => return (a, rest)
      | _ => none
    | "length" :: a :: rest => some (toString a.length, rest)
    | a :: rest => some (a, rest)
    | [] => none
  | n + 1, level :: tighter, args => do
    let (a, rest) ← expression n tighter args
    expressionAfter n level tighter a rest

def expressionAfter : Nat → List String → List (List String) → String → List String →
    Option (String × List String)
  | 0, _, _, _, _ => none
  | n + 1, level, tighter, a, args =>
    match args with
    | operator :: rest =>
      if level.contains operator then do
        let (b, rest) ← expression n tighter rest
        expressionAfter n level tighter (← combine? a operator b) rest
      else some (a, args)
    | [] => some (a, [])

end

def expr (args : List String) : List Char × Nat :=
  match expression (16 * args.length + 16) operatorLevels args with
  | some (a, []) => (a.toList ++ ['\n'], if isNull a then 1 else 0)
  | _ => ([], 2)

/-! ## Files and texts -/

/-- The files named by arguments, or the input if there are none. -/
def contents (s : State) (args : List String) : List Char × Nat :=
  if args.isEmpty then (s.input, 0)
  else
    args.foldl (fun (out, status) a =>
      if a == "-" then (out ++ s.input, status)
      else
        match s.tree.node? s.directory a with
        | some (.file content) => (out ++ content, status)
        | some .null => (out, status)
        | _ => (out, 1)) ([], 0)

def linesOf (cs : List Char) : List String :=
  let ls := (String.ofList cs).splitOn "\n"
  if ls.getLast? == some "" then ls.dropLast else ls

def unlines (ls : List String) : List Char :=
  ls.flatMap fun l => l.toList ++ ['\n']

def baseName (path : String) : String :=
  match ((path.splitOn "/").filter (· != "")).getLast? with
  | some name => name
  | none => if path == "" then "" else "/"

def parentName (path : String) : String :=
  let names := (path.splitOn "/").filter (· != "")
  if path.startsWith "/" then "/" ++ String.intercalate "/" names.dropLast
  else if names.length ≤ 1 then "."
  else String.intercalate "/" names.dropLast

def range (first step last : Int) : List String :=
  let count := if step > 0 then (last - first) / step + 1
    else if step < 0 then (first - last) / (-step) + 1 else 0
  (List.range count.toNat).map fun (i : Nat) => toString (first + step * (i : Int))

/-- How often the lines, words and characters of a text are counted. -/
def count (cs : List Char) : String → Option Nat
  | "-l" => some (cs.count '\n')
  | "-c" | "-m" => some (String.ofList cs).utf8ByteSize
  | "-w" =>
    some (((String.ofList (cs.map fun c => if isSpace c then ' ' else c)).splitOn " ").filter
      (· != "")).length
  | _ => none

/-- Whether a line holds a text, at its start or end if the text has a mark for that. -/
def lineHolds (pattern line : List Char) : Bool :=
  let (fromStart, pattern) := match pattern with
    | '^' :: p => (true, p)
    | p => (false, p)
  let (toEnd, pattern) :=
    if pattern.getLast? == some '$' then (true, pattern.dropLast) else (false, pattern)
  if fromStart && toEnd then line == pattern
  else if fromStart then pattern.isPrefixOf line
  else if toEnd then pattern.isSuffixOf line
  else (List.range (line.length + 1)).any fun n => pattern.isPrefixOf (line.drop n)

def demanding : List String :=
  ["mkdir", "rmdir", "rm", "touch", "tr", "cut", "chmod", "chown", "cp", "mv", "ln", "sed", "stat",
    "readlink", "realpath", "comm", "join", "link", "unlink", "install", "pathchk", "truncate"]

/-- Programs that fail unless there is a terminal or somebody who logged in. -/
def failing : List String :=
  ["false", "tty", "stty", "logname"]

def isFlag (s : String) : Bool :=
  s.startsWith "-" && s != "-"

def run (s : State) (environment : List String) (name : String) (args : List String) : Outcome :=
  let files := args.filter fun a => !isFlag a
  let flags := args.filter isFlag
  let ended (status : Nat) : Outcome := { status, tree := s.tree }
  let printed (output : List Char) (status : Nat) : Outcome := { status, output, tree := s.tree }
  let present (path : String) : Bool := (s.tree.node? s.directory path).isSome
  if failing.contains name || (demanding.contains name && files.isEmpty) then ended 1 else
  match name with
  | "echo" =>
    match args with
    | "-e" :: args => printed (Printing.echo true args) 0
    | _ => printed (Printing.echo false args) 0
  | "printf" =>
    let (out, status) := Printing.printf args
    printed out (min status 1)
  | "test" | "[" => ended (Test.status ⟨s, true⟩ name args)
  | "expr" =>
    let (out, status) := expr args
    printed out status
  | "sleep" =>
    match args.mapM duration? with
    | some ds =>
      { status := if ds.isEmpty then 1 else 0
        milliseconds := ds.foldl (· + ·) 0
        tree := s.tree }
    | none => ended 1
  | "cat" =>
    let (out, status) := contents s files
    printed out status
  | "basename" =>
    match args with
    | [a] => printed ((baseName a).toList ++ ['\n']) 0
    | [a, ending] =>
      let b := (baseName a).toList
      let cut := if ending.toList.isSuffixOf b && b.length > ending.length then
        b.take (b.length - ending.length) else b
      printed (cut ++ ['\n']) 0
    | _ => ended 1
  | "dirname" =>
    if args.isEmpty then ended 1 else printed (unlines (args.map parentName)) 0
  | "pwd" => printed ((State.pathOf s.directory).toList ++ ['\n']) 0
  | "seq" =>
    match args.mapM decimal? with
    | some [last] => printed (unlines (range 1 1 last)) 0
    | some [first, last] => printed (unlines (range first 1 last)) 0
    | some [first, step, last] =>
      if step == 0 then ended 1 else printed (unlines (range first step last)) 0
    | _ => ended 1
  | "printenv" =>
    match args with
    | [] => printed (unlines environment) 0
    | _ =>
      let found := args.filterMap fun a =>
        (environment.find? fun e => e.startsWith (a ++ "=")).map fun e =>
          String.ofList (e.toList.drop (a.length + 1))
      printed (unlines found) (if found.length == args.length then 0 else 1)
  | "head" =>
    let (amount, files) := match args with
      | "-n" :: k :: rest => ((decimal? k).getD 10, rest)
      | k :: rest =>
        if isFlag k then ((decimal? (String.ofList (k.toList.filter Char.isDigit))).getD 10, rest)
        else (10, args)
      | [] => (10, [])
    let (text, status) := contents s files
    printed (unlines ((linesOf text).take amount.toNat)) status
  | "wc" =>
    let (text, status) := contents s files
    match flags with
    | [f] => printed ((toString ((count text f).getD 0)).toList ++ ['\n']) status
    | _ => ended status
  | "sort" =>
    let (text, status) := contents s files
    printed (unlines ((linesOf text).mergeSort (· ≤ ·))) status
  | "grep" =>
    match files with
    | [] => ended 2
    | pattern :: files =>
      let (text, status) := contents s files
      let negated := flags.any (·.contains 'v')
      let held := (linesOf text).filter fun l => lineHolds pattern.toList l.toList != negated
      if status != 0 then ended 2
      else
        let quiet := flags.any (·.contains 'q')
        printed (if quiet then [] else unlines held) (if held.isEmpty then 1 else 0)
  | "id" => printed (if flags.contains "-u" then ['0', '\n'] else []) 0
  | "whoami" => printed "root\n".toList 0
  | "uname" => printed "Linux\n".toList 0
  | "which" =>
    ended (if files.all fun a => (s.tree.nodeAt? (FileTree.programs ++ [a])).isSome then 0 else 1)
  | "readlink" => ended (if files.all FileTree.isLink then 0 else 1)
  | "stat" | "find" => ended (if files.all present then 0 else 1)
  | "ls" => ended (if files.all present then 0 else 2)
  | "touch" =>
    match files.mapM (s.tree.place? s.directory) with
    | some ps =>
      if ps.all fun p => (s.tree.nodeAt? p).isSome || s.tree.hasRoom p then
        { tree := ps.foldl (fun t p => if (t.nodeAt? p).isSome then t else t.write p []) s.tree }
      else ended 1
    | none => ended 1
  | "rm" =>
    let forced := flags.any (·.contains 'f')
    match files.mapM (s.tree.place? s.directory) with
    | some ps =>
      let present := ps.all fun p => (s.tree.files.lookup p).isSome
      { status := if forced || present then 0 else 1, tree := ps.foldl FileTree.remove s.tree }
    | none => ended (if forced then 0 else 1)
  | "mkdir" =>
    match files.mapM (s.tree.place? s.directory) with
    | some ps =>
      let present := ps.any fun p => (s.tree.nodeAt? p).isSome
      if present && !flags.contains "-p" then ended 1
      else if ps.all fun p => s.tree.isDirectory p.dropLast then
        { tree := { s.tree with directories := s.tree.directories ++ ps } }
      else ended 1
    | none => ended 1
  | _ => ended 0

end InitDaemon.Simulation.Shell.Programs
