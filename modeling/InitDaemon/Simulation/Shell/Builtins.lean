import InitDaemon.Simulation.Shell.Grammar
import InitDaemon.Simulation.Shell.Printing
import InitDaemon.Simulation.Shell.Subshell
import InitDaemon.Simulation.Shell.Test

/-!
# Commands of the shell itself

Each gives a status. An argument that cannot be read ends the shell if the command is a special one;
otherwise its status is 2.
-/

namespace InitDaemon.Simulation.Shell.Builtins

abbrev Builtin := List String → Run Nat

/-! ## Control -/

def exitShell : Builtin
  | [] => do
    modify fun s => { s with status := s.beforeTrap.getD s.status }
    throw .exit
  | a :: _ => do
    match natural? a with
    | some n => setStatus n
    | none => failure
    throw .exit

def returnNow : Builtin
  | [] => throw .returned
  | a :: _ => do
    match natural? a with
    | some n => setStatus n
    | none => failure
    throw .returned

def leaveLoops (again : Bool) (args : List String) : Run Nat := do
  let s ← get
  match natural? (args.headD "1") with
  | none | some 0 => failure
  | some n =>
    if s.loops == 0 then return 0
    setStatus 0
    throw (.loop again (min n s.loops))

def shift (args : List String) : Run Nat := do
  let s ← get
  match natural? (args.headD "1") with
  | none => failure
  | some n =>
    if s.arguments.length < n then failure
    set { s with arguments := s.arguments.drop n }
    return 0

/-! ## Options -/

def optionNames : List (String × Char) :=
  [("errexit", 'e'), ("noglob", 'f'), ("ignoreeof", 'I'), ("interactive", 'i'), ("monitor", 'm'),
    ("noexec", 'n'), ("stdin", 's'), ("xtrace", 'x'), ("verbose", 'v'), ("vi", 'V'), ("emacs", 'E'),
    ("noclobber", 'C'), ("allexport", 'a'), ("notify", 'b'), ("nounset", 'u'), ("nolog", '\x00'),
    ("debug", '\x01')]

def switch (on : Bool) (letter : Char) : Run Unit := do
  if !optionNames.any (·.2 == letter) then failure
  modify fun s =>
    let others := s.options.filter (· != letter)
    { s with options := if on then others ++ [letter] else others }

def switchNamed (on : Bool) (name : String) : Run Unit := do
  match optionNames.lookup name with
  | some letter => switch on letter
  | none => failure

/-- Switches options and gives the arguments after them, with whether they were set apart. The
letter `c` is handed to `command`. -/
def switchAll (command : Run Unit) : List String → Run (List String × Bool)
  | [] => return ([], false)
  | a :: rest => do
    match a.toList with
    | ['-', '-'] => return (rest, true)
    | ['-'] => return (rest, true)
    | sign :: letters =>
      if sign != '-' && sign != '+' then return (a :: rest, false)
      for c in letters do
        if c == 'c' then command
        else if c != 'o' then switch (sign == '-') c
      if letters.contains 'o' then
        match rest with
        | name :: rest =>
          switchNamed (sign == '-') name
          switchAll command rest
        | [] => return ([], false)
      else switchAll command rest
    | [] => return (a :: rest, false)

def setOptions (args : List String) : Run Nat := do
  let (rest, apart) ← switchAll failure args
  if apart || !rest.isEmpty then modify fun s => { s with arguments := rest }
  return 0

/-! ## Variables -/

/-- The name and the value of an argument such as `name=value`. -/
def definition (a : String) : String × Option String :=
  let (name, rest) := a.toList.span (· != '=')
  match rest with
  | _ :: value => (String.ofList name, some (String.ofList value))
  | [] => (a, none)

/-- Gives variables their values and changes them in another way too. -/
def mark (change : Variable → Variable) (args : List String) : Run Nat := do
  for a in args.filter fun a => a != "--" && a != "-p" do
    let (name, value) := definition a
    if !Lexer.isName name.toList then failure
    match value with
    | some value => assign name value
    | none => pure ()
    modify fun s => s.setVariable name (change ((s.entry? name).getD ⟨none, false, false⟩))
  return 0

def unset (args : List String) : Run Nat := do
  let functions := args.head? == some "-f"
  for a in args.filter fun a => a != "-f" && a != "-v" && a != "--" do
    let s ← get
    if functions then set { s with functions := s.functions.filter (·.1 != a) }
    else
      if !Lexer.isName a.toList || ((s.entry? a).map (·.readOnly)).getD false then failure
      set (s.dropVariable a)
  return 0

/-- Keeps what variables are until the function ends. -/
def declareLocal (args : List String) : Run Nat := do
  for a in args do
    let s ← get
    let (name, value) := definition a
    match s.locals with
    | [] => failure
    | frame :: outer =>
      if !(frame.any (·.1 == name)) then
        set { s with locals := ((name, s.entry? name) :: frame) :: outer }
      match value with
      | some value => assign name value
      | none => pure ()
  return 0

/-- Splits a line for a number of variables, the last of which gets all that is left. -/
def cutLine (separators : List Char) : Nat → List Char → List (List Char)
  | 0, _ => []
  | n + 1, line =>
    let blank (c : Char) := separators.contains c && isSpace c
    let line := line.dropWhile blank
    if n == 0 then [(line.reverse.dropWhile blank).reverse]
    else
      let (field, rest) := line.span fun c => !separators.contains c
      let rest := rest.dropWhile blank
      let rest := if rest.head?.any separators.contains then rest.tail else rest
      field :: cutLine separators n rest

def read (args : List String) : Run Nat := do
  let names := args.filter fun a => !a.startsWith "-"
  if names.isEmpty || !names.all fun a => Lexer.isName a.toList then return 2
  let (line, ended) ← readLine
  let line := if args.contains "-r" then line else line.filter (· != '\\')
  let separators := ((((← get).value? "IFS").getD " \t\n")).toList
  for (name, value) in names.zip (cutLine separators names.length line) do
    assign name (String.ofList value)
  return if ended then 0 else 1

/-- Reads the next option of a list of arguments into a variable. -/
def getopts : Builtin
  | letters :: name :: args => do
    let s ← get
    let args := if args.isEmpty then s.arguments else args
    let index := ((s.value? "OPTIND").bind natural?).getD 1
    let offset := s.optionOffset
    let finish (index : Nat) : Run Nat := do
      assign name "?"
      assign "OPTIND" (toString index)
      modify fun s => { s with optionOffset := 0 }
      return 1
    match args[index - 1]?.map String.toList with
    | none => finish index
    | some ['-', '-'] => finish (index + 1)
    | some a =>
      if a.head? != some '-' || a.length == 1 then finish index
      else
        let c := a.getD (1 + offset) '?'
        let last := a.length ≤ 2 + offset
        let known := letters.toList
        let place := known.findIdx? (· == c)
        let wants := (place.map fun i => known[i + 1]? == some ':').getD false
        let next := if last then index + 1 else index
        match place with
        | some _ =>
          if c == ':' then
            assign name "?"
          else if wants then
            if !last then
              assign "OPTARG" (String.ofList (a.drop (2 + offset)))
              assign name (String.singleton c)
              assign "OPTIND" (toString (index + 1))
              modify fun s => { s with optionOffset := 0 }
              return 0
            match args[index]? with
            | some value =>
              assign "OPTARG" value
              assign name (String.singleton c)
              assign "OPTIND" (toString (index + 2))
              modify fun s => { s with optionOffset := 0 }
              return 0
            | none => assign name (if known.head? == some ':' then ":" else "?")
          else assign name (String.singleton c)
        | none =>
          assign name "?"
          if known.head? == some ':' then assign "OPTARG" (String.singleton c)
        assign "OPTIND" (toString next)
        modify fun s => { s with optionOffset := if last then 0 else offset + 1 }
        return 0
  | _ => return 2

/-! ## Places -/

def cd (args : List String) : Run Nat := do
  let s ← get
  let args := args.filter fun a => a != "-L" && a != "-P" && a != "--"
  let target := match args with
    | [] => s.value? "HOME"
    | "-" :: _ => s.value? "OLDPWD"
    | a :: _ => some a
  match target with
  | none | some "" => return 0
  | some path =>
    match s.tree.place? s.directory path with
    | some p =>
      if s.tree.isDirectory p then
        set { (s.setVariable "OLDPWD" ⟨s.value? "PWD", true, false⟩).setVariable "PWD"
          ⟨some (State.pathOf p), true, false⟩ with directory := p }
        return 0
      else return 2
    | none => return 2

/-! ## Signals and jobs -/

/-- The process that an argument names by its number or by that of its job. -/
def process? (s : State) (a : String) : Option Nat :=
  match a.toList with
  | '%' :: job =>
    match natural? (String.ofList job) with
    | some n => if n == 0 then none else (s.jobs[n - 1]?).map (·.pid)
    | none => s.lastJob
  | _ => natural? a

/-- Sends a signal to processes. A job has no group of its own that could get one. -/
def killAll (signal : Nat) (args : List String) : Run Nat := do
  let mut status := 0
  for a in args do
    match process? (← get) a with
    | some pid =>
      if a.startsWith "%" then status := 1
      else if !(← send pid signal) then status := 1
    | none => return 2
  return status

/-- A signal of `kill`, which cannot be called `EXIT`. -/
def killSignal? (s : String) : Option Nat :=
  if s.toUpper == "EXIT" then none else signal? s

def kill : Builtin
  | "-l" :: args => do
    match args with
    | [] => write 1 (String.intercalate "\n" signalNames ++ "\n").toList
    | a :: _ =>
      match natural? a with
      | some n =>
        match signalNames[(if n > 128 then n - 128 else n) - 1]? with
        | some name => write 1 (name ++ "\n").toList
        | none => return 2
      | none => return 2
    return 0
  | "-s" :: name :: args | "--" :: "-s" :: name :: args =>
    match killSignal? name, args with
    | some n, "--" :: args => if args.isEmpty then return 2 else killAll n args
    | some n, args => if args.isEmpty then return 2 else killAll n args
    | none, _ => return 2
  | "--" :: args => if args.isEmpty then return 2 else killAll termSignal args
  | a :: args =>
    match a.toList with
    | '-' :: 's' :: name =>
      match killSignal? (String.ofList ('s' :: name)), killSignal? (String.ofList name) with
      | some n, _ | none, some n => if args.isEmpty then return 2 else killAll n args
      | none, none => return 2
    | '-' :: name =>
      match killSignal? (String.ofList name), args with
      | some n, args => if args.isEmpty then return 2 else killAll n args
      | none, _ => return 2
    | _ => killAll termSignal (a :: args)
  | [] => return 2

/-- Waits for all jobs, or for those given, and then gives the status of the last one. -/
def wait (args : List String) : Run Nat := do
  if args.isEmpty then
    for j in (← get).jobs do
      let _ ← waitFor j.pid
    return 0
  let mut status := 0
  for a in args do
    match process? (← get) a with
    | some pid => status ← waitFor pid
    | none => return 2
  return status

def trap (args : List String) : Run Nat := do
  let args := if args.head? == some "--" then args.tail else args
  let (action, names) :=
    match args with
    | [] => (none, [])
    | [a] => (none, [a])
    | a :: rest => if !a.isEmpty && a.all Char.isDigit then (none, args) else (some a, rest)
  for name in names do
    match signal? name with
    | none => return 1
    | some n =>
      let s ← get
      let others := s.traps.filter (·.1 != n)
      set { s with traps := match action with
        | none | some "-" => others
        | some action => others ++ [(n, action)] }
  return 0

/-! ## The table -/

/-- Prints a text, which fails if there is nowhere for it to go. -/
def printed (out : List Char) (status : Nat) : Run Nat := do
  if ((← get).sinks.lookup 1).isNone then return 1
  write 1 out
  return status

def test (name : String) (args : List String) : Run Nat := do
  return Test.status ⟨← get, false⟩ name args

/-- Commands that need no other command, without those that are run by their names alone. -/
def table : List (String × Builtin) :=
  [(":", fun _ => return 0), ("true", fun _ => return 0), ("false", fun _ => return 1),
    ("echo", fun args => printed (Printing.echo true args) 0),
    ("printf", fun args => printed (Printing.printf args).1 (Printing.printf args).2),
    ("test", test "test"), ("[", test "["), ("exit", exitShell), ("return", returnNow),
    ("break", leaveLoops false), ("continue", leaveLoops true), ("shift", shift),
    ("set", setOptions), ("export", mark fun v => { v with exported := true }),
    ("readonly", mark fun v => { v with readOnly := true }), ("unset", unset),
    ("local", declareLocal),
    ("read", read), ("getopts", getopts), ("cd", cd), ("chdir", cd),
    ("pwd", fun _ => do printed ((State.pathOf (← get).directory).toList ++ ['\n']) 0),
    ("kill", kill), ("wait", wait), ("trap", trap), ("times", fun _ => return 0),
    ("umask", fun _ => return 0), ("ulimit", fun _ => return 0), ("hash", fun _ => return 0),
    ("jobs", fun _ => return 0),
    ("alias", fun args => return if args.all (·.contains '=') then 0 else 1),
    ("unalias", fun args => return if args.isEmpty || args == ["-a"] then 0 else 1),
    ("bg", fun _ => return 2), ("fg", fun _ => return 2)]

def runners : List String :=
  [".", "eval", "exec", "command", "type"]

def isBuiltin (name : String) : Bool :=
  runners.contains name || table.any (·.1 == name)

end InitDaemon.Simulation.Shell.Builtins
