import InitDaemon.Simulation.Shell.Builtins
import InitDaemon.Simulation.Shell.Control
import InitDaemon.Simulation.Shell.Programs
import InitDaemon.Simulation.Shell.Redirection

/-!
# Running commands

A command is run in the state of its shell and leaves a status there. A program is run in a process
of its own, except for the last one of a subshell, which takes its place.
-/

namespace InitDaemon.Simulation.Shell

/-! ## Finding programs -/

def defaultPath : String :=
  "/usr/local/sbin:/usr/local/bin:/usr/sbin:/usr/bin:/sbin:/bin"

def isProgram (s : State) (path : String) : Bool :=
  match s.tree.node? s.directory path with
  | some (.program _) => true
  | _ => false

/-- The path of a program. A name without a slash is looked for in directories. -/
def find? (s : State) (directories name : String) : Except Nat String :=
  if name.contains '/' then
    if isProgram s name then .ok name
    else if (s.tree.node? s.directory name).isSome then .error 126
    else .error 127
  else
    let paths := (directories.splitOn ":").map fun d => if d == "" then name else d ++ "/" ++ name
    match paths.find? (isProgram s) with
    | some path => if name == "" then .error 127 else .ok path
    | none => .error 127

def State.searchPath (s : State) : String :=
  (s.value? "PATH").getD ""

def lookUp? (environment : List String) (name : String) : Option String :=
  (environment.find? fun e => e.startsWith (name ++ "=")).map fun e =>
    String.ofList (e.toList.drop (name.length + 1))

def keywords : List String :=
  ["!", "case", "do", "done", "elif", "else", "esac", "fi", "for", "if", "in", "then", "until",
    "while", "\x7b", "\x7d"]

/-- Looks for a command as the shell would, and prints what it is. -/
def describe (name : String) : Run Nat := do
  let s ← get
  if keywords.contains name || Builtins.isBuiltin name || (s.functions.lookup name).isSome then
    write 1 (name ++ "\n").toList
    return 0
  else
    match find? s s.searchPath name with
    | .ok path =>
      write 1 (path ++ "\n").toList
      return 0
    | .error _ => return 127

/-! ## Shells -/

def shells : List String :=
  ["sh", "dash", "bash", "rbash"]

/-- The state of a shell that takes the place of the present process. -/
def State.fresh (s : State) (name : String) (environment : List String) : State :=
  let imported := environment.foldl (fun t e =>
    match Builtins.definition e with
    | (name, some value) =>
      if Lexer.isName name.toList then t.setVariable name ⟨some value, true, false⟩ else t
    | (_, none) => t) { s with bindings := [] }
  let base : State :=
    { s with
      name
      bindings := imported.bindings
      arguments := []
      functions := []
      locals := []
      options := []
      status := 0
      root := s.self
      lastJob := none
      jobs := []
      traps := []
      ignored := s.ignores
      due := []
      beforeTrap := none
      loops := 0
      optionOffset := 0
      substituted := none }
  let keep (t : State) (name value : String) (exported : Bool) : State :=
    if (t.entry? name).isSome then t else t.setVariable name ⟨some value, exported, false⟩
  let t := keep (keep (keep (keep base "PATH" defaultPath false) "PS1" "# " false) "PS2" "> " false)
    "PS4" "+ " false
  let t := (t.setVariable "IFS" ⟨some " \t\n", false, false⟩).setVariable "OPTIND"
    ⟨some "1", false, false⟩
  let t := t.setVariable "PPID" ⟨some (toString s.parent), false, false⟩
  t.setVariable "PWD" ⟨some (State.pathOf s.directory), true, false⟩

/-! ## Evaluation -/

/-- Ends the shell after a command that failed, if an option asks for it. -/
def check (tested : Bool) : Run Unit := do
  let s ← get
  if s.option 'e' && !tested && s.status != 0 then throw .exit

def trapsNothing (s : State) : Bool :=
  s.traps.all fun (_, action) => action.isEmpty

/-- Runs the parts of a pipeline, each with the output of the one before it as its input. -/
def pipe (run : Runner) : List (Run Unit) → Run ExitStatus
  | [] => return .exited 0
  | [body] => subshell run body
  | body :: rest => do
    let (out, _) ← capture run body
    let s ← get
    set { s with input := out }
    let status ← pipe run rest
    modify fun t => { t with input := s.input }
    return status

/-- Whether a text is what one of some words stands for. -/
def coveredByAny (run : Runner) (text : List Char) : List Word → Run Bool
  | [] => return false
  | w :: ws => do
    if Glob.covers (← patternOf run w) (Glob.bytes text) then return true
    coveredByAny run text ws

/-- The commands of the first branch with a pattern for a text. -/
def chosen (run : Runner) (text : List Char) :
    List (List Word × Option Command) → Run (Option Command)
  | [] => return none
  | (ps, body) :: rest => do
    if ← coveredByAny run text ps then return body else chosen run text rest

/-- The environment and the command that the arguments of `env` ask for. -/
def environmentOf (environment : List String) : List String → List String × List String
  | [] => (environment, [])
  | "-i" :: rest | "-" :: rest => environmentOf [] rest
  | "--" :: rest => environmentOf environment rest
  | "-u" :: name :: rest =>
    environmentOf (environment.filter fun e => !e.startsWith (name ++ "=")) rest
  | a :: rest =>
    if a.contains '=' then
      let name := (Builtins.definition a).1
      environmentOf (environment.filter (fun e => !e.startsWith (name ++ "=")) ++ [a]) rest
    else (environment, a :: rest)

/-- The content of a file of commands. One without a slash in its name is looked for in
directories. -/
def commandFile? (s : State) (path : String) : Option (List Char) :=
  let paths := if path.contains '/' then [path]
    else (s.searchPath.splitOn ":").map fun d => if d == "" then path else d ++ "/" ++ path
  paths.findSome? fun p =>
    match s.tree.node? s.directory p with
    | some (.file content) => some content
    | some .null => some []
    | _ => none

def endWith {α : Type} (status : Nat) : Run α :=
  throw (.ended (.exited status))

mutual

/-- Runs the lines of a script. `tested` says that the status is asked for, so that a failure does
not end the shell, `tail` that nothing is to be run afterwards and `ran` that something was run. -/
def runScript : Nat → (tested tail ran : Bool) → Runner
  | 0, _, _, _, _ => exhausted
  | n + 1, tested, tail, ran, text =>
    match Grammar.line text with
    | .error _ => failure
    | .ok (command?, last, rest) => do
      match command? with
      | some c => evaluate n tested (tail && last) c
      | none => pure ()
      let ran := ran || command?.isSome
      if !last then runScript n tested tail ran rest
      else if !ran then setStatus 0

def evaluate : Nat → (tested tail : Bool) → Command → Run Unit
  | 0, _, _, _ => exhausted
  | n + 1, tested, tail, c => do
    let run : Runner := runScript n false false false
    let take : Runner := runScript n false true false
    if (← get).option 'n' then return
    match c with
    | .simple as words rs =>
      simple n tested tail as words rs
      runTraps run
      check tested
    | .pipeline cs =>
      let status ← pipe run (cs.map fun c => evaluate n tested true c)
      setStatus (statusOf status)
      runTraps run
      check tested
    | .negated c =>
      evaluate n true false c
      modify fun s => { s with status := if s.status == 0 then 1 else 0 }
    | .andThen a b =>
      evaluate n true false a
      if (← get).status == 0 then evaluate n tested tail b
    | .orElse a b =>
      evaluate n true false a
      if (← get).status != 0 then evaluate n tested tail b
    | .sequence a b =>
      evaluate n tested false a
      evaluate n tested tail b
    | .background c => startJob run (evaluate n tested true c)
    | .subshell c =>
      if tail && trapsNothing (← get) then evaluate n tested true c
      else
        let status ← subshell run (evaluate n tested true c)
        setStatus (statusOf status)
        runTraps run
        check tested
    | .condition test yes no =>
      evaluate n true false test
      if (← get).status == 0 then evaluate n tested tail yes
      else
        match no with
        | some c => evaluate n tested tail c
        | none => setStatus 0
    | .repetition negated test body =>
      let turn (status : Nat) : Run (Bool × Nat) := leaving do
        evaluate n true false test
        if ((← get).status == 0) == negated then return (false, status)
        evaluate n tested false body
        return (true, (← get).status)
      inLoop (repeatTurns turn turnLimit 0)
    | .iteration name words body =>
      let values ← match words with
        | some ws => fieldsOf take ws
        | none => pure (← get).arguments
      let turn (value : String) : Run (Bool × Nat) := leaving do
        assign name value
        evaluate n tested false body
        return (true, (← get).status)
      inLoop (eachTurn turn values 0)
    | .choice word branches =>
      let text := (← textOf take word).toList
      match ← chosen take text branches with
      | some c => evaluate n tested tail c
      | none => setStatus 0
    | .definition name body =>
      modify fun s =>
        { s with functions := (name, body) :: s.functions.filter (·.1 != name), status := 0 }
    | .redirected c rs => redirecting take false rs (evaluate n tested false c)
    runTraps run
    if tail then throw .exit

/-- Runs a command of words. A special command keeps the assignments before it. -/
def simple : Nat → (tested tail : Bool) → List Assignment → List Word → List Redirect → Run Unit
  | 0, _, _, _, _, _ => exhausted
  | n + 1, tested, tail, as, words, rs => do
    let take : Runner := runScript n false true false
    modify fun s => { s with substituted := none }
    match ← commandFields take words with
    | [] =>
      redirecting take false rs do
        assignAll take false as
        setStatus ((← get).substituted.getD 0)
    | ["exec"] =>
      if !(← redirectAll take rs) then throw .exit
      assignAll take false as
      setStatus 0
    | name :: args =>
      if Grammar.specialBuiltins.contains name then
        redirecting take true rs do
          assignAll take (name == "exec") as
          builtin n tested name args
      else
        let body : Run Unit := do
          let s ← get
          match s.functions.lookup name with
          | some c => calling args (evaluate n tested false c)
          | none =>
            if Builtins.isBuiltin name then builtin n tested name args
            else external n tail name args
        redirecting take false rs (assigning take as body)

def builtin : Nat → (tested : Bool) → String → List String → Run Unit
  | 0, _, _, _ => exhausted
  | n + 1, tested, name, args => do
    match name, args with
    | "eval", args => runScript n tested false false (String.intercalate " " args).toList
    | ".", [] => setStatus 0
    | ".", path :: _ =>
      match commandFile? (← get) path with
      | none => failure
      | some content =>
        fun s =>
          match runScript n tested false false content s with
          | .error .returned t => .ok () t
          | r => r
    | "exec", name :: args =>
      let s ← get
      match find? s s.searchPath name with
      | .ok path => launch n path (name :: args) s.environment
      | .error status =>
        setStatus status
        throw .exit
    | "command", "-v" :: names | "command", "-V" :: names | "type", names =>
      let mut status := 0
      for name in names do
        status ← describe name
      setStatus status
    | "command", "-p" :: name :: args | "command", "--" :: name :: args | "command", name :: args =>
      if Builtins.isBuiltin name then builtin n tested name args else external n false name args
    | _, _ =>
      match Builtins.table.lookup name with
      | some b => setStatus (← b args)
      | none => setStatus 0

/-- Runs a program in a process of its own or in the place of the shell. -/
def external : Nat → (tail : Bool) → String → List String → Run Unit
  | 0, _, _, _ => exhausted
  | n + 1, tail, name, args => do
    let s ← get
    match find? s s.searchPath name with
    | .error status => setStatus status
    | .ok path =>
      let start := launch n path (name :: args) s.environment
      if tail && trapsNothing s then start
      else setStatus (statusOf (← subshell (runScript n false false false) start))

/-- Puts a program in the place of the present process. What is no program ends it with 127. -/
def launch : Nat → String → List String → List String → Run Unit
  | 0, _, _, _ => exhausted
  | n + 1, path, argv, environment => do
    let s ← get
    let args := argv.tail
    let search (environment argv : List String) : Run Unit :=
      match find? s ((lookUp? environment "PATH").getD "/bin:/usr/bin") (argv.headD "") with
      | .ok path => launch n path argv environment
      | .error status => endWith status
    match s.tree.node? s.directory path with
    | some (.program name) =>
      if shells.contains name then shell n argv environment
      else
        match name, args with
        | "env", args =>
          let (environment, command) := environmentOf environment args
          if command.isEmpty then
            write 1 (Programs.unlines environment)
            endWith 0
          search environment command
        | "nice", "-n" :: _ :: command | "nice", command | "nohup", command | "setsid", command =>
          if command.isEmpty then endWith (if name == "nice" then 0 else 125)
          search environment command
        | "timeout", [] => endWith 125
        | "timeout", limit :: command =>
          match Programs.duration? limit with
          | none => endWith 125
          | some limit =>
            if command.isEmpty then endWith 125
            let status ← subshell (runScript n false false false) (search environment command)
            let t ← get
            if limit != 0 && t.clock > s.clock + limit then
              set { t with clock := s.clock + limit }
              endWith 124
            endWith (statusOf status)
        | "kill", args => endWith (min 1 (← Builtins.kill args))
        | _, args =>
          let o := Programs.run s environment name args
          set { s with tree := o.tree }
          write 1 o.output
          pass o.milliseconds
          endWith o.status
    | _ => endWith 127

def shell : Nat → List String → List String → Run Unit
  | 0, _, _ => exhausted
  | n + 1, argv, environment => do
    let body : Run Unit := do
      let noteScript : Run Unit := modify fun s => { s with options := 'c' :: s.options }
      let (rest, _) ← Builtins.switchAll noteScript argv.tail
      let s ← get
      set { s with options := s.options.filter (· != 'c') }
      let fromInput : Run Unit := do
        let s ← get
        set { s with input := [] }
        runScript n false false false s.input
      match s.option 'c', rest with
      | true, [] => failure
      | true, script :: rest =>
        match rest with
        | name :: arguments => modify fun s => { s with name, arguments }
        | [] => pure ()
        runScript n false false false script.toList
      | false, [] => fromInput
      | false, path :: arguments =>
        if s.option 's' then
          modify fun s => { s with arguments := rest }
          fromInput
          return
        match s.tree.node? s.directory path with
        | some (.file content) =>
          modify fun s => { s with name := path, arguments }
          runScript n false false false content
        | some .directory | some .null => setStatus 0
        | _ => failure
    let (status, ended) :=
      ((← get).fresh (argv.headD "") environment).conclude (runScript n false false false) body
    set ended
    throw (.ended status)

end

/-! ## Processes -/

def depthLimit : Nat := 30000

/-- How a process ends that is started with arguments and an environment. Its program is named by
its whole path. -/
def endOf (pid : Nat) (argv environment : List String) : ExitStatus :=
  let s : State :=
    { name := "", arguments := [], bindings := [], root := pid, self := pid, parent := pid - 1,
      nextPid := pid + 1, ignored := [pipeSignal] }
  let path := argv.headD ""
  if path.startsWith "/" then
    (s.conclude (fun _ => pure ()) (launch depthLimit path argv environment)).1
  else .exited 127

end InitDaemon.Simulation.Shell
