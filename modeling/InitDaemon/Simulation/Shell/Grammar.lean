import InitDaemon.Simulation.Shell.Lexer

/-!
# Reading commands

A script is read one line at a time, since the lines before one that cannot be read are run. Words
that structure a command are known by their place: they count only where a command may begin.
-/

namespace InitDaemon.Simulation.Shell.Grammar

abbrev Parser := StateT (List Char) (Except ScriptError)

def peek : Parser Token := do
  let (t, _) ← (Lexer.next (← get) : Except ScriptError _)
  return t

def advance : Parser Token := do
  let (t, rest) ← (Lexer.next (← get) : Except ScriptError _)
  set rest
  return t

def skip : Parser Unit := do
  let _ ← advance

def skipNewlines : Nat → Parser Unit
  | 0 => pure ()
  | n + 1 => do
    match ← peek with
    | .newline =>
      skip
      skipNewlines n
    | _ => pure ()

def closing : List String :=
  ["then", "else", "elif", "fi", "do", "done", "esac", "in", "\x7d"]

def startsCommand : Token → Bool
  | .word _ (some s) => !closing.contains s
  | .word _ none | .redirect .. => true
  | .operator sign => sign == "("
  | .newline | .finish => false

/-- The next token as a word that structures a command. -/
def keyword : Parser String := do
  match ← advance with
  | .word _ (some s) => return s
  | _ => throw .unexpected

def expect (word : String) : Parser Unit := do
  if (← keyword) != word then throw .unexpected

def expectOperator (sign : String) : Parser Unit := do
  match ← advance with
  | .operator s => if s != sign then throw .unexpected
  | _ => throw .unexpected

def word : Parser Word := do
  match ← advance with
  | .word w _ => return w
  | _ => throw .unexpected

/-- A word that is a name and an equals sign before a value. -/
def assignment? : Word → Option Assignment
  | .text s false :: rest =>
    let (name, after) := s.span (· != '=')
    match after with
    | '=' :: value =>
      if Lexer.isName name then
        some ⟨String.ofList name, if value.isEmpty then rest else .text value false :: rest⟩
      else none
    | _ => none
  | _ => none

/-! ## Redirections -/

/-- Takes a document out of the lines after the current one. -/
def document (tabs : Bool) (stop : Word) : Parser Word := do
  let (current, following) := (← get).span (· != '\n')
  match following with
  | [] => return []
  | _ :: rest =>
    let lines := ((String.ofList rest).splitOn "\n").map String.toList
    let (body, after) := Lexer.documentLines tabs (Lexer.delimiter stop) lines
    set (current ++ '\n' :: List.intercalate ['\n'] after)
    let text := body.flatMap (· ++ ['\n'])
    if Lexer.isQuoted stop then return [.text text true]
    let (parts, _) ← (Lexer.parts .document (2 * text.length + 2) [] text : Except ScriptError _)
    return parts

def redirect (stream : Option Nat) (sign : String) : Parser Redirect := do
  let target ← word
  match sign with
  | "<" | "<>" => return ⟨stream.getD 0, .input, target⟩
  | ">>" => return ⟨stream.getD 1, .append, target⟩
  | "<&" => return ⟨stream.getD 0, .duplicate, target⟩
  | ">&" => return ⟨stream.getD 1, .duplicate, target⟩
  | "<<" => return ⟨stream.getD 0, .here, ← document false target⟩
  | "<<-" => return ⟨stream.getD 0, .here, ← document true target⟩
  | _ => return ⟨stream.getD 1, .output, target⟩

def redirects : Nat → Parser (List Redirect)
  | 0 => throw .unexpected
  | n + 1 => do
    match ← peek with
    | .redirect stream sign =>
      skip
      return (← redirect stream sign) :: (← redirects n)
    | _ => return []

/-! ## Commands -/

/-- The words up to the end of a line or a semicolon. -/
def words : Nat → Parser (List Word)
  | 0 => throw .unexpected
  | n + 1 => do
    match ← advance with
    | .word w _ => return w :: (← words n)
    | .newline | .operator ";" => return []
    | _ => throw .unexpected

/-- The patterns of a branch, with the parenthesis after them. -/
def patterns : Nat → Parser (List Word)
  | 0 => throw .unexpected
  | n + 1 => do
    let w ← word
    match ← advance with
    | .operator "|" => return w :: (← patterns n)
    | .operator ")" => return [w]
    | _ => throw .unexpected

def specialBuiltins : List String :=
  ["break", ":", "continue", ".", "eval", "exec", "exit", "export", "readonly", "return", "set",
    "shift", "times", "trap", "unset"]

mutual

/-- The commands up to a word or sign that cannot begin one. -/
def commands : Nat → Parser (Option Command)
  | 0 => throw .unexpected
  | n + 1 => do
    skipNewlines (← get).length
    if !startsCommand (← peek) then return none
    let c ← andOr n
    match ← peek with
    | .operator "&" =>
      skip
      return some (after (.background c) (← commands n))
    | .operator ";" =>
      skip
      return some (after c (← commands n))
    | .newline => return some (after c (← commands n))
    | _ => return some c
where
  after (c : Command) : Option Command → Command
    | some d => .sequence c d
    | none => c

def block : Nat → Parser Command
  | 0 => throw .unexpected
  | n + 1 => do
    match ← commands n with
    | some c => return c
    | none => throw .unexpected

def andOr : Nat → Parser Command
  | 0 => throw .unexpected
  | n + 1 => do andOrAfter n (← pipeline n)

def andOrAfter : Nat → Command → Parser Command
  | 0, _ => throw .unexpected
  | n + 1, c => do
    match ← peek with
    | .operator "&&" =>
      skip
      skipNewlines (← get).length
      andOrAfter n (.andThen c (← pipeline n))
    | .operator "||" =>
      skip
      skipNewlines (← get).length
      andOrAfter n (.orElse c (← pipeline n))
    | _ => return c

def pipeline : Nat → Parser Command
  | 0 => throw .unexpected
  | n + 1 => do
    match ← peek with
    | .word _ (some "!") =>
      skip
      return .negated (← pipes n)
    | _ => pipes n

def pipes : Nat → Parser Command
  | 0 => throw .unexpected
  | n + 1 => do
    match ← pipesAfter n (← command n) with
    | [c] => return c
    | cs => return .pipeline cs

def pipesAfter : Nat → Command → Parser (List Command)
  | 0, _ => throw .unexpected
  | n + 1, c => do
    match ← peek with
    | .operator "|" =>
      skip
      skipNewlines (← get).length
      return c :: (← pipesAfter n (← command n))
    | _ => return [c]

def command : Nat → Parser Command
  | 0 => throw .unexpected
  | n + 1 => do
    let t ← peek
    if !startsCommand t then throw .unexpected
    match t with
    | .operator _ =>
      skip
      let c ← block n
      expectOperator ")"
      redirected n (.subshell c)
    | .word _ (some "\x7b") =>
      skip
      let c ← block n
      expect "\x7d"
      redirected n c
    | .word _ (some "if") =>
      skip
      redirected n (← condition n)
    | .word _ (some "while") =>
      skip
      redirected n (← repetition n false)
    | .word _ (some "until") =>
      skip
      redirected n (← repetition n true)
    | .word _ (some "for") =>
      skip
      redirected n (← iteration n)
    | .word _ (some "case") =>
      skip
      redirected n (← choice n)
    | .word _ (some "!") => throw .unexpected
    | _ => simple n [] [] []

def redirected : Nat → Command → Parser Command
  | 0, _ => throw .unexpected
  | n + 1, c => do
    match ← redirects n with
    | [] => return c
    | rs => return .redirected c rs

def condition : Nat → Parser Command
  | 0 => throw .unexpected
  | n + 1 => do
    let test ← block n
    expect "then"
    let yes ← block n
    match ← keyword with
    | "elif" => return .condition test yes (some (← condition n))
    | "else" =>
      let no ← block n
      expect "fi"
      return .condition test yes (some no)
    | "fi" => return .condition test yes none
    | _ => throw .unexpected

def repetition : Nat → Bool → Parser Command
  | 0, _ => throw .unexpected
  | n + 1, negated => do
    let test ← block n
    expect "do"
    let body ← block n
    expect "done"
    return .repetition negated test body

def iteration : Nat → Parser Command
  | 0 => throw .unexpected
  | n + 1 => do
    let name ← keyword
    if !Lexer.isName name.toList then throw .unexpected
    skipNewlines (← get).length
    let list ← match ← peek with
      | .word _ (some "in") => do
        skip
        pure (some (← words (← get).length))
      | .operator ";" => do
        skip
        pure none
      | _ => pure none
    skipNewlines (← get).length
    expect "do"
    let body ← block n
    expect "done"
    return .iteration name list body

def choice : Nat → Parser Command
  | 0 => throw .unexpected
  | n + 1 => do
    let w ← word
    skipNewlines (← get).length
    expect "in"
    return .choice w (← branches n)

def branches : Nat → Parser (List (List Word × Option Command))
  | 0 => throw .unexpected
  | n + 1 => do
    skipNewlines (← get).length
    match ← peek with
    | .word _ (some "esac") =>
      skip
      return []
    | .operator "(" => skip
    | _ => pure ()
    let ps ← patterns (← get).length
    let body ← commands n
    skipNewlines (← get).length
    match ← advance with
    | .operator ";;" => return (ps, body) :: (← branches n)
    | .word _ (some "esac") => return [(ps, body)]
    | _ => throw .unexpected

/-- A command of assignments, words and redirections, each with the latest first, or the definition
of a function. -/
def simple : Nat → List Assignment → List Word → List Redirect → Parser Command
  | 0, _, _, _ => throw .unexpected
  | n + 1, as, ws, rs => do
    match ← peek with
    | .word w _ =>
      skip
      match assignment? w with
      | some a => if ws.isEmpty then simple n (a :: as) ws rs else simple n as (w :: ws) rs
      | none => simple n as (w :: ws) rs
    | .redirect stream sign =>
      skip
      simple n as ws ((← redirect stream sign) :: rs)
    | .operator "(" =>
      skip
      expectOperator ")"
      match as, ws.map Lexer.plainText?, rs with
      | [], [some name], [] =>
        if !Lexer.isName name.toList || specialBuiltins.contains name then throw .unexpected
        skipNewlines (← get).length
        return .definition name (← command n)
      | _, _, _ => throw .unexpected
    | _ => return .simple as.reverse ws.reverse rs.reverse

end

/-- The commands of a line, and whether the script ends with it. -/
def lineCommands : Nat → Parser (Option Command × Bool)
  | 0 => throw .unexpected
  | n + 1 => do
    match ← peek with
    | .newline =>
      skip
      return (none, false)
    | .finish => return (none, true)
    | _ =>
      let size := 8 * (← get).length + 16
      let c ← andOr size
      match ← advance with
      | .operator "&" => followed (.background c) (← lineCommands n)
      | .operator ";" => followed c (← lineCommands n)
      | .newline => return (some c, false)
      | .finish => return (some c, true)
      | _ => throw .unexpected
where
  followed (c : Command) : Option Command × Bool → Parser (Option Command × Bool)
    | (some d, last) => return (some (.sequence c d), last)
    | (none, last) => return (some c, last)

/-- Reads a line of a script without a look at the scripts in its words. -/
def plainLine (script : List Char) : Except ScriptError (Option Command × Bool × List Char) := do
  let ((c, last), rest) ← (lineCommands (script.length + 1)).run script
  return (c, last, rest)

/-- Whether all the lines of a script can be read, and the scripts in their words too. -/
def canRead : Nat → List Char → Bool
  | 0, _ => false
  | n + 1, script =>
    match plainLine script with
    | .error _ => false
    | .ok (c, last, rest) =>
      (c.all fun c => (c.words.flatMap nestedScripts).all (canRead n)) && (last || canRead n rest)

/-- Reads a line of a script: its commands, whether the script ends with it, and the rest. -/
def line (script : List Char) : Except ScriptError (Option Command × Bool × List Char) := do
  let (c, last, rest) ← plainLine script
  if c.all fun c => (c.words.flatMap nestedScripts).all (canRead (script.length + 1)) then
    return (c, last, rest)
  else throw .unexpected

end InitDaemon.Simulation.Shell.Grammar
