import InitDaemon.Simulation.Shell.Arithmetic
import InitDaemon.Simulation.Shell.Glob
import InitDaemon.Simulation.Shell.Grammar
import InitDaemon.Simulation.Shell.Subshell

/-!
# What words stand for

A word becomes a list of characters that know whether they were quoted and whether they came from a
value. Those from values are cut into fields at the separators that the variable `IFS` names.
-/

namespace InitDaemon.Simulation.Shell

inductive Piece
  /-- `splits` says that a separator ends a field here. -/
  | char (c : Char) (quoted splits : Bool)
  /-- Makes a field, even without characters. -/
  | anchor
  /-- Ends a field. -/
  | boundary
  /-- Quoted arguments of which there are none. -/
  | nothing
deriving DecidableEq, Repr, Inhabited

namespace Piece

def ofText (quoted : Bool) (s : List Char) : List Piece :=
  s.map (.char · quoted (!quoted))

/-- The characters of a text that is not cut into fields. -/
def glyphs (ps : List Piece) : List Glyph :=
  ps.filterMap fun p =>
    match p with
    | .char c quoted _ => some (c, quoted)
    | .boundary => some (' ', true)
    | .anchor | .nothing => none

def text (ps : List Piece) : List Char :=
  (glyphs ps).map (·.1)

/-- Lets separators end fields in a text that stands in for a value. -/
def splitting (ps : List Piece) : List Piece :=
  ps.map fun p =>
    match p with
    | .char c false _ => .char c false true
    | p => p

end Piece

/-! ## Fields -/

/-- Fields that were cut off, and the one that is being read, each with the latest first. -/
structure Splitter where
  done : List (List Char) := []
  current : Option (List Char) := none
  /-- Whether a blank has just ended a field, so that another separator belongs to that blank. -/
  afterBlank : Bool := false

namespace Splitter

def close (f : Splitter) : Splitter :=
  match f.current with
  | some cs => ⟨cs.reverse :: f.done, none, false⟩
  | none => f

def step (separators : List Char) (f : Splitter) : Piece → Splitter
  | .char c quoted splits =>
    if splits && !quoted && separators.contains c then
      if c == ' ' || c == '\t' || c == '\n' then
        if f.current.isSome then { f.close with afterBlank := true } else f
      else if f.current.isNone && f.afterBlank then { f with afterBlank := false }
      else { f with current := some (f.current.getD []) }.close
    else { f with current := some (c :: f.current.getD []), afterBlank := false }
  | .anchor => { f with current := some (f.current.getD []), afterBlank := false }
  | .boundary => f.close
  | .nothing => f

def isChar : Piece → Bool
  | .char .. => true
  | _ => false

def fields (separators : List Char) (ps : List Piece) : List (List Char) :=
  if ps.contains .nothing && !ps.any isChar then []
  else (ps.foldl (step separators) {}).close.done.reverse

end Splitter

/-! ## Parameters -/

namespace State

def separators (s : State) : List Char :=
  ((s.value? "IFS").getD " \t\n").toList

/-- The value of a parameter, other than that of all arguments. -/
def parameter? (s : State) (name : List Char) : Option String :=
  match name with
  | ['#'] => some (toString s.arguments.length)
  | ['?'] => some (toString s.status)
  | ['$'] => some (toString s.root)
  | ['!'] => s.lastJob.map toString
  | ['-'] => some (String.ofList s.options)
  | _ =>
    if name.all Char.isDigit then
      match (String.ofList name).toNat?.getD 0 with
      | 0 => some s.name
      | n + 1 => s.arguments[n]?
    else s.value? (String.ofList name)

def isAll (name : List Char) : Bool :=
  name == ['@'] || name == ['*']

def pieces? (s : State) (name : List Char) (quoted : Bool) : Option (List Piece) :=
  if isAll name then
    let arguments := s.arguments.map String.toList
    if arguments.isEmpty then none
    else if !quoted then
      some (List.intercalate [.boundary] (arguments.map (Piece.ofText false)))
    else if name == ['@'] then
      some (List.intercalate [.boundary] (arguments.map (.anchor :: Piece.ofText true ·)))
    else
      let between := match s.value? "IFS" with
        | some ifs => ifs.toList.take 1
        | none => [' ']
      some (Piece.ofText true (List.intercalate between arguments))
  else (s.parameter? name).map fun value => Piece.ofText quoted value.toList

end State

def readInteger (name : String) : Run Int64 := do
  let s ← get
  match s.value? name with
  | none => return 0
  | some value =>
    if value.all isSpace then return 0
    match Arithmetic.integer? value with
    | some n => return n
    | none => failure

def calculate (expression : List Char) : Run (List Char) := do
  match Arithmetic.read? expression with
  | none => failure
  | some e =>
    let n ← e.eval ⟨readInteger, fun name n => assign name (toString n.toInt), failure⟩
    return (toString n.toInt).toList

/-- A tilde at the start of a word stands for the home directory. -/
def withHome (s : State) : Word → Word
  | .text ('~' :: rest) false :: parts =>
    match s.value? "HOME" with
    | some home =>
      if (rest.isEmpty && parts.isEmpty) || rest.head? == some '/' then
        .text home.toList true :: .text rest false :: parts
      else .text ('~' :: rest) false :: parts
    | none => .text ('~' :: rest) false :: parts
  | w => w

/-! ## Words -/

mutual

/-- What the parts of a word stand for. `run` runs the commands whose output is taken. -/
def expandParts (run : Runner) : List Part → Run (List Piece)
  | [] => return []
  | p :: rest => do
    let ps ← expandPart run p
    return ps ++ (← expandParts run rest)

def expandPart (run : Runner) : Part → Run (List Piece)
  | .text s quoted => do
    let ps := s.map (.char · quoted false)
    return if quoted then .anchor :: ps else ps
  | .output script quoted => do
    let (out, status) ← capture run (run script)
    modify fun s => { s with substituted := some (statusOf status) }
    return Piece.ofText quoted (out.reverse.dropWhile (· == '\n')).reverse
  | .arithmetic expression quoted => do
    let ps ← expandParts run expression
    return Piece.ofText quoted (← calculate (Piece.text ps))
  | .parameter name use word quoted => do
    let s ← get
    let found := s.pieces? name quoted
    let isEmpty := (found.map fun ps => (Piece.text ps).isEmpty).getD true
    let absent (colon : Bool) := if colon then isEmpty else found.isNone
    let value : Run (List Piece) :=
      match found with
      | some ps => pure ps
      | none =>
        if State.isAll name then pure (if quoted && name == ['@'] then [.nothing] else [])
        else if s.option 'u' then failure
        else pure []
    let other : Run (List Piece) := do
      let ps ← expandParts run word
      return if quoted then ps else Piece.splitting ps
    match use with
    | .value => value
    | .length =>
      let size := (String.ofList (Piece.text (← value))).utf8ByteSize
      return Piece.ofText quoted (toString size).toList
    | .default colon => if absent colon then other else value
    | .alternative colon => if absent colon then return [] else other
    | .demand colon => if absent colon then failure else value
    | .assign colon =>
      if absent colon then
        if !Lexer.isName name then failure
        let ps ← other
        assign (String.ofList name) (String.ofList (Piece.text ps))
        return ps
      else value
    | .withoutStart longest =>
      let text := Piece.text (← value)
      let pattern := Glob.ofGlyphs (Piece.glyphs (← expandParts run word))
      return Piece.ofText quoted (Glob.withoutStart longest pattern text)
    | .withoutEnd longest =>
      let text := Piece.text (← value)
      let pattern := Glob.ofGlyphs (Piece.glyphs (← expandParts run word))
      return Piece.ofText quoted (Glob.withoutEnd longest pattern text)
    | .unknown => failure

end

def expand (run : Runner) (w : Word) : Run (List Piece) := do
  expandParts run (withHome (← get) w)

def fieldsOf (run : Runner) : List Word → Run (List String)
  | [] => return []
  | w :: ws => do
    let ps ← expand run w
    let fields := Splitter.fields (← get).separators ps
    return fields.map String.ofList ++ (← fieldsOf run ws)

/-- The text that a word stands for where it is not cut into fields. -/
def textOf (run : Runner) (w : Word) : Run String := do
  return String.ofList (Piece.text (← expand run w))

def declaring : List String :=
  ["export", "readonly", "local"]

/-- The words of a command. Assignments among the arguments of a command that declares variables are
not cut into fields. -/
def commandFields (run : Runner) (ws : List Word) : Run (List String) := do
  match ws with
  | w :: rest =>
    if (Lexer.plainText? w).any declaring.contains then
      let name ← fieldsOf run [w]
      let fields ← rest.mapM fun w => do
        if (Grammar.assignment? w).isSome then return [← textOf run w] else fieldsOf run [w]
      return name ++ fields.flatten
    else fieldsOf run ws
  | [] => return []

def patternOf (run : Runner) (w : Word) : Run (List Glob.Item) := do
  return Glob.ofGlyphs (Glob.glyphBytes (Piece.glyphs (← expand run w)))

end InitDaemon.Simulation.Shell
