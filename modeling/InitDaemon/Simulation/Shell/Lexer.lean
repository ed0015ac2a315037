import InitDaemon.Simulation.Shell.Command

/-!
# Tokens of the shell

A script is cut into words and operators, one token at a time. Inside of a word quotes, dollar
signs and backquotes are read into its parts.
-/

namespace InitDaemon.Simulation.Shell

inductive Token
  /-- A word; `plain` is its text if it is a single text without quotes. -/
  | word (parts : Word) (plain : Option String)
  | operator (sign : String)
  | redirect (stream : Option Nat) (sign : String)
  | newline
  | finish
deriving Repr, Inhabited

inductive ScriptError
  | unterminated
  | unexpected
deriving DecidableEq, Repr, Inhabited

namespace Lexer

def isNameStart (c : Char) : Bool :=
  c.isAlpha || c == '_'

def isNameChar (c : Char) : Bool :=
  c.isAlphanum || c == '_'

/-- Parameters with a name of one sign. -/
def isSpecial (c : Char) : Bool :=
  "@*#?-$!".toList.contains c

def isName (s : List Char) : Bool :=
  match s with
  | [] => false
  | c :: cs => isNameStart c && cs.all isNameChar

/-! ## Nested scripts -/

inductive Nesting
  | parenthesis
  /-- A list of cases, whose patterns end with a parenthesis that was never opened. -/
  | cases
deriving DecidableEq, Repr, Inhabited

/-- Reads up to the parenthesis that closes a nested script. `taken` holds what was read and `word`
the word that is being read, each with the latest first; `quote` is the open quote. -/
def nestedScript (open_ : List Nesting) (quote : Option Char) (word taken : List Char) :
    List Char → Except ScriptError (List Char × List Char)
  | [] => .error .unterminated
  | '\\' :: c :: cs =>
    if quote == some '\'' then nestedScript open_ quote [] ('\\' :: taken) (c :: cs)
    else nestedScript open_ quote ['\\'] (c :: '\\' :: taken) cs
  | c :: cs =>
    match quote with
    | some q =>
      nestedScript open_ (if c == q then none else quote) word (c :: taken) cs
    | none =>
      if c == '\'' || c == '"' || c == '\x60' then
        nestedScript open_ (some c) ['\\'] (c :: taken) cs
      else
        let finished := String.ofList word.reverse
        let open_ :=
          if isNameChar c then open_
          else if finished == "case" then .cases :: open_
          else if finished == "esac" && open_.head? == some .cases then open_.tail
          else open_
        if c == '(' then nestedScript (.parenthesis :: open_) none [] (c :: taken) cs
        else if c == ')' then
          match open_ with
          | [] => .ok (taken.reverse, cs)
          | .parenthesis :: rest => nestedScript rest none [] (c :: taken) cs
          | .cases :: _ => nestedScript open_ none [] (c :: taken) cs
        else nestedScript open_ none (if isNameChar c then c :: word else []) (c :: taken) cs

/-- Reads an arithmetic expression up to the two parentheses that close it. -/
def expression (depth : Nat) (taken : List Char) :
    List Char → Except ScriptError (List Char × List Char)
  | [] => .error .unterminated
  | ')' :: cs =>
    match depth, cs with
    | 0, ')' :: rest => .ok (taken.reverse, rest)
    | 0, _ => .error .unterminated
    | depth + 1, _ => expression depth (')' :: taken) cs
  | c :: cs => expression (if c == '(' then depth + 1 else depth) (c :: taken) cs

/-- Reads up to the closing backquote. A backslash before a dollar sign, a backquote or another
backslash is dropped, and in double quotes one before a quote too. -/
def backquoted (quoted : Bool) (taken : List Char) :
    List Char → Except ScriptError (List Char × List Char)
  | [] => .error .unterminated
  | '\x60' :: cs => .ok (taken.reverse, cs)
  | '\\' :: c :: cs =>
    if c == '$' || c == '\x60' || c == '\\' || (quoted && c == '"') then
      backquoted quoted (c :: taken) cs
    else backquoted quoted (c :: '\\' :: taken) cs
  | c :: cs => backquoted quoted (c :: taken) cs

/-! ## Words -/

/-- Where a sequence of parts stands, which tells how it is read and where it ends. -/
inductive Context
  /-- Ends before a blank or an operator. -/
  | word
  /-- Ends with the closing quote. -/
  | doubleQuotes
  /-- Ends with the closing brace. -/
  | braces (quoted : Bool)
  /-- Ends with the text: that of a document or an expression. -/
  | document
deriving DecidableEq, Repr, Inhabited

namespace Context

def quotes : Context → Bool
  | doubleQuotes | braces true | document => true
  | _ => false

def endsWord (c : Char) : Bool :=
  " \t\n;&|<>()".toList.contains c

/-- Whether a backslash takes away the meaning of a character. Otherwise it stands for itself. -/
def escapes (k : Context) (c : Char) : Bool :=
  match k with
  | word | braces false => true
  | doubleQuotes => c == '$' || c == '\x60' || c == '"' || c == '\\'
  | braces true => c == '$' || c == '\x60' || c == '"' || c == '\\' || c == '\x7d'
  | document => c == '$' || c == '\x60' || c == '\\'

end Context

/-- Adds a character to the parts read so far, the latest first. -/
def addChar (parts : Word) (c : Char) (quoted : Bool) : Word :=
  match parts with
  | .text s q :: rest =>
    if q == quoted then .text (s ++ [c]) q :: rest else .text [c] quoted :: parts
  | _ => .text [c] quoted :: parts

/-- The sign for a use of a parameter, and what follows it. -/
def parameterUse (cs : List Char) : ParameterUse × List Char :=
  match cs with
  | '\x7d' :: _ => (.value, cs)
  | ':' :: '-' :: cs => (.default true, cs)
  | '-' :: cs => (.default false, cs)
  | ':' :: '=' :: cs => (.assign true, cs)
  | '=' :: cs => (.assign false, cs)
  | ':' :: '?' :: cs => (.demand true, cs)
  | '?' :: cs => (.demand false, cs)
  | ':' :: '+' :: cs => (.alternative true, cs)
  | '+' :: cs => (.alternative false, cs)
  | '%' :: '%' :: cs => (.withoutEnd true, cs)
  | '%' :: cs => (.withoutEnd false, cs)
  | '#' :: '#' :: cs => (.withoutStart true, cs)
  | '#' :: cs => (.withoutStart false, cs)
  | cs => (.unknown, cs)

/-- The name of a parameter in braces, and what follows it. -/
def bracedName (cs : List Char) : List Char × List Char :=
  match cs with
  | c :: rest =>
    if isNameStart c then cs.span isNameChar
    else if c.isDigit then cs.span Char.isDigit
    else if isSpecial c then ([c], rest)
    else ([], cs)
  | [] => ([], [])

/-- Reads the start of a parameter in braces: its name, its use and what follows. -/
def parameterStart (cs : List Char) : List Char × ParameterUse × List Char :=
  match cs with
  | '#' :: '\x7d' :: rest => (['#'], .value, '\x7d' :: rest)
  | '#' :: rest =>
    let (name, after) := bracedName rest
    if !name.isEmpty && after.head? == some '\x7d' then (name, .length, after)
    else
      let (use, after) := parameterUse rest
      (['#'], use, after)
  | cs =>
    let (name, after) := bracedName cs
    if name.isEmpty then ([], .unknown, after)
    else
      let (use, after) := parameterUse after
      (name, use, after)

/-- Reads the parts of a word, the latest first in `parts`. -/
def parts (k : Context) : Nat → Word → List Char → Except ScriptError (Word × List Char)
  | 0, _, _ => .error .unterminated
  | fuel + 1, done, cs =>
    let quoted := k.quotes
    match cs with
    | [] => if k = .word || k = .document then .ok (done.reverse, []) else .error .unterminated
    | '\\' :: '\n' :: cs => parts k fuel done cs
    | ['\\'] => parts k fuel (addChar done '\\' true) []
    | '\\' :: c :: cs =>
      if k.escapes c then parts k fuel (addChar done c true) cs
      else parts k fuel (addChar (addChar done '\\' true) c true) cs
    | '$' :: '(' :: '(' :: cs => do
      let (inner, rest) ← expression 0 [] cs
      let (e, _) ← parts .document fuel [] inner
      parts k fuel (.arithmetic e quoted :: done) rest
    | '$' :: '(' :: cs => do
      let (script, rest) ← nestedScript [] none [] [] cs
      parts k fuel (.output script quoted :: done) rest
    | '$' :: '\x7b' :: cs => do
      let (name, use, cs) := parameterStart cs
      let (word, rest) ← parts (.braces (quoted && !use.cuts)) fuel [] cs
      parts k fuel (.parameter name use word quoted :: done) rest
    | '$' :: c :: cs =>
      if isNameStart c then
        let (name, rest) := (c :: cs).span isNameChar
        parts k fuel (.parameter name .value [] quoted :: done) rest
      else if c.isDigit || isSpecial c then
        parts k fuel (.parameter [c] .value [] quoted :: done) cs
      else parts k fuel (addChar done '$' quoted) (c :: cs)
    | '\x60' :: cs => do
      let (script, rest) ← backquoted quoted [] cs
      parts k fuel (.output script quoted :: done) rest
    | c :: cs =>
      if c == '\x7d' && (k = .braces true || k = .braces false) then .ok (done.reverse, cs)
      else if c == '"' && k = .doubleQuotes then .ok (done.reverse, cs)
      else if c == '"' && k ≠ .document then do
        let (inner, rest) ← parts .doubleQuotes fuel [] cs
        parts k fuel (inner.reverse ++ .text [] true :: done) rest
      else if c == '\'' && !quoted then
        let (inner, rest) := cs.span (· != '\'')
        match rest with
        | _ :: rest => parts k fuel (.text inner true :: done) rest
        | [] => .error .unterminated
      else if k = .word && Context.endsWord c then .ok (done.reverse, c :: cs)
      else parts k fuel (addChar done c quoted) cs

def plainText? : Word → Option String
  | [.text s false] => some (String.ofList s)
  | _ => none

/-- The text of a word whatever its quotes, for the end of a document. -/
def delimiter (w : Word) : List Char :=
  w.flatMap fun p =>
    match p with
    | .text s _ => s
    | .parameter name .. => '$' :: name
    | _ => []

def isQuoted (w : Word) : Bool :=
  w.any fun p =>
    match p with
    | .text _ q => q
    | _ => false

/-! ## Tokens -/

/-- Leaves out blanks, continued lines and a comment. -/
def skipBlanks : List Char → List Char
  | '\\' :: '\n' :: cs => skipBlanks cs
  | c :: cs => if c == ' ' || c == '\t' then skipBlanks cs else c :: cs
  | [] => []

def skipComment (cs : List Char) : List Char :=
  if cs.head? == some '#' then cs.dropWhile (· != '\n') else cs

def operator? : List Char → Option (Token × List Char)
  | '\n' :: cs => some (.newline, cs)
  | ';' :: ';' :: cs => some (.operator ";;", cs)
  | ';' :: cs => some (.operator ";", cs)
  | '&' :: '&' :: cs => some (.operator "&&", cs)
  | '&' :: cs => some (.operator "&", cs)
  | '|' :: '|' :: cs => some (.operator "||", cs)
  | '|' :: cs => some (.operator "|", cs)
  | '(' :: cs => some (.operator "(", cs)
  | ')' :: cs => some (.operator ")", cs)
  | '<' :: '<' :: '-' :: cs => some (.redirect none "<<-", cs)
  | '<' :: '<' :: cs => some (.redirect none "<<", cs)
  | '<' :: '&' :: cs => some (.redirect none "<&", cs)
  | '<' :: '>' :: cs => some (.redirect none "<>", cs)
  | '<' :: cs => some (.redirect none "<", cs)
  | '>' :: '>' :: cs => some (.redirect none ">>", cs)
  | '>' :: '&' :: cs => some (.redirect none ">&", cs)
  | '>' :: '|' :: cs => some (.redirect none ">|", cs)
  | '>' :: cs => some (.redirect none ">", cs)
  | _ => none

/-- The next token and what follows it. A digit right before a redirection is the number of its
stream. -/
def next (cs : List Char) : Except ScriptError (Token × List Char) :=
  let cs := skipComment (skipBlanks cs)
  match cs with
  | [] => .ok (.finish, [])
  | c :: rest =>
    match operator? cs with
    | some r => .ok r
    | none =>
      let numbered :=
        if c.isDigit && (rest.head? == some '<' || rest.head? == some '>') then operator? rest
        else none
      match numbered with
      | some (.redirect _ sign, rest) =>
        .ok (.redirect (some (c.toNat - '0'.toNat)) sign, rest)
      | _ => do
        let (w, rest) ← parts .word (2 * cs.length + 2) [] cs
        .ok (.word w (plainText? w), rest)

/-- Cuts the lines of a document from what follows the current line: its text, and the rest. -/
def documentLines (tabs : Bool) (stop : List Char) :
    List (List Char) → List (List Char) × List (List Char)
  | [] => ([], [])
  | line :: rest =>
    let line := if tabs then line.dropWhile (· == '\t') else line
    if line == stop then ([], rest)
    else
      let (body, after) := documentLines tabs stop rest
      (line :: body, after)

end Lexer

end InitDaemon.Simulation.Shell
