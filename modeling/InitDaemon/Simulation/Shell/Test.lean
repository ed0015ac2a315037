import InitDaemon.Simulation.Shell.State

/-!
# Conditions

The arguments of `test` are an expression: texts and numbers are compared and files looked for, and
the answers are joined by `!`, `-a`, `-o` and parentheses. An argument that looks like an operator
is a text where no operator can stand.
-/

namespace InitDaemon.Simulation.Shell.Test

/-- What a condition is asked about, and whether `==` compares texts. -/
structure Context where
  state : State
  doubled : Bool

def unaryOperators : List String :=
  ["-r", "-w", "-x", "-e", "-f", "-d", "-c", "-b", "-p", "-u", "-g", "-k", "-s", "-t", "-z", "-n",
    "-h", "-L", "-O", "-G", "-S"]

def binaryOperators : List String :=
  ["=", "!=", "<", ">", "-eq", "-ne", "-ge", "-gt", "-le", "-lt", "-nt", "-ot", "-ef"]

namespace Context

def isBinary (k : Context) (s : String) : Bool :=
  binaryOperators.contains s || (k.doubled && s == "==")

/-- Whether the first argument is an operator for the one after it. -/
def isUnary (k : Context) : List String → Bool
  | [s, _] => unaryOperators.contains s
  | s :: t :: _ :: _ => unaryOperators.contains s && !k.isBinary t
  | _ => false

def node? (k : Context) (path : String) : Option Node :=
  k.state.tree.node? k.state.directory path

def askFile (k : Context) (operator path : String) : Bool :=
  match operator, k.node? path with
  | _, none => false
  | "-d", some n => n == .directory
  | "-f", some (.file _) | "-f", some (.program _) => true
  | "-x", some n => n == .directory || (match n with
    | .program _ => true
    | _ => false)
  | "-s", some (.file content) => !content.isEmpty
  | "-s", some n => n != .null
  | "-c", some n => n == .null
  | "-h", some _ | "-L", some _ => FileTree.isLink path
  | "-e", some _ | "-r", some _ | "-w", some _ | "-O", some _ | "-G", some _ => true
  | _, some _ => false

def unary (k : Context) (operator a : String) : Option Bool :=
  match operator with
  | "-z" => some a.isEmpty
  | "-n" => some !a.isEmpty
  | "-t" => (decimal? a).map fun _ => false
  | _ => some (k.askFile operator a)

/-- Compares two arguments, unless numbers are asked for and one is none. -/
def binary (k : Context) (a operator b : String) : Option Bool :=
  match operator with
  | "=" | "==" => some (a == b)
  | "!=" => some (a != b)
  | "<" => some (a < b)
  | ">" => some (b < a)
  | "-nt" => some ((k.node? a).isSome && (k.node? b).isNone)
  | "-ot" => some ((k.node? b).isSome && (k.node? a).isNone)
  | "-ef" =>
    let place (path : String) := k.state.tree.place? k.state.directory path
    some ((k.node? a).isSome && place a == place b)
  | _ => do
    let m ← decimal? a
    let n ← decimal? b
    match operator with
    | "-eq" => return m == n
    | "-ne" => return m != n
    | "-ge" => return m ≥ n
    | "-gt" => return m > n
    | "-le" => return m ≤ n
    | _ => return m < n

end Context

mutual

/-- The answer of an expression and the arguments after it. -/
def disjunction (k : Context) : Nat → List String → Option (Bool × List String)
  | 0, _ => none
  | n + 1, args => do
    let (a, rest) ← conjunction k n args
    match rest with
    | "-o" :: rest =>
      let (b, rest) ← disjunction k n rest
      return (a || b, rest)
    | _ => return (a, rest)

def conjunction (k : Context) : Nat → List String → Option (Bool × List String)
  | 0, _ => none
  | n + 1, args => do
    let (a, rest) ← negation k n args
    match rest with
    | "-a" :: rest =>
      let (b, rest) ← conjunction k n rest
      return (a && b, rest)
    | _ => return (a, rest)

def negation (k : Context) : Nat → List String → Option (Bool × List String)
  | 0, _ => none
  | n + 1, args =>
    match args with
    | "!" :: rest => do
      let (a, rest) ← negation k n rest
      return (!a, rest)
    | _ => primary k n args

def primary (k : Context) : Nat → List String → Option (Bool × List String)
  | 0, _ => none
  | n + 1, args =>
    match args with
    | [] => some (false, [])
    | "(" :: ")" :: rest => some (false, rest)
    | "(" :: b :: rest => do
      match ← disjunction k n (b :: rest) with
      | (a, ")" :: rest) => return (a, rest)
      | _ => none
    | a :: rest =>
      if k.isUnary args then
        match rest with
        | b :: rest => (k.unary a b).map (·, rest)
        | [] => none
      else
        match rest with
        | operator :: more =>
          if k.isBinary operator then
            match more with
            | b :: rest => (k.binary a operator b).map (·, rest)
            | [] => none
          else some (!a.isEmpty, rest)
        | [] => some (!a.isEmpty, [])

end

def whole (k : Context) (args : List String) : Option Bool :=
  match disjunction k (4 * args.length + 8) args with
  | some (a, []) => some a
  | _ => none

/-- The answer to a condition, unless it cannot be read. With three or four arguments their number
decides what is an operator. -/
def answer (k : Context) : List String → Option Bool
  | [] => some false
  | ["!", a] => some a.isEmpty
  | [a, operator, b] =>
    if k.isBinary operator then k.binary a operator b
    else if a == "(" && b == ")" then some !operator.isEmpty
    else if a == "!" then (whole k [operator, b]).map (!·)
    else whole k [a, operator, b]
  | ["!", a, operator, b] =>
    if k.isBinary operator then (k.binary a operator b).map (!·)
    else (whole k [a, operator, b]).map (!·)
  | ["(", a, b, ")"] => whole k [a, b]
  | args => whole k args

/-- The status of `test` or, with a bracket as its name, of `[`. -/
def status (k : Context) (name : String) (args : List String) : Nat :=
  let args? := if name == "[" then
      if args.getLast? == some "]" then some args.dropLast else none
    else some args
  match args?.bind (answer k) with
  | some true => 0
  | some false => 1
  | none => 2

end InitDaemon.Simulation.Shell.Test
