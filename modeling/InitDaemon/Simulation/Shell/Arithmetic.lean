/-!
# Arithmetic of the shell

Expressions over integers of 64 bits, which wrap. A name stands for the integer that its variable
holds, and 0 if there is none.
-/

namespace InitDaemon.Simulation.Shell

namespace Arithmetic

inductive BinaryOp
  | mul | div | mod | add | sub | shiftLeft | shiftRight
  | less | lessEqual | greater | greaterEqual | equal | notEqual
  | bitAnd | bitXor | bitOr
deriving DecidableEq, Repr, Inhabited

inductive UnaryOp
  | negate | plus | not | complement
deriving DecidableEq, Repr, Inhabited

inductive Expr
  | literal (n : Int64)
  | named (name : String)
  | unary (op : UnaryOp) (e : Expr)
  | binary (op : BinaryOp) (a b : Expr)
  | both (a b : Expr)
  | either (a b : Expr)
  | choice (test yes no : Expr)
  /-- Gives a variable a value, computed with its old one if there is an operator. -/
  | assign (name : String) (op : Option BinaryOp) (e : Expr)
deriving Repr, Inhabited

/-! ## Reading -/

inductive Token
  | number (n : Int64)
  | name (s : String)
  | sign (s : String)
deriving DecidableEq, Repr, Inhabited

def digit? (base : Nat) (c : Char) : Option Nat :=
  let n :=
    if c.isDigit then c.toNat - '0'.toNat
    else if c.isAlpha then c.toLower.toNat - 'a'.toNat + 10
    else base
  if n < base then some n else none

/-- The largest integer, which also stands for those above it. -/
def largest : Nat := Int64.maxValue.toNatClampNeg

def digits (base : Nat) (cs : List Char) : Nat × List Char :=
  let ds := cs.takeWhile fun c => (digit? base c).isSome
  (ds.foldl (fun n c => n * base + (digit? base c).getD 0) 0, cs.drop ds.length)

/-- The number at the start of a text, in base 16 after `0x` and in base 8 after another 0. -/
def number (cs : List Char) : Nat × List Char :=
  match cs with
  | '0' :: x :: c :: rest =>
    if (x == 'x' || x == 'X') && (digit? 16 c).isSome then digits 16 (c :: rest) else digits 8 cs
  | '0' :: _ => digits 8 cs
  | _ => digits 10 cs

def isBlank (c : Char) : Bool :=
  c == ' ' || c == '\t' || c == '\n' || c == '\r' || c == '\x0b' || c == '\x0c'

def integer? (s : String) : Option Int64 :=
  let cs := s.toList.dropWhile isBlank
  let (negative, cs) :=
    match cs with
    | '-' :: cs => (true, cs)
    | '+' :: cs => (false, cs)
    | cs => (false, cs)
  let (n, rest) := number cs
  let n : Int := if negative then -n else n
  let fits := -(largest : Int) - 1 ≤ n && n ≤ largest
  if (cs.head?.any Char.isDigit) && rest.all isBlank && fits then
    some (Int64.ofInt n)
  else none

def signs : List String :=
  ["<<=", ">>=", "<<", ">>", "<=", ">=", "==", "!=", "&&", "||", "+=", "-=", "*=", "/=", "%=", "&=",
    "^=", "|=", "<", ">", "=", "!", "&", "|", "+", "-", "*", "/", "%", "^", "~", "?", ":", "(", ")"]

def tokens : Nat → List Char → Option (List Token)
  | 0, _ => none
  | _ + 1, [] => some []
  | n + 1, c :: cs =>
    if isBlank c then tokens n cs
    else if c.isDigit then
      let (k, rest) := number (c :: cs)
      (tokens n rest).map (.number (Int64.ofNat (min k largest)) :: ·)
    else if c.isAlpha || c == '_' then
      let (name, rest) := (c :: cs).span fun d => d.isAlphanum || d == '_'
      (tokens n rest).map (.name (String.ofList name) :: ·)
    else
      match signs.find? fun s => s.toList.isPrefixOf (c :: cs) with
      | some s => (tokens n ((c :: cs).drop s.length)).map (.sign s :: ·)
      | none => none

/-- Operators by how tightly they bind, the loosest first. -/
def levels : List (List (String × BinaryOp)) :=
  [[("|", .bitOr)], [("^", .bitXor)], [("&", .bitAnd)], [("==", .equal), ("!=", .notEqual)],
    [("<", .less), ("<=", .lessEqual), (">", .greater), (">=", .greaterEqual)],
    [("<<", .shiftLeft), (">>", .shiftRight)], [("+", .add), ("-", .sub)],
    [("*", .mul), ("/", .div), ("%", .mod)]]

def unarySigns : List (String × UnaryOp) :=
  [("-", .negate), ("+", .plus), ("!", .not), ("~", .complement)]

def assignSigns : List (String × Option BinaryOp) :=
  [("=", none), ("+=", some .add), ("-=", some .sub), ("*=", some .mul), ("/=", some .div),
    ("%=", some .mod), ("<<=", some .shiftLeft), (">>=", some .shiftRight), ("&=", some .bitAnd),
    ("^=", some .bitXor), ("|=", some .bitOr)]

mutual

def assignment : Nat → List Token → Option (Expr × List Token)
  | 0, _ => none
  | n + 1, ts =>
    match ts with
    | .name v :: .sign s :: rest =>
      match assignSigns.lookup s with
      | some op => do
        let (e, rest) ← assignment n rest
        return (.assign v op e, rest)
      | none => conditional n ts
    | _ => conditional n ts

def conditional : Nat → List Token → Option (Expr × List Token)
  | 0, _ => none
  | n + 1, ts => do
    let (test, rest) ← disjunction n ts
    match rest with
    | .sign "?" :: rest =>
      let (yes, rest) ← assignment n rest
      match rest with
      | .sign ":" :: rest =>
        let (no, rest) ← conditional n rest
        return (.choice test yes no, rest)
      | _ => none
    | _ => return (test, rest)

def disjunction : Nat → List Token → Option (Expr × List Token)
  | 0, _ => none
  | n + 1, ts => do
    let (a, rest) ← conjunction n ts
    match rest with
    | .sign "||" :: rest =>
      let (b, rest) ← disjunction n rest
      return (.either a b, rest)
    | _ => return (a, rest)

def conjunction : Nat → List Token → Option (Expr × List Token)
  | 0, _ => none
  | n + 1, ts => do
    let (a, rest) ← binary n levels ts
    match rest with
    | .sign "&&" :: rest =>
      let (b, rest) ← conjunction n rest
      return (.both a b, rest)
    | _ => return (a, rest)

def binary : Nat → List (List (String × BinaryOp)) → List Token → Option (Expr × List Token)
  | 0, _, _ => none
  | n + 1, [], ts => unary n ts
  | n + 1, level :: tighter, ts => do
    let (a, rest) ← binary n tighter ts
    binaryAfter n level tighter a rest

/-- Operators of one level are taken from left to right. -/
def binaryAfter : Nat → List (String × BinaryOp) → List (List (String × BinaryOp)) → Expr →
    List Token → Option (Expr × List Token)
  | 0, _, _, _, _ => none
  | n + 1, level, tighter, a, ts =>
    match ts with
    | .sign s :: rest =>
      match level.lookup s with
      | some op => do
        let (b, rest) ← binary n tighter rest
        binaryAfter n level tighter (.binary op a b) rest
      | none => some (a, ts)
    | _ => some (a, ts)

def unary : Nat → List Token → Option (Expr × List Token)
  | 0, _ => none
  | n + 1, ts =>
    match ts with
    | .number k :: rest => some (.literal k, rest)
    | .name v :: rest => some (.named v, rest)
    | .sign "(" :: rest => do
      let (e, rest) ← assignment n rest
      match rest with
      | .sign ")" :: rest => return (e, rest)
      | _ => none
    | .sign s :: rest => do
      let op ← unarySigns.lookup s
      let (e, rest) ← unary n rest
      return (.unary op e, rest)
    | [] => none

end

def read? (s : List Char) : Option Expr := do
  let ts ← tokens (s.length + 1) s
  let (e, rest) ← assignment (16 * ts.length + 16) ts
  if rest.isEmpty then return e else none

/-! ## Values -/

def truth (b : Bool) : Int64 :=
  if b then 1 else 0

def UnaryOp.apply : UnaryOp → Int64 → Int64
  | .negate, a => -a
  | .plus, a => a
  | .not, a => truth (a == 0)
  | .complement, a => ~~~a

/-- The result of an operation, unless it divides by 0 or the quotient is too large. -/
def BinaryOp.apply? : BinaryOp → Int64 → Int64 → Option Int64
  | .mul, a, b => some (a * b)
  | .div, a, b => if b == 0 || (b == -1 && a == Int64.minValue) then none else some (a / b)
  | .mod, a, b => if b == 0 || (b == -1 && a == Int64.minValue) then none else some (a % b)
  | .add, a, b => some (a + b)
  | .sub, a, b => some (a - b)
  | .shiftLeft, a, b => some (a <<< b)
  | .shiftRight, a, b => some (a >>> b)
  | .less, a, b => some (truth (a < b))
  | .lessEqual, a, b => some (truth (a ≤ b))
  | .greater, a, b => some (truth (a > b))
  | .greaterEqual, a, b => some (truth (a ≥ b))
  | .equal, a, b => some (truth (a == b))
  | .notEqual, a, b => some (truth (a != b))
  | .bitAnd, a, b => some (a &&& b)
  | .bitXor, a, b => some (a ^^^ b)
  | .bitOr, a, b => some (a ||| b)

structure Memory (m : Type → Type) where
  read : String → m Int64
  write : String → Int64 → m Unit
  fail : m Int64

def Expr.eval {m : Type → Type} [Monad m] (memory : Memory m) : Expr → m Int64
  | .literal n => return n
  | .named name => memory.read name
  | .unary op e => return op.apply (← e.eval memory)
  | .binary op a b => do
    let a ← a.eval memory
    let b ← b.eval memory
    match op.apply? a b with
    | some n => return n
    | none => memory.fail
  | .both a b => do
    if (← a.eval memory) == 0 then return 0
    return truth ((← b.eval memory) != 0)
  | .either a b => do
    if (← a.eval memory) != 0 then return 1
    return truth ((← b.eval memory) != 0)
  | .choice test yes no => do
    if (← test.eval memory) != 0 then yes.eval memory else no.eval memory
  | .assign name op e => do
    match op with
    | none =>
      let n ← e.eval memory
      memory.write name n
      return n
    | some op =>
      let old ← memory.read name
      let n ← e.eval memory
      match op.apply? old n with
      | some n =>
        memory.write name n
        return n
      | none => memory.fail

end Arithmetic

end InitDaemon.Simulation.Shell
