import InitDaemon.Text.Blank
import InitDaemon.Text.Pattern.Basic
import InitDaemon.Text.Printable

/-!
# Reading search patterns

The notation has literals, sets in brackets, places, groups, alternatives, repetitions and flags in
groups of their own. There are no tables of the properties of characters: whatever needs one, which
is letter case, word boundaries and the classes of digits, spaces and words, can be asked for only
where the flag `u` is off, and then stands for ASCII. Outside of ASCII such a class would match
parts of a character, so its complement is refused.
-/

namespace InitDaemon.Text.Pattern

structure Flags where
  /-- Flag `i`. -/
  ignoresCase : Bool := false
  /-- Flag `m`: the signs for start and end stand for those of a line. -/
  multiLine : Bool := false
  /-- Flag `s`: a dot stands for a line feed too. -/
  dotAll : Bool := false
  /-- Flag `u`. -/
  unicode : Bool := true
  /-- Flag `R`: lines may end with a carriage return. -/
  returns : Bool := false
  /-- Flag `x`: blanks and comments are left out. -/
  verbose : Bool := false
deriving DecidableEq, Repr, Inhabited

structure Reading where
  rest : List Char
  flags : Flags := {}
  names : List (List Char) := []

abbrev Reader := StateT Reading Option

namespace Reader

def remaining : Reader (List Char) := do
  return (← get).rest

def flags : Reader Flags := do
  return (← get).flags

def goTo (rest : List Char) : Reader Unit :=
  modify fun r => { r with rest := rest }

def peek : Reader (Option Char) := do
  return (← remaining).head?

def bump : Reader Unit :=
  modify fun r => { r with rest := r.rest.tail }

def next : Reader Char := do
  match ← peek with
  | some c =>
    bump
    return c
  | none => failure

def expect (c : Char) : Reader Unit := do
  if (← next) != c then failure

def mustGoOn : Reader Unit := do
  if (← remaining).isEmpty then failure

/-- Leaves out blanks, and comments from a sharp sign to the end of the line. -/
def dropComments : Bool → List Char → List Char
  | _, [] => []
  | true, c :: cs => dropComments (c != '\n') cs
  | false, c :: cs =>
    if isBlank c then dropComments false cs
    else if c == '#' then dropComments true cs
    else c :: cs

def spaced (f : Flags) (cs : List Char) : List Char :=
  if f.verbose then dropComments false cs else cs

def skipSpace : Reader Unit :=
  modify fun r => { r with rest := spaced r.flags r.rest }

def bumpSpace : Reader Unit := do
  bump
  skipSpace

/-- Takes characters that satisfy `p`, with the space after each, but at most `fuel` of them. -/
def takeSpaced (p : Char → Bool) : Nat → Reader (List Char)
  | 0 => return []
  | fuel + 1 => do
    match ← peek with
    | some c =>
      if p c then
        bumpSpace
        return c :: (← takeSpaced p fuel)
      else return []
    | none => return []

/-- Takes all characters that satisfy `p`, with the space after each. -/
def takeAll (p : Char → Bool) : Reader (List Char) := do
  takeSpaced p (← remaining).length

end Reader

open Reader

/-! ## Escapes -/

inductive Symbol
  | literal (c : Char)
  | set (s : CharSet)
  | place (p : Place)
deriving DecidableEq, Repr, Inhabited

def hexValue? (c : Char) : Option Nat :=
  if c.isDigit then some (c.toNat - '0'.toNat)
  else if 'a' ≤ c && c ≤ 'f' then some (c.toNat - 'a'.toNat + 10)
  else if 'A' ≤ c && c ≤ 'F' then some (c.toNat - 'A'.toNat + 10)
  else none

def charOfHex? (digits : List Char) : Option Char :=
  let n := digits.foldl (fun n c => 16 * n + (hexValue? c).getD 0) 0
  if n.isValidChar then some (Char.ofNat n) else none

def takeHex : Nat → Reader (List Char)
  | 0 => return []
  | n + 1 => do
    match ← peek with
    | some c =>
      if (hexValue? c).isNone then failure
      bumpSpace
      return c :: (← takeHex n)
    | none => failure

/-- A character by its number: a fixed number of digits, or any number of them in braces. Two
digits alone give a byte, which must be a character of its own where the flag `u` is off. -/
def hexSymbol (digits : Nat) : Reader Symbol := do
  skipSpace
  match ← peek with
  | some '\x7b' =>
    bumpSpace
    let ds ← takeAll fun c => (hexValue? c).isSome
    expect '\x7d'
    skipSpace
    if ds.isEmpty then failure
    return .literal (← charOfHex? ds)
  | _ =>
    let c ← charOfHex? (← takeHex digits)
    if digits = 2 && !(← flags).unicode && 0x80 ≤ c.toNat then failure
    return .literal c

/-- Sets and boundaries of words are known for ASCII alone. -/
def withoutUnicode (s : Symbol) : Reader Symbol := do
  if (← flags).unicode then failure
  return s

def namedPlace? (name : List Char) : Option Place :=
  match String.ofList name with
  | "start" => some .wordStart
  | "end" => some .wordEnd
  | "start-half" => some .noWordBefore
  | "end-half" => some .noWordAfter
  | _ => none

def isPlaceNameChar (c : Char) : Bool :=
  c.isAlpha || c == '-'

/-- The sign for a word boundary may have a name in braces. Braces with anything else are a
repetition. -/
def boundarySymbol : Reader Symbol := do
  match ← remaining with
  | '\x7b' :: after =>
    match spaced (← flags) after with
    | [] => failure
    | c :: cs =>
      if isPlaceNameChar c then
        goTo (c :: cs)
        let name ← takeAll isPlaceNameChar
        expect '\x7d'
        return .place (← namedPlace? name)
      else return .place .wordBoundary
  | _ => return .place .wordBoundary

def escapeSymbol : Reader Symbol := do
  match ← next with
  | 'x' => hexSymbol 2
  | 'u' => hexSymbol 4
  | 'U' => hexSymbol 8
  | 'd' => withoutUnicode (.set .digit)
  | 's' => withoutUnicode (.set .space)
  | 'w' => withoutUnicode (.set .word)
  | 'a' => return .literal '\x07'
  | 'f' => return .literal '\x0c'
  | 't' => return .literal '\t'
  | 'n' => return .literal '\n'
  | 'r' => return .literal '\r'
  | 'v' => return .literal '\x0b'
  | 'A' => return .place .textStart
  | 'z' => return .place .textEnd
  | 'b' => withoutUnicode (← boundarySymbol)
  | 'B' => withoutUnicode (.place .noWordBoundary)
  | '<' => withoutUnicode (.place .wordStart)
  | '>' => withoutUnicode (.place .wordEnd)
  | c => if c.toNat < 0x80 && !c.isAlphanum then return .literal c else failure

/-! ## Sets -/

def namedSet? (name : List Char) : Option CharSet :=
  match String.ofList name with
  | "alnum" => some .alnum
  | "alpha" => some .alpha
  | "ascii" => some (.range '\x00' '\x7f')
  | "blank" => some (.ofRanges [('\t', '\t'), (' ', ' ')])
  | "cntrl" => some (.ofRanges [('\x00', '\x1f'), ('\x7f', '\x7f')])
  | "digit" => some .digit
  | "graph" => some (.range '!' '~')
  | "lower" => some .lower
  | "print" => some (.range ' ' '~')
  | "punct" => some (.ofRanges [('!', '/'), (':', '@'), ('[', '\x60'), ('\x7b', '~')])
  | "space" => some .space
  | "upper" => some .upper
  | "word" => some .word
  | "xdigit" => some (.ofRanges [('0', '9'), ('A', 'F'), ('a', 'f')])
  | _ => none

/-- Reads the name of a set between colons and the bracket after it. -/
def namedSetBody? (negated : Bool) (cs : List Char) : Option (CharSet × List Char) :=
  let (name, rest) := cs.span (· != ':')
  match rest with
  | ':' :: ']' :: rest =>
    (namedSet? name).map fun s => (if negated then .complement s else s, rest)
  | _ => none

def namedSetAt? : List Char → Option (CharSet × List Char)
  | ':' :: '^' :: cs => namedSetBody? true cs
  | ':' :: cs => namedSetBody? false cs
  | _ => none

def setSymbol : Reader Symbol := do
  match ← next with
  | '\\' => escapeSymbol
  | c => return .literal c

def rangeEnd (s : Symbol) : Reader Char := do
  match s with
  | .literal c => if !(← flags).unicode && 0x80 ≤ c.toNat then failure else return c
  | _ => failure

def memberSet (s : Symbol) : Reader CharSet := do
  match s with
  | .set s => return s
  | s => return .single (← rangeEnd s)

/-- A member of a set: a range, or a single symbol. A hyphen before the end of the set or before
another hyphen makes no range. -/
def setMember : Reader CharSet := do
  let first ← setSymbol
  skipSpace
  mustGoOn
  match ← remaining with
  | '-' :: after =>
    let ahead := (spaced (← flags) after).head?
    if ahead == some ']' || ahead == some '-' then memberSet first
    else
      bumpSpace
      mustGoOn
      let last ← setSymbol
      let a ← rangeEnd first
      let b ← rangeEnd last
      if a ≤ b then return .range a b else failure
  | _ => memberSet first

/-- A set without regard to case where the flag `i` is on, which is known for ASCII alone. -/
def folded (s : CharSet) : Reader CharSet := do
  let f ← flags
  if !f.ignoresCase then return s
  else if f.unicode then failure
  else return .foldCase s

/-- Where the flag `u` is off a set must not reach beyond ASCII. -/
def finishSet (negated : Bool) (s : CharSet) : Reader CharSet := do
  let s ← folded s
  let s := if negated then .complement s else s
  if !(← flags).unicode && s.contains '\x80' then failure
  return s

inductive SetOp
  | intersection
  | difference
  | symmetricDifference
deriving DecidableEq, Repr, Inhabited

def SetOp.apply : SetOp → CharSet → CharSet → CharSet
  | intersection => .intersection
  | difference => .difference
  | symmetricDifference => .symmetricDifference

/-- Joins the members after an operation with what stands before it. -/
def joinSets (pending : Option (CharSet × SetOp)) (s : CharSet) : Reader CharSet := do
  match pending with
  | some (left, op) => return op.apply (← folded left) (← folded s)
  | none => return s

mutual

def bracket : Nat → Reader CharSet
  | 0 => failure
  | fuel + 1 => do
    skipSpace
    mustGoOn
    let negated := (← peek) == some '^'
    if negated then bumpSpace
    let hyphens ← takeAll (· == '-')
    mustGoOn
    let s := if hyphens.isEmpty then CharSet.none else .single '-'
    if hyphens.isEmpty && (← peek) == some ']' then
      bumpSpace
      mustGoOn
      finishSet negated (← setMembers fuel none (.single ']'))
    else finishSet negated (← setMembers fuel none s)

/-- Reads the members of a set up to its closing bracket. -/
def setMembers : Nat → Option (CharSet × SetOp) → CharSet → Reader CharSet
  | 0, _, _ => failure
  | fuel + 1, pending, s => do
    skipSpace
    match ← remaining with
    | [] => failure
    | ']' :: rest =>
      goTo rest
      joinSets pending s
    | '[' :: rest =>
      match namedSetAt? rest with
      | some (named, rest) =>
        goTo rest
        setMembers fuel pending (.union s named)
      | none =>
        goTo rest
        let inner ← bracket fuel
        setMembers fuel pending (.union s inner)
    | '&' :: '&' :: rest =>
      goTo rest
      setMembers fuel (some (← joinSets pending s, .intersection)) .none
    | '-' :: '-' :: rest =>
      goTo rest
      setMembers fuel (some (← joinSets pending s, .difference)) .none
    | '~' :: '~' :: rest =>
      goTo rest
      setMembers fuel (some (← joinSets pending s, .symmetricDifference)) .none
    | _ => setMembers fuel pending (.union s (← setMember))

end

/-! ## Repetitions -/

/-- A number that fits into 32 bits, with blanks around it. -/
def count : Reader Nat := do
  goTo (trimStart (← remaining))
  let digits ← takeAll Char.isDigit
  goTo (trimStart (← remaining))
  if digits.isEmpty then failure
  let n := digits.foldl (fun n c => 10 * n + (c.toNat - '0'.toNat)) 0
  if n < UInt32.size then return n else failure

/-- Whether a repetition takes as much or as little as it can does not change where a pattern
occurs. -/
def skipLazy : Reader Unit := do
  if (← peek) == some '?' then bump

def counted (p : Pattern) : Reader Pattern := do
  bumpSpace
  mustGoOn
  let least ← count
  let most ← (do
    if (← peek) == some ',' then
      bumpSpace
      mustGoOn
      if (← peek) == some '\x7d' then return none else return some (← count)
    else return some least : Reader (Option Nat))
  expect '\x7d'
  skipSpace
  skipLazy
  if most.any (· < least) then failure
  return .times p least most

def uncounted (p : Pattern) (least : Nat) (most : Option Nat) : Reader Pattern := do
  bump
  skipLazy
  return .times p least most

/-! ## Groups -/

def Flags.put? (f : Flags) (on : Bool) : Char → Option Flags
  | 'i' => some { f with ignoresCase := on }
  | 'm' => some { f with multiLine := on }
  | 's' => some { f with dotAll := on }
  | 'u' => some { f with unicode := on }
  | 'R' => some { f with returns := on }
  | 'x' => some { f with verbose := on }
  | 'U' => some f
  | _ => none

/-- Switches flags on, and those after a hyphen off. -/
def Flags.putAll? (f : Flags) (on : Bool) : List Char → Option Flags
  | [] => some f
  | '-' :: cs => f.putAll? false cs
  | c :: cs => do (← f.put? on c).putAll? on cs

/-- No flag and no hyphen stands twice, and a hyphen is not the last. -/
def readFlags (f : Flags) (cs : List Char) : Option Flags :=
  if cs.Nodup ∧ cs.getLast? ≠ some '-' then f.putAll? true cs else none

/-- Letters, digits and a few signs, of which only the underscore may come first. Beyond ASCII every
character that is shown counts as a letter. -/
def isNameChar (first : Bool) (c : Char) : Bool :=
  c == '_' || c.isAlpha || (0x80 ≤ c.toNat && isPrintable c) ||
    (!first && (c.isDigit || c == '.' || c == '[' || c == ']'))

def isName : List Char → Bool
  | [] => false
  | c :: cs => isNameChar true c && cs.all (isNameChar false)

/-- Reads the name of a group. No two groups have one name. -/
def groupName (cs : List Char) : Reader Unit := do
  let (name, rest) := cs.span (· != '>')
  if rest.isEmpty || !isName name || (← get).names.contains name then failure
  modify fun r => { r with rest := rest.tail, names := name :: r.names }

/-- How a group begins: it holds a pattern, or it only sets flags. -/
inductive GroupStart
  | pattern
  | setting
deriving DecidableEq, Repr, Inhabited

/-- Reads what follows an opening parenthesis. The flags read are in force afterwards. -/
def groupStart : Reader GroupStart := do
  skipSpace
  match ← remaining with
  | '?' :: '=' :: _ | '?' :: '!' :: _ | '?' :: '<' :: '=' :: _ | '?' :: '<' :: '!' :: _ => failure
  | '?' :: 'P' :: '<' :: rest | '?' :: '<' :: rest =>
    groupName rest
    return .pattern
  | '?' :: rest =>
    let (signs, rest) := rest.span fun c => c != ':' && c != ')'
    let f ← readFlags (← flags) signs
    modify fun r => { r with rest := rest.tail, flags := f }
    match rest with
    | ':' :: _ => return .pattern
    | ')' :: _ => if signs.isEmpty then failure else return .setting
    | _ => failure
  | _ => return .pattern

/-! ## Patterns -/

def literal (c : Char) : Reader Pattern := do
  let f ← flags
  if f.ignoresCase && f.unicode then failure
  if f.ignoresCase && c.isAlpha then return .char (.foldCase (.single c))
  return .char (.single c)

def dot : Reader Pattern := do
  let f ← flags
  if !f.unicode then failure
  if f.dotAll then return .char .all
  let line := CharSet.single '\n'
  return .char (.complement (if f.returns then .union line (.single '\r') else line))

def lineStart : Reader Pattern := do
  let f ← flags
  return .place
    (if !f.multiLine then .textStart else if f.returns then .returnLineStart else .lineStart)

def lineEnd : Reader Pattern := do
  let f ← flags
  return .place
    (if !f.multiLine then .textEnd else if f.returns then .returnLineEnd else .lineEnd)

/-- A sign that stands for itself or for a set or a place. -/
def primitive : Reader Pattern := do
  match ← next with
  | '\\' =>
    match ← escapeSymbol with
    | .literal c => literal c
    | .set s => return .char s
    | .place p => return .place p
  | '.' => dot
  | '^' => lineStart
  | '$' => lineEnd
  | c => literal c

/-- The pattern of the items read so far, the latest first. Settings of flags leave no pattern. -/
def join (done : Option Pattern) (items : List (Option Pattern)) : Pattern :=
  let p := (items.filterMap id).foldr (fun p before => .seq before p) .empty
  match done with
  | some d => .alt d p
  | none => p

/-- What a repetition applies to: the item before it, which must be a pattern. -/
def splitLast : List (Option Pattern) → Reader (Pattern × List (Option Pattern))
  | some p :: items => return (p, items)
  | _ => failure

mutual

/-- Reads alternatives up to a closing parenthesis or the end. -/
def alternatives : Nat → Option Pattern → List (Option Pattern) → Reader Pattern
  | 0, _, _ => failure
  | fuel + 1, done, items => do
    skipSpace
    match ← peek with
    | none | some ')' => return join done items
    | some '|' =>
      bump
      alternatives fuel (some (join done items)) []
    | some '(' =>
      bump
      let item ← group fuel
      alternatives fuel done (item :: items)
    | some '[' =>
      bump
      let s ← bracket fuel
      alternatives fuel done (some (.char s) :: items)
    | some '*' =>
      let (p, items) ← splitLast items
      alternatives fuel done (some (← uncounted p 0 none) :: items)
    | some '+' =>
      let (p, items) ← splitLast items
      alternatives fuel done (some (← uncounted p 1 none) :: items)
    | some '?' =>
      let (p, items) ← splitLast items
      alternatives fuel done (some (← uncounted p 0 (some 1)) :: items)
    | some '\x7b' =>
      let (p, items) ← splitLast items
      alternatives fuel done (some (← counted p) :: items)
    | some _ =>
      let p ← primitive
      alternatives fuel done (some p :: items)

/-- Reads a group after its opening parenthesis: its pattern, or nothing if it sets flags. -/
def group : Nat → Reader (Option Pattern)
  | 0 => failure
  | fuel + 1 => do
    let outer ← flags
    match ← groupStart with
    | .setting => return none
    | .pattern =>
      let p ← alternatives fuel none []
      expect ')'
      modify fun r => { r with flags := outer }
      return some p

end

/-- Patterns that are larger when their repetitions are written out are refused. -/
def sizeLimit : Nat := 327680

/-- Reads a pattern. There is none if the text is not one, or a pattern that needs a property of
characters. -/
def read? (s : String) : Option Pattern := do
  let cs := s.toList
  let (p, r) ← (alternatives (2 * cs.length + 2) none []).run { rest := cs }
  if r.rest.isEmpty && p.size ≤ sizeLimit then some p else none

end InitDaemon.Text.Pattern
