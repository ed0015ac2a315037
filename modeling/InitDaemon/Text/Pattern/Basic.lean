/-!
# Search patterns

A pattern matches pieces of a text. Its meaning is a step between positions: from a set of positions
at which matches may begin to the set of those at which they end. A text is searched by starting
at all of its positions.

Patterns are there for the filter of the log alone. Nothing is proved about them.
-/

namespace InitDaemon.Text

inductive CharSet
  | none
  | range (first last : Char)
  | union (a b : CharSet)
  | difference (a b : CharSet)
  | complement (a : CharSet)
  /-- Takes no notice of the case of ASCII letters. -/
  | foldCase (a : CharSet)
deriving DecidableEq, Repr, Inhabited

namespace CharSet

def otherCase (c : Char) : Char :=
  if c.isUpper then c.toLower else c.toUpper

def contains : CharSet → Char → Bool
  | none, _ => false
  | range first last, c => first ≤ c && c ≤ last
  | union a b, c => a.contains c || b.contains c
  | difference a b, c => a.contains c && !b.contains c
  | complement a, c => !a.contains c
  | foldCase a, c => a.contains c || a.contains (otherCase c)

def single (c : Char) : CharSet :=
  range c c

def all : CharSet :=
  complement none

def intersection (a b : CharSet) : CharSet :=
  difference a (complement b)

def symmetricDifference (a b : CharSet) : CharSet :=
  union (difference a b) (difference b a)

def ofRanges (ranges : List (Char × Char)) : CharSet :=
  ranges.foldr (fun (first, last) s => union (range first last) s) none

def digit : CharSet := range '0' '9'

def lower : CharSet := range 'a' 'z'

def upper : CharSet := range 'A' 'Z'

def alpha : CharSet := union lower upper

def alnum : CharSet := union alpha digit

def word : CharSet := union alnum (single '_')

def space : CharSet := union (range '\t' '\x0d') (single ' ')

end CharSet

/-- A condition on a position, which takes no character. -/
inductive Place
  | textStart
  | textEnd
  | lineStart
  | lineEnd
  /-- Lines that end with a carriage return, a line feed or both. -/
  | returnLineStart
  | returnLineEnd
  | wordBoundary
  | noWordBoundary
  | wordStart
  | wordEnd
  | noWordBefore
  | noWordAfter
deriving DecidableEq, Repr, Inhabited

namespace Place

def holds (p : Place) (before after : Option Char) : Bool :=
  let wordAt (c : Option Char) : Bool := c.any CharSet.word.contains
  match p with
  | textStart => before.isNone
  | textEnd => after.isNone
  | lineStart => before.isNone || before == some '\n'
  | lineEnd => after.isNone || after == some '\n'
  | returnLineStart =>
    before.isNone || before == some '\n' || (before == some '\r' && after != some '\n')
  | returnLineEnd =>
    after.isNone || after == some '\r' || (after == some '\n' && before != some '\r')
  | wordBoundary => wordAt before != wordAt after
  | noWordBoundary => wordAt before == wordAt after
  | wordStart => !wordAt before && wordAt after
  | wordEnd => wordAt before && !wordAt after
  | noWordBefore => !wordAt before
  | noWordAfter => !wordAt after

end Place

inductive Pattern
  | empty
  | char (s : CharSet)
  | place (p : Place)
  | seq (a b : Pattern)
  | alt (a b : Pattern)
  /-- At least `least` times, and at most `most` times if there is a bound. -/
  | times (a : Pattern) (least : Nat) (most : Option Nat)
deriving DecidableEq, Repr, Inhabited

namespace Pattern

def merge (new old : List Nat) : List Nat :=
  new.foldr (fun i is => if is.contains i then is else i :: is) old

/-- Makes a step `n` times. Nothing follows from no position. -/
def stepTimes (f : List Nat → List Nat) : Nat → List Nat → List Nat
  | 0, is => is
  | _ + 1, [] => []
  | n + 1, is => stepTimes f n (f is)

/-- Adds to a set of positions what follows from its members in up to `n` steps. -/
def stepUpTo (f : List Nat → List Nat) : Nat → List Nat → List Nat → List Nat
  | 0, _, found => found
  | n + 1, front, found =>
    let new := (f front).filter fun i => !found.contains i
    if new.isEmpty then found else stepUpTo f n new (merge new found)

/-- The positions at which matches end that begin at one of `starts`. -/
def ends (text : Array Char) : Pattern → List Nat → List Nat
  | empty, starts => starts
  | char s, starts =>
    (starts.filter fun i => text[i]?.any s.contains).map (· + 1)
  | place p, starts =>
    starts.filter fun i => p.holds (if i = 0 then none else text[i - 1]?) text[i]?
  | seq a b, starts => b.ends text (a.ends text starts)
  | alt a b, starts => merge (a.ends text starts) (b.ends text starts)
  | times a least most, starts =>
    let reached := stepTimes (a.ends text) least starts
    stepUpTo (a.ends text) (most.elim (text.size + 1) (· - least)) reached reached

def occursIn (p : Pattern) (text : String) : Bool :=
  let text := text.toList.toArray
  !(p.ends text (List.range (text.size + 1))).isEmpty

/-- How many characters and places a pattern tests when its repetitions are written out. -/
def size : Pattern → Nat
  | empty | char _ | place _ => 1
  | seq a b | alt a b => a.size + b.size
  | times a least most => a.size * max 1 (most.getD (max 1 least))

end Pattern

end InitDaemon.Text
