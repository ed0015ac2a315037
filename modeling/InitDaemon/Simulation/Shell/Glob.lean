/-!
# Patterns of the shell

A pattern is a text in which an unquoted star, question mark or list in brackets stands for more
than itself. Its parts can be cut from the start or the end of a text.
-/

namespace InitDaemon.Simulation.Shell

/-- A character, and whether it was quoted. -/
abbrev Glyph := Char × Bool

namespace Glob

inductive Item
  | literal (c : Char)
  | any
  | star
  | oneOf (negated : Bool) (ranges : List (Char × Char)) (classes : List String)
deriving DecidableEq, Repr, Inhabited

namespace Item

def inClass (c : Char) : String → Bool
  | "alpha" => c.isAlpha
  | "digit" => c.isDigit
  | "alnum" => c.isAlphanum
  | "upper" => c.isUpper
  | "lower" => c.isLower
  | "space" => c.isWhitespace || c == '\x0b' || c == '\x0c'
  | "blank" => c == ' ' || c == '\t'
  | "punct" => '!' ≤ c && c ≤ '~' && !c.isAlphanum
  | "xdigit" => c.isDigit || ('a' ≤ c.toLower && c.toLower ≤ 'f')
  | "print" => ' ' ≤ c && c ≤ '~'
  | "graph" => '!' ≤ c && c ≤ '~'
  | "cntrl" => c < ' ' || c == '\x7f'
  | _ => false

def admits : Item → Char → Bool
  | literal d, c => c == d
  | any, _ | star, _ => true
  | oneOf negated ranges classes, c =>
    (ranges.any (fun (a, b) => a ≤ c && c ≤ b) || classes.any (inClass c)) != negated

end Item

/-- The members of a list in brackets and what follows it. `first` says that a closing bracket is
still a member. -/
def members : Nat → Bool → List (Char × Char) → List String → List Glyph →
    Option (List (Char × Char) × List String × List Glyph)
  | 0, _, _, _, _ => none
  | _ + 1, _, _, _, [] => none
  | n + 1, first, ranges, classes, (c, quoted) :: rest =>
    if c == ']' && !quoted && !first then some (ranges, classes, rest)
    else
      let name := (rest.drop 1).takeWhile (·.1 != ':')
      let after := (rest.drop 1).drop name.length
      match c, quoted, rest.head?, after with
      | '[', false, some (':', false), (':', _) :: (']', _) :: after =>
        members n false ranges (String.ofList (name.map (·.1)) :: classes) after
      | _, _, _, _ =>
        match rest with
        | ('-', false) :: (d, q) :: after =>
          if d == ']' && !q then members n false ((c, c) :: ranges) classes rest
          else members n false ((c, d) :: ranges) classes after
        | _ => members n false ((c, c) :: ranges) classes rest

/-- The items of a pattern. A bracket that is never closed stands for itself. -/
def items : Nat → List Glyph → List Item
  | 0, _ | _, [] => []
  | n + 1, (c, true) :: rest => .literal c :: items n rest
  | n + 1, (c, false) :: rest =>
    if c == '*' then .star :: items n rest
    else if c == '?' then .any :: items n rest
    else if c == '[' then
      let (negated, inner) :=
        match rest with
        | ('!', false) :: inner => (true, inner)
        | _ => (false, rest)
      match members (rest.length + 1) true [] [] inner with
      | some (ranges, classes, after) => .oneOf negated ranges classes :: items n after
      | none => .literal c :: items n rest
    else .literal c :: items n rest

def ofGlyphs (p : List Glyph) : List Item :=
  items p.length p

/-- The bytes of a text, for patterns that know characters of one byte only. -/
def bytes (s : List Char) : List Char :=
  (String.ofList s).toUTF8.toList.map fun b => Char.ofNat b.toNat

def glyphBytes (p : List Glyph) : List Glyph :=
  p.flatMap fun (c, quoted) => (bytes [c]).map (·, quoted)

def covers : List Item → List Char → Bool
  | [], s => s.isEmpty
  | .star :: p, s => (List.range (s.length + 1)).any fun n => covers p (s.drop n)
  | i :: p, c :: s => i.admits c && covers p s
  | _ :: _, [] => false

/-- Cuts the shortest or longest start that a pattern stands for. -/
def withoutStart (longest : Bool) (p : List Item) (s : List Char) : List Char :=
  let sizes := (List.range (s.length + 1)).filter fun n => covers p (s.take n)
  match if longest then sizes.getLast? else sizes.head? with
  | some n => s.drop n
  | none => s

/-- Cuts the shortest or longest end that a pattern stands for. -/
def withoutEnd (longest : Bool) (p : List Item) (s : List Char) : List Char :=
  (withoutStart longest p.reverse s.reverse).reverse

end Glob

end InitDaemon.Simulation.Shell
