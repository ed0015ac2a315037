import InitDaemon.Simulation.Shell.State

/-!
# Printing arguments

A backslash and what follows it stand for a character. A format is printed again until it has taken
all arguments.
-/

namespace InitDaemon.Simulation.Shell.Printing

def letterEscapes : List (Char × Char) :=
  [('a', '\x07'), ('b', '\x08'), ('f', '\x0c'), ('n', '\n'), ('r', '\r'), ('t', '\t'),
    ('v', '\x0b'), ('e', '\x1b'), ('\\', '\\')]

def octal (cs : List Char) : Char :=
  Char.ofNat (cs.foldl (fun n c => n * 8 + (c.toNat - '0'.toNat)) 0 % 256)

def isOctal (c : Char) : Bool :=
  '0' ≤ c && c ≤ '7'

/-- Puts characters in the place of backslashes, and says whether `\c` ended the text. Numbers in
base 8 have three digits, after a zero if `zero` asks for one. -/
def unescape (zero : Bool) : Nat → List Char → List Char × Bool
  | 0, _ | _, [] => ([], false)
  | n + 1, '\\' :: c :: rest =>
    if c == 'c' then ([], true)
    else
      match letterEscapes.lookup c with
      | some d =>
        let (cs, stop) := unescape zero n rest
        (d :: cs, stop)
      | none =>
        let start := if zero then (if c == '0' then rest else []) else c :: rest
        let ds := (start.take 3).takeWhile isOctal
        if (zero && c == '0') || (!zero && isOctal c) then
          let (cs, stop) := unescape zero n (start.drop ds.length)
          (octal ds :: cs, stop)
        else
          let (cs, stop) := unescape zero n (c :: rest)
          ('\\' :: cs, stop)
  | n + 1, c :: rest =>
    let (cs, stop) := unescape zero n rest
    (c :: cs, stop)

/-- The arguments with blanks between them and a newline, unless the first one is `-n` or they end
with `\c`. -/
def echo (escapes : Bool) (args : List String) : List Char :=
  let (newline, args) :=
    match args with
    | "-n" :: args => (false, args)
    | args => (true, args)
  let text := (String.intercalate " " args).toList
  let (text, stop) := if escapes then unescape true text.length text else (text, false)
  if newline && !stop then text ++ ['\n'] else text

/-! ## Formats -/

/-- A piece of a format: a text, or how an argument is printed. -/
inductive Directive
  | text (s : List Char)
  | conversion (flags : List Char) (width : Nat) (precision : Option Nat) (kind : Char)
deriving DecidableEq, Repr, Inhabited

def numberOf (cs : List Char) : Nat :=
  cs.foldl (fun n c => n * 10 + (c.toNat - '0'.toNat)) 0

/-- The pieces of a format, and whether `\c` ended it. -/
def directives : Nat → List Char → List Directive × Bool
  | 0, _ | _, [] => ([], false)
  | n + 1, '%' :: '%' :: rest =>
    let (ds, stop) := directives n rest
    (.text ['%'] :: ds, stop)
  | n + 1, '%' :: rest =>
    let (flags, rest) := rest.span fun c => "-+ 0#".toList.contains c
    let (width, rest) := rest.span Char.isDigit
    let (precision, rest) :=
      match rest with
      | '.' :: rest =>
        let (ds, rest) := rest.span Char.isDigit
        (some (numberOf ds), rest)
      | rest => (none, rest)
    match rest with
    | [] => ([.text ['%']], false)
    | kind :: rest =>
      let (ds, stop) := directives n rest
      (.conversion flags (numberOf width) precision kind :: ds, stop)
  | n + 1, c :: rest =>
    let plain := (c :: rest).takeWhile (· != '%')
    let (text, stop) := unescape false plain.length plain
    if stop then ([.text text], true)
    else
      let (ds, stop) := directives n ((c :: rest).drop plain.length)
      (.text text :: ds, stop)

def pad (flags : List Char) (width : Nat) (s : List Char) : List Char :=
  let missing := width - s.length
  if flags.contains '-' then s ++ List.replicate missing ' '
  else if flags.contains '0' then
    match s with
    | '-' :: digits => '-' :: List.replicate missing '0' ++ digits
    | _ => List.replicate missing '0' ++ s
  else List.replicate missing ' ' ++ s

/-- A number of an argument. A quote before a character stands for its code. -/
def argumentNumber (s : String) : Int × Bool :=
  match s.toList with
  | '\'' :: c :: _ | '"' :: c :: _ => (c.toNat, true)
  | [] => (0, true)
  | '0' :: x :: ds =>
    if (x == 'x' || x == 'X') && !ds.isEmpty && ds.all Char.isAlphanum then
      (ds.foldl (fun n c =>
        n * 16 +
          (if c.isDigit then c.toNat - '0'.toNat else c.toLower.toNat - 'a'.toNat + 10)) 0, true)
    else if (x :: ds).all isOctal then
      ((x :: ds).foldl (fun n c => n * 8 + (c.toNat - '0'.toNat)) 0, true)
    else (0, false)
  | _ =>
    match decimal? s with
    | some n => (n, true)
    | none => (0, false)

/-- An argument as a piece of a format prints it, and whether the argument could be read. -/
def convert (flags : List Char) (width : Nat) (precision : Option Nat) (kind : Char) (a : String) :
    Option (List Char × Bool) :=
  let cut (cs : List Char) := match precision with
    | some p => cs.take p
    | none => cs
  let number (digits : Int → List Char) :=
    let (n, ok) := argumentNumber a
    some (pad flags width (digits n), ok)
  match kind with
  | 's' => some (pad (flags.filter (· != '0')) width (cut a.toList), true)
  | 'b' => some (pad flags width (cut (unescape true a.length a.toList).1), true)
  | 'c' => some (pad flags width (a.toList.take 1), true)
  | 'd' | 'i' | 'u' => number fun n => (toString n).toList
  | 'o' => number fun n => Nat.toDigits 8 n.toNat
  | 'x' => number fun n => Nat.toDigits 16 n.toNat
  | 'X' => number fun n => (Nat.toDigits 16 n.toNat).map Char.toUpper
  | _ => none

/-- Prints a format once and gives the text, the arguments that are left and a status. -/
def once : List Directive → List String → List Char × List String × Nat
  | [], args => ([], args, 0)
  | .text s :: ds, args =>
    let (out, args, status) := once ds args
    (s ++ out, args, status)
  | .conversion flags width precision kind :: ds, args =>
    match convert flags width precision kind (args.headD "") with
    | none => ([], [], 2)
    | some (s, ok) =>
      let (out, args, status) := once ds args.tail
      (s ++ out, args, if ok then status else max status 1)

def repeated (ds : List Directive) : Nat → List String → List Char × Nat
  | 0, _ => ([], 0)
  | n + 1, args =>
    let (out, rest, status) := once ds args
    if rest.isEmpty || rest.length == args.length then (out, status)
    else
      let (more, again) := repeated ds n rest
      (out ++ more, max status again)

def printf : List String → List Char × Nat
  | [] => ([], 2)
  | format :: args =>
    let format := format.toList
    let (ds, stop) := directives format.length format
    if stop then
      let (out, _, status) := once ds args
      (out, status)
    else repeated ds (args.length + 1) args

end InitDaemon.Simulation.Shell.Printing
