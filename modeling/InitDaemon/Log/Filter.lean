import InitDaemon.Log.Level
import InitDaemon.Text.Blank
import InitDaemon.Text.Pattern.Reader

/-!
# Log filters

A filter is a list of directives, each a level for the topics that begin with its name. Of the
directives that fit a topic the one with the longest name decides. After a slash a filter may have
a pattern, which must occur in whatever is shown.

The filter decides what is printed and nothing else. No theorem is about it: what is said to the
journal is what theorems are about.
-/

namespace InitDaemon

open Text

/-- The loudest rank that is shown, where nothing is shown at zero. -/
abbrev Verbosity := Nat

structure Directive where
  /-- Without a name the directive fits every topic. -/
  topic : Option String
  verbosity : Verbosity
deriving DecidableEq, Repr, Inhabited

namespace Directive

def length (d : Directive) : Nat :=
  (d.topic.map String.utf8ByteSize).getD 0

def fits (d : Directive) (topic : String) : Bool :=
  match d.topic with
  | some start => topic.startsWith start
  | none => true

end Directive

/-- Directives by the length of their name, longest first. -/
structure Filter where
  directives : List Directive
  pattern : Option Pattern := none
deriving DecidableEq, Repr, Inhabited

namespace Filter

/-- Level names are read without regard to the case of ASCII letters. -/
def verbosityOf? (s : String) : Option Verbosity :=
  let s := s.map Char.toUpper
  if s == "OFF" then some 0 else (Level.all.find? fun l => l.name == s).map Level.rank

def allLevels : Verbosity := Level.trace.rank

/-- A later directive takes the place of an earlier one for the same name. -/
def put (ds : List Directive) (d : Directive) : List Directive :=
  if ds.any (·.topic == d.topic) then ds.map fun e => if e.topic == d.topic then d else e
  else ds ++ [d]

/-- One directive between two commas. A bare word is a level if it is the name of one, and the name
of a topic otherwise. -/
def directiveOf? (piece : List Char) : Option Directive :=
  let text := trim piece
  if text.isEmpty then none
  else match splitAt '=' text with
    | [word] =>
      let word := String.ofList word
      some (match verbosityOf? word with
        | some v => ⟨none, v⟩
        | none => ⟨some word, allLevels⟩)
    | [name, level] =>
      let name := String.ofList name
      let level := String.ofList (trim level)
      if level.isEmpty then some ⟨some name, allLevels⟩
      else (verbosityOf? level).map fun v => ⟨some name, v⟩
    | _ => none

/-- A filter without directives shows errors. -/
def ofDirectives (ds : List Directive) (pattern : Option Pattern) : Filter :=
  let ds := if ds.isEmpty then [⟨none, Level.error.rank⟩] else ds
  ⟨(ds.mergeSort fun a b => a.length ≤ b.length).reverse, pattern⟩

def directivesOf (spec : List Char) : List Directive :=
  ((splitAt ',' spec).filterMap directiveOf?).foldl put []

/-- Reads a filter. With two slashes or more nothing of it counts, and a pattern that cannot be read
is left out. -/
def read (spec : String) : Filter :=
  match splitAt '/' spec.toList with
  | [directives] => ofDirectives (directivesOf directives) none
  | [directives, pattern] =>
    ofDirectives (directivesOf directives) (Pattern.read? (String.ofList pattern))
  | _ => ofDirectives [] none

/-- Without a filter lines of level `info` and louder are shown. -/
def ofSetting (spec : Option String) : Filter :=
  read (spec.getD "info")

/-- The first directive that fits decides; a topic that none fits is off. -/
def admits (f : Filter) (level : Level) (topic : String) : Bool :=
  match f.directives.find? (·.fits topic) with
  | some d => level.rank ≤ d.verbosity
  | none => false

def shows (f : Filter) (level : Level) (topic text : String) : Bool :=
  f.admits level topic && f.pattern.all (·.occursIn text)

end Filter

end InitDaemon
