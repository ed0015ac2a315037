/-!
# Control sequences of a terminal

A console line is shown without the sequences that steer a terminal. Such a sequence begins with an
escape, and its next characters tell what kind it is and so where it ends. What is left of a text
are its printable characters and its line breaks and tabs.

The lines of the log are shown this way, and nothing is proved about it.
-/

namespace InitDaemon.Text

inductive Mode
  | ground
  | escape
  | escapeIntermediate
  | csiEntry
  | csiParameter
  | csiIntermediate
  | csiIgnore
  | deviceEntry
  | deviceParameter
  | deviceIntermediate
  | deviceIgnore
  | devicePassthrough
  | command
  /-- A start of string, a privacy message or an application program command. -/
  | message
deriving DecidableEq, Repr, Inhabited

namespace Mode

def isBetween (first last : Nat) (c : Char) : Bool :=
  first ≤ c.toNat && c.toNat ≤ last

def isIntermediate : Char → Bool := isBetween 0x20 0x2f

def isParameter : Char → Bool := isBetween 0x30 0x3b

/-- Marks of private sequences, which count at the start of the parameters only. -/
def isPrivate : Char → Bool := isBetween 0x3c 0x3f

def isFinal : Char → Bool := isBetween 0x40 0x7e

/-- Whether a byte of the character's encoding after the first is the string terminator. -/
def holdsTerminator (c : Char) : Bool :=
  ((String.singleton c).toUTF8.toList.drop 1).contains 0x9c

def afterEscape (c : Char) : Mode :=
  if isIntermediate c then escapeIntermediate
  else if c == '[' then csiEntry
  else if c == ']' then command
  else if c == 'P' then deviceEntry
  else if c == 'X' || c == '^' || c == '_' then message
  else if isBetween 0x30 0x7e c then ground
  else escape

/-- Goes on with a character that neither starts nor cancels a sequence. -/
def step (m : Mode) (c : Char) : Mode :=
  match m with
  | ground => ground
  | escape => afterEscape c
  | escapeIntermediate => if isBetween 0x30 0x7e c then ground else escapeIntermediate
  | csiEntry =>
    if isIntermediate c then csiIntermediate
    else if isParameter c || isPrivate c then csiParameter
    else if isFinal c then ground
    else csiEntry
  | csiParameter =>
    if isIntermediate c then csiIntermediate
    else if isPrivate c then csiIgnore
    else if isFinal c then ground
    else csiParameter
  | csiIntermediate =>
    if isParameter c || isPrivate c then csiIgnore
    else if isFinal c then ground
    else csiIntermediate
  | csiIgnore => if isFinal c then ground else csiIgnore
  | deviceEntry =>
    if isIntermediate c then deviceIntermediate
    else if isParameter c || isPrivate c then deviceParameter
    else if isFinal c then devicePassthrough
    else deviceEntry
  | deviceParameter =>
    if isIntermediate c then deviceIntermediate
    else if isPrivate c then deviceIgnore
    else if isFinal c then devicePassthrough
    else deviceParameter
  | deviceIntermediate =>
    if isParameter c || isPrivate c then deviceIgnore
    else if isFinal c then devicePassthrough
    else deviceIntermediate
  | deviceIgnore => if holdsTerminator c then ground else deviceIgnore
  | devicePassthrough => if holdsTerminator c then ground else devicePassthrough
  | command => if c == '\x07' then ground else command
  | message => if holdsTerminator c then ground else message

def next (m : Mode) (c : Char) : Mode :=
  if c == '\x1b' then escape
  else if c == '\x18' || c == '\x1a' then ground
  else m.step c

def isBreak (c : Char) : Bool :=
  c == '\t' || c == '\n' || c == '\x0c' || c == '\x0d'

/-- Whether a character is shown. Line breaks and tabs are shown also inside of escape and control
sequences, but not inside of strings. -/
def shows (m : Mode) (c : Char) : Bool :=
  match m with
  | ground => isBreak c || (0x20 ≤ c.toNat && c.toNat != 0x7f)
  | escape | escapeIntermediate | csiEntry | csiParameter | csiIntermediate | csiIgnore => isBreak c
  | _ => false

end Mode

/-- The characters of a text that are shown. Once one is shown, those after it are too, up to the
next control character; only a character beyond ASCII ends a sequence that a line break cut. -/
def shownFrom (m : Mode) (running : Bool) : List Char → List Char
  | [] => []
  | c :: cs =>
    if (if running then Mode.ground else m).shows c then
      c :: shownFrom (if c.toNat < 0x80 then m else .ground) true cs
    else shownFrom (m.next c) false cs

def withoutControls (s : String) : String :=
  String.ofList (shownFrom .ground false s.toList)

end InitDaemon.Text
