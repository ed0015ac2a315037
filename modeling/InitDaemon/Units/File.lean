import InitDaemon.Text.Blank
import InitDaemon.Units.Basic

/-!
# Unit files

A unit file is read line by line. Five keys in two sections mean something; every other line is
passed over.
-/

namespace InitDaemon.Units

open Text

/-- What a line says, apart from the section that it stands in. -/
inductive Line
  | heading (name : List Char)
  | assignment (key value : List Char)
  | other
deriving DecidableEq, Repr

/-- The inside of a line that begins with `[` and ends with `]`. -/
def headingOf? (line : List Char) : Option (List Char) :=
  match line with
  | '[' :: rest => if rest.getLast? = some ']' then some rest.dropLast else none
  | _ => none

def isComment : List Char → Bool
  | '#' :: _ | ';' :: _ => true
  | _ => false

def Line.read (raw : List Char) : Line :=
  let line := trim raw
  match headingOf? line with
  | some name => .heading name
  | none =>
    if isComment line then .other
    else match cutAt '=' line with
      | some (key, value) => .assignment (trim key) (trim value)
      | none => .other

/-- Keys that name dependencies. Order and existence are not told apart. -/
def dependencyKeys : List String :=
  ["Requires", "Wants", "After"]

/-- The definition so far and the section that the next line stands in. -/
structure Reading where
  heading : String := ""
  unit : UnitDef := {}

namespace Reading

def assign (r : Reading) (key : String) (value : List Char) : Reading :=
  if r.heading == "Unit" && dependencyKeys.contains key then
    { r with unit.dependencies :=
        (words value).foldl (fun deps w => deps.insert (String.ofList w)) r.unit.dependencies }
  else if r.heading == "Service" && key == "ExecStart" then
    { r with unit.start := if value.isEmpty then .reach else .command (String.ofList value) }
  else if r.heading == "Service" && key == "Restart" then
    { r with unit.restart := RestartPolicy.ofText (String.ofList value) }
  else r

def next (r : Reading) (raw : List Char) : Reading :=
  match Line.read raw with
  | .heading name => { r with heading := String.ofList name }
  | .assignment key value => r.assign (String.ofList key) value
  | .other => r

end Reading

def parse (content : String) : UnitDef :=
  ((lines content.toList).foldl Reading.next {}).unit

end InitDaemon.Units
