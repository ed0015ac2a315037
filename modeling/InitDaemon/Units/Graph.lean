import Std.Data.ExtTreeMap
import InitDaemon.Notice
import InitDaemon.Units.Basic

/-!
# The unit graph

Definitions from unit files beside the built-in ones. A built-in hides a unit file of the same
name, and a dependency need not exist.
-/

namespace InitDaemon.Units

open Std

structure Graph where
  disk : ExtTreeMap String UnitDef := ∅
  builtin : ExtTreeMap String UnitDef := ∅

instance : Inhabited Graph := ⟨{}⟩

namespace Graph

def get? (g : Graph) (name : String) : Option UnitDef :=
  g.builtin[name]? <|> g.disk[name]?

def contains (g : Graph) (name : String) : Bool :=
  (g.get? name).isSome

/-- Adds a unit file. The first definition of a name stays, and the answer tells whether this was
it. -/
def insert (g : Graph) (name : String) (u : UnitDef) : Bool × Graph :=
  if name ∈ g.disk then (false, g) else (true, { g with disk := g.disk.insert name u })

def insertNotices (g : Graph) (name : String) : List Notice :=
  if name ∈ g.disk then [.duplicateUnit name] else []

def addBuiltins (g : Graph) : Graph :=
  { g with
    builtin := Builtin.all.foldl (fun units b => units.insert b.name b.definition) g.builtin }

def shadowNotices (g : Graph) : List Notice :=
  (Builtin.all.filter fun b => b.name ∈ g.disk).map fun b => .shadowedUnit b.name

def withBuiltins : Graph :=
  addBuiltins {}

def nameSet (g : Graph) : ExtTreeSet String :=
  (g.builtin.keys ++ g.disk.keys).foldl .insert ∅

/-- All names in order, each once. -/
def names (g : Graph) : List String :=
  g.nameSet.toList

def diskSize (g : Graph) : Nat :=
  g.disk.size

/-- The dependencies of a unit that exist, in name order. -/
def successors (g : Graph) (name : String) : List String :=
  match g.get? name with
  | some u => u.dependencies.toList.filter g.contains
  | none => []

end Graph

end InitDaemon.Units
