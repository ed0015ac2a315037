import InitDaemon.Units.Graph

/-!
# Dependency cycles

A depth-first search numbers the units in the order in which it meets them. The stack holds the
units whose component is not known yet, and a unit's low link is the smallest number on the stack
that it is known to reach. A unit whose low link is its own number is the first one of its
component, which then lies on the stack from there on.
-/

namespace InitDaemon.Units

open Std

structure Search where
  next : Nat := 0
  index : ExtTreeMap String Nat := ∅
  lowlink : ExtTreeMap String Nat := ∅
  /-- Units without a component, the latest first. -/
  stack : List String := []
  onStack : ExtTreeSet String := ∅
  /-- Components that are cycles, the latest first. -/
  found : List (List String) := []

namespace Search

/-- Numbers a unit and puts it on the stack. -/
def enter (s : Search) (v : String) : Search :=
  { s with
    next := s.next + 1
    index := s.index.insert v s.next
    lowlink := s.lowlink.insert v s.next
    stack := v :: s.stack
    onStack := s.onStack.insert v }

/-- Notes that `v` reaches the unit with number `low`. -/
def lower (s : Search) (v : String) (low : Nat) : Option Search := do
  let own ← s.lowlink[v]?
  return { s with lowlink := s.lowlink.insert v (min own low) }

/-- The stack down to `v`, and what lies below. -/
def splitStack (v : String) : List String → List String × List String
  | [] => ([], [])
  | w :: stack =>
    if w == v then ([w], stack)
    else
      let (above, below) := splitStack v stack
      (w :: above, below)

def sorted (names : List String) : List String :=
  names.mergeSort fun a b => decide (a ≤ b)

/-- Takes the component of `v` from the stack if `v` is its first unit. -/
def leave (s : Search) (v : String) (successors : List String) : Option Search := do
  let low ← s.lowlink[v]?
  let own ← s.index[v]?
  if low != own then return s
  let (component, below) := splitStack v s.stack
  let isCycle := component.length > 1 || successors.contains v
  return { s with
    stack := below
    onStack := component.foldl .erase s.onStack
    found := if isCycle then sorted component :: s.found else s.found }

/-- Looks at the edge from `v` to `w`, with `visit` for units that are met for the first time. -/
def follow (visit : String → Search → Option Search) (v : String) (s : Search) (w : String) :
    Option Search := do
  if w ∉ s.index then
    let s ← visit w s
    s.lower v (← s.lowlink[w]?)
  else if w ∈ s.onStack then
    s.lower v (← s.index[w]?)
  else
    return s

/-- Visits `v` and everything reachable from it that has not been met. There is no answer if a
look-up fails or if `fuel` is smaller than the number of units on the way. -/
def visit (successors : String → List String) : Nat → String → Search → Option Search
  | 0, _, _ => none
  | fuel + 1, v, s => do
    let ws := successors v
    let s ← ws.foldlM (follow (visit successors fuel) v) (s.enter v)
    s.leave v ws

def visitRoot (successors : String → List String) (fuel : Nat) (s : Search) (v : String) :
    Option Search :=
  if v ∈ s.index then some s else visit successors fuel v s

end Search

namespace Graph

/-- The search over a whole graph, with the roots in name order. -/
def search? (g : Graph) : Option Search :=
  g.names.foldlM (Search.visitRoot g.successors g.names.length) {}

/-- The strongly connected components that hold a cycle, each in name order. A component comes
after those that it depends on. -/
def findCycles (g : Graph) : List (List String) :=
  match g.search? with
  | some s => s.found.reverse
  | none => []

end Graph

end InitDaemon.Units
