import InitDaemon.Units.Graph

/-!
# Graph pictures

The unit files as a directed graph in the DOT language: a node for each unit, followed by an edge
for each of its dependencies. Built-in units are left out, and names are not escaped.
-/

namespace InitDaemon.Units

inductive DotStatement
  | node (name : String)
  | edge (name dependency : String)
deriving DecidableEq, Repr

def DotStatement.text : DotStatement → String
  | node name => "  \"" ++ name ++ "\";\n"
  | edge name dep => "  \"" ++ name ++ "\" -> \"" ++ dep ++ "\";\n"

namespace Graph

def dotStatements (g : Graph) : List DotStatement :=
  g.disk.toList.flatMap fun (name, u) =>
    .node name :: u.dependencies.toList.map (.edge name)

def toDot (g : Graph) : String :=
  "digraph systemd \x7b\n" ++ "  rankdir=LR;\n" ++
    "  node [shape=box, style=filled, fillcolor=lightgrey];\n" ++
    String.join (g.dotStatements.map DotStatement.text) ++ "\x7d\n"

end Graph

end InitDaemon.Units
