import InitDaemon.Text.Blank

/-!
# Paths

A path is cut at slashes. Empty parts and dots name nothing, apart from a dot at the start of a
relative path.
-/

namespace InitDaemon.Path

open Text

/-- The path of an entry of a directory. After a slash none is put in. -/
def join (directory entry : String) : String :=
  match directory.toList.getLast? with
  | none | some '/' => directory ++ entry
  | some _ => directory ++ "/" ++ entry

def namesNothing (part : List Char) : Bool :=
  part.isEmpty || part == ['.']

/-- Removes the parts at the end that name nothing. -/
def trimParts (parts : List (List Char)) : List (List Char) :=
  (parts.reverse.dropWhile namesNothing).reverse

/-- The path without its last part: none for the root and for the empty path. -/
def parent? (path : String) : Option String :=
  match splitAt '/' path.toList with
  | [] :: (p :: ps) =>
    let parts := trimParts (p :: ps)
    if parts.isEmpty then none
    else some (String.ofList (['/'] ++ ['/'].intercalate (trimParts parts.dropLast)))
  | p :: ps =>
    if p.isEmpty then none
    else
      let parts := trimParts ps
      if parts.isEmpty then some ""
      else some (String.ofList (['/'].intercalate (p :: trimParts parts.dropLast)))
  | [] => none

/-- At most `depth` further paths above a path, nearest first. -/
def above : Nat → String → List String
  | 0, _ => []
  | depth + 1, path =>
    match parent? path with
    | some p => p :: above depth p
    | none => []

/-- A path and the paths above it, nearest first. -/
def ancestors (path : String) : List String :=
  path :: above path.length path

end InitDaemon.Path
