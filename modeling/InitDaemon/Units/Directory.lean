import InitDaemon.Host.Path
import InitDaemon.Units.File
import InitDaemon.Units.Graph

/-!
# Unit directories

Unit files are loaded from a list of directories, each read in name order. An entry that cannot be
read is passed over, and the first definition of a name wins.
-/

namespace InitDaemon.Units

open Std

abbrev FileContent := Except ReadError String

/-- A directory as it is listed: entries whose name is no text have none. -/
structure Directory where
  path : String
  entries : Except Errno (List (Option String × FileContent))

namespace Directory

def listing (d : Directory) : ExtTreeMap String FileContent :=
  match d.entries with
  | .ok entries =>
    entries.foldl (fun files (name, content) =>
      match name with
      | some name => files.insert name content
      | none => files) ∅
  | .error _ => ∅

def notices (d : Directory) : List Notice :=
  match d.entries with
  | .ok _ => []
  | .error errno => [.unreadableDirectory d.path errno]

end Directory

/-- A graph and what there was to say while it was built. -/
structure Loading where
  graph : Graph := {}
  notices : List Notice := []

namespace Loading

def say (l : Loading) (notices : List Notice) : Loading :=
  { l with notices := l.notices ++ notices }

def addFile (path : String) (l : Loading) (file : String × FileContent) : Loading :=
  let (name, content) := file
  if isUnitFile name then
    match content with
    | .ok text =>
      let said := l.say (l.graph.insertNotices name)
      { said with graph := (l.graph.insert name (parse text)).2 }
    | .error reason => l.say [.unreadableUnit (Path.join path name) reason]
  else l

def addDirectory (l : Loading) (d : Directory) : Loading :=
  d.listing.toList.foldl (addFile d.path) (l.say d.notices)

def finish (l : Loading) : Loading :=
  let said := l.say (.unitsLoaded l.graph.diskSize :: l.graph.shadowNotices)
  { said with graph := l.graph.addBuiltins }

end Loading

def buildGraph (dirs : List Directory) : Loading :=
  (dirs.foldl Loading.addDirectory {}).finish

end InitDaemon.Units
