import InitDaemon.Simulation.Session

/-!
# The command

Reads the names of unit files from standard input, one a line, and looks for them in the unit
directories. A boot is rehearsed on an empty machine in memory for a minute of its time.
-/

open InitDaemon InitDaemon.Simulation

/-- The named files of a directory that can be read. -/
def readDirectory (path : String) (names : List String) : IO Units.Directory := do
  let entries ← names.filterMapM fun name => do
    let file : String := Path.join path name
    try
      let content ← IO.FS.readFile file
      return some (some name, .ok content)
    catch _ => return none
  return ⟨path, .ok entries⟩

partial def readNames (input : IO.FS.Stream) : IO (List String) := do
  let line ← input.getLine
  if line.isEmpty then return []
  let name := String.ofList (Text.trim line.toList)
  let rest ← readNames input
  return if name.isEmpty then rest else name :: rest

def main (arguments : List String) : IO Unit := do
  let names ← readNames (← IO.getStdin)
  let config : Config := {}
  let directories ← config.unitDirs.mapM fun dir => readDirectory dir names
  let filter ← IO.getEnv "RUST_LOG"
  let result := Session.perform
    { arguments, filter, directories, machine := { isFirstProcess := true, limit := 60000 } }
  IO.print (String.join (result.lines.map (·.2)))
