import InitDaemon.CommandLine
import InitDaemon.Init.Poll
import InitDaemon.Log.Filter
import InitDaemon.Log.Line
import InitDaemon.Units.Directory
import InitDaemon.Units.Dot

/-!
# The program

From the command line and the unit directories to the first state of a booting init, and from its
journal to the text on the console.
-/

namespace InitDaemon

open InitDaemon.Units

namespace Program

inductive Action (σ : Type)
  | answer (text : String)
  | printGraph (text : String)
  /-- The init, and its task that collects processes. -/
  | boot (init : Init σ) (root : TaskId)

/-- What is said before the unit files are read. -/
def greeting (isFirstProcess : Bool) (kernelArguments : List String) : List Notice :=
  (if isFirstProcess then [] else [.notFirstProcess]) ++
    if kernelArguments.isEmpty then [] else [.kernelArguments kernelArguments]

/-- A booting init that listens to signals and collects processes. -/
def start {σ : Type} (config : Config) (l : Loading) (world : World σ) : Init σ × TaskId :=
  let s := ((Init.new config l.graph world).boot).watchSignals
  (s.addTask (.reap (some false) .fresh), s.nextTask)

def printsGraph (mode : Option String) : Bool :=
  mode == some CommandLine.graphMode

/-- What a call of the program leads to on a machine. -/
def action {σ : Type} (arguments : List String) (dirs : List Directory) (isFirstProcess : Bool)
    (machine : σ) : Action σ :=
  match CommandLine.parse arguments with
  | .help => .answer CommandLine.helpText
  | .version => .answer CommandLine.versionText
  | .run mode kernelArguments =>
    let l := buildGraph dirs
    if printsGraph mode then .printGraph l.graph.toDot
    else
      let world : World σ :=
        (greeting isFirstProcess kernelArguments ++ l.notices).foldl World.say { machine }
      let (s, root) := start {} l world
      .boot s root

/-- The lines that a journal leaves on the console, with their times, oldest first. -/
def console (filter : Filter) (journal : List Record) : List (Nat × String) :=
  journal.reverse.filterMap fun r =>
    match r.entry with
    | .notice n =>
      if filter.shows n.level n.topic n.text then
        some (r.time, Log.shown r.time n.level n.text)
      else none
    | _ => none

end Program

end InitDaemon
