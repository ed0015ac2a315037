/-!
# Command line

The kernel may start the init with any arguments, so whatever is not understood boots. Arguments
are read from left to right up to the kernel's own ones, which are kept as they are.

How an argument is read is not a matter of any theorem. What holds of a boot holds whatever the
arguments are.
-/

namespace InitDaemon

inductive Invocation
  | help
  | version
  | run (mode : Option String) (kernelArguments : List String)
deriving DecidableEq, Repr, Inhabited

namespace CommandLine

def helpText : String :=
  "Minimal init daemon\n\nUsage: sysinit [MODE]\n\nArguments:\n" ++
    "  [MODE]  `gen-graph` prints the unit graph as DOT; anything else boots\n\nOptions:\n" ++
    "  -h, --help     Print help\n  -V, --version  Print version\n"

def versionText : String := "sysinit 0.1.0\n"

def graphMode : String := "gen-graph"

inductive Reading
  | word
  /-- Two dashes, after which no argument is an option. -/
  | separator
  | asks (answer : Invocation)
  /-- A known option with a value that it does not take. -/
  | excess
  | unknown
deriving DecidableEq, Repr, Inhabited

def letterAnswer? : Char → Option Invocation
  | 'h' => some .help
  | 'V' => some .version
  | _ => none

def longReading (name : String) : Reading :=
  if name == "help" then .asks .help
  else if name == "version" then .asks .version
  else if name.startsWith "help=" || name.startsWith "version=" then .excess
  else .unknown

/-- Reads an argument. Of a group of letters only the first counts. -/
def read (argument : String) : Reading :=
  match argument.toList with
  | ['-'] => .word
  | ['-', '-'] => .separator
  | '-' :: '-' :: name => longReading (String.ofList name)
  | '-' :: letter :: _ => (letterAnswer? letter).elim .unknown .asks
  | _ => .word

/-- After the mode a group of letters is an option only if all of them are. -/
def isGroup (argument : String) : Bool :=
  match argument.toList with
  | '-' :: '-' :: _ => true
  | '-' :: letters => letters.all fun c => (letterAnswer? c).isSome
  | _ => true

def boot : Invocation := .run none []

/-- Reads what follows the mode: the first argument that is no option begins the kernel's own. -/
def afterMode (mode : String) : List String → Invocation
  | [] => .run (some mode) []
  | argument :: rest =>
    match read argument with
    | .separator => .run (some mode) rest
    | .asks answer => if isGroup argument then answer else .run (some mode) (argument :: rest)
    | .excess => boot
    | .word | .unknown => .run (some mode) (argument :: rest)

def parse : List String → Invocation
  | [] => boot
  | argument :: rest =>
    match read argument with
    | .word => afterMode argument rest
    | .separator =>
      match rest with
      | [] => boot
      | mode :: rest => .run (some mode) rest
    | .asks answer => answer
    | .excess | .unknown => boot

end CommandLine

end InitDaemon
