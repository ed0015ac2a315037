import InitDaemon.Log.Level
import InitDaemon.Text.ControlSequence

/-!
# Lines of the console log
-/

namespace InitDaemon

namespace Log

def padStart (width : Nat) (pad : Char) (s : String) : String :=
  String.ofList (List.replicate (width - s.length) pad) ++ s

def padEnd (width : Nat) (pad : Char) (s : String) : String :=
  s ++ String.ofList (List.replicate (width - s.length) pad)

/-- Seconds and milliseconds since the start. -/
def stamp (ms : Nat) : String :=
  "[" ++ toString (ms / 1000) ++ "." ++ padStart 3 '0' (toString (ms % 1000)) ++ "]"

def line (at_ : Nat) (level : Level) (text : String) : String :=
  stamp at_ ++ " " ++ padEnd 5 ' ' level.name ++ " " ++ text ++ "\n"

/-- A line as a console shows it. A text that leaves a sequence open may swallow the line's end. -/
def shown (at_ : Nat) (level : Level) (text : String) : String :=
  Text.withoutControls (line at_ level text)

end Log

end InitDaemon
