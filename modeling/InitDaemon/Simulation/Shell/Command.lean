/-!
# Words and commands

A word is a sequence of parts: text, parameters, the output of commands and the values of
expressions. Commands are words with what is to be done about them: lists, pipelines, conditions,
loops and functions.

The modules of the shell let `Simulation.Processes` run scripts as the machine of a test does. The
init itself runs no script, and no theorem is about them.
-/

namespace InitDaemon.Simulation.Shell

/-- What is done with the value of a parameter. A colon makes an empty value count as none. -/
inductive ParameterUse
  | value
  | length
  | default (colon : Bool)
  | assign (colon : Bool)
  | demand (colon : Bool)
  | alternative (colon : Bool)
  | withoutStart (longest : Bool)
  | withoutEnd (longest : Bool)
  | unknown
deriving DecidableEq, Repr, Inhabited

/-- Whether the word beside the parameter is a pattern, which is read as if it stood alone. -/
def ParameterUse.cuts : ParameterUse → Bool
  | withoutStart _ | withoutEnd _ => true
  | _ => false

/-- A part of a word. What is quoted is never cut into several words. -/
inductive Part
  | text (s : List Char) (quoted : Bool)
  | parameter (name : List Char) (use : ParameterUse) (word : List Part) (quoted : Bool)
  | output (script : List Char) (quoted : Bool)
  | arithmetic (expression : List Part) (quoted : Bool)
deriving Repr, Inhabited

abbrev Word := List Part

inductive RedirectKind
  | input
  | output
  | append
  | duplicate
  | here
deriving DecidableEq, Repr, Inhabited

structure Redirect where
  stream : Nat
  kind : RedirectKind
  target : Word
deriving Repr, Inhabited

structure Assignment where
  name : String
  value : Word
deriving Repr, Inhabited

inductive Command
  | simple (assignments : List Assignment) (words : List Word) (redirects : List Redirect)
  | pipeline (commands : List Command)
  | negated (c : Command)
  | andThen (a b : Command)
  | orElse (a b : Command)
  | sequence (a b : Command)
  | background (c : Command)
  | subshell (c : Command)
  | condition (test yes : Command) (no : Option Command)
  /-- Runs while its test succeeds or, if `negated`, until it does. -/
  | repetition (negated : Bool) (test body : Command)
  /-- Without a list of words the arguments are taken. -/
  | iteration (name : String) (words : Option (List Word)) (body : Command)
  | choice (word : Word) (branches : List (List Word × Option Command))
  | definition (name : String) (body : Command)
  | redirected (c : Command) (redirects : List Redirect)
deriving Repr, Inhabited

/-! ## Nested scripts -/

mutual

def nestedScripts : List Part → List (List Char)
  | [] => []
  | p :: ps => nestedInPart p ++ nestedScripts ps

def nestedInPart : Part → List (List Char)
  | .text .. => []
  | .output script _ => [script]
  | .parameter _ _ word _ => nestedScripts word
  | .arithmetic expression _ => nestedScripts expression

end

namespace Command

mutual

def words : Command → List Word
  | simple assignments ws redirects =>
    assignments.map (·.value) ++ ws ++ redirects.map (·.target)
  | pipeline cs => wordsOfAll cs
  | negated c | background c | subshell c | definition _ c => c.words
  | andThen a b | orElse a b | sequence a b | repetition _ a b => a.words ++ b.words
  | condition test yes no => test.words ++ yes.words ++ wordsOfSome no
  | iteration _ ws body => ws.getD [] ++ body.words
  | choice w branches => w :: wordsOfBranches branches
  | redirected c redirects => c.words ++ redirects.map (·.target)

def wordsOfAll : List Command → List Word
  | [] => []
  | c :: cs => c.words ++ wordsOfAll cs

def wordsOfSome : Option Command → List Word
  | some c => c.words
  | none => []

def wordsOfBranches : List (List Word × Option Command) → List Word
  | [] => []
  | (ps, body) :: rest => ps ++ wordsOfSome body ++ wordsOfBranches rest

end

end Command

end InitDaemon.Simulation.Shell
