/-!
# Blank characters, lines and words

Text is cut as a list of characters. Blank is the `White_Space` property, and a line ends at a
line feed only.
-/

namespace InitDaemon.Text

def isBlank (c : Char) : Bool :=
  let n := c.toNat
  (0x09 ≤ n && n ≤ 0x0D) || n == 0x20 || n == 0x85 || n == 0xA0 || n == 0x1680 ||
    (0x2000 ≤ n && n ≤ 0x200A) || n == 0x2028 || n == 0x2029 || n == 0x202F || n == 0x205F ||
    n == 0x3000

/-- The pieces between the characters that satisfy `p`: one more than there are such characters. -/
def splitWhere (p : Char → Bool) (cs : List Char) : List (List Char) :=
  cs.foldr (fun c pieces => if p c then [] :: pieces else pieces.modifyHead (c :: ·)) [[]]

theorem splitWhere_nil (p : Char → Bool) : splitWhere p [] = [[]] := rfl

theorem splitWhere_cons (p : Char → Bool) (c : Char) (cs : List Char) :
    splitWhere p (c :: cs) =
      if p c then [] :: splitWhere p cs else (splitWhere p cs).modifyHead (c :: ·) := rfl

theorem splitWhere_ne_nil (p : Char → Bool) (cs : List Char) : splitWhere p cs ≠ [] := by
  induction cs with
  | nil => simp [splitWhere_nil]
  | cons c cs ih => by_cases h : p c <;> simp [splitWhere_cons, h, ih]

def splitAt (sep : Char) (cs : List Char) : List (List Char) :=
  splitWhere (· == sep) cs

/-- The parts before and after the first `sep`, if there is one. -/
def cutAt (sep : Char) : List Char → Option (List Char × List Char)
  | [] => none
  | c :: cs =>
    if c == sep then some ([], cs) else (cutAt sep cs).map fun (a, b) => (c :: a, b)

def trimStart (cs : List Char) : List Char :=
  cs.dropWhile isBlank

def trimEnd (cs : List Char) : List Char :=
  (cs.reverse.dropWhile isBlank).reverse

def trim (cs : List Char) : List Char :=
  trimEnd (trimStart cs)

def words (cs : List Char) : List (List Char) :=
  (splitWhere isBlank cs).filter fun w => !w.isEmpty

def dropReturn (cs : List Char) : List Char :=
  if cs.getLast? = some '\r' then cs.dropLast else cs

/-- The lines of a text. A carriage return before the line feed belongs to the line's end, and the
last line needs no line feed. -/
def lines (cs : List Char) : List (List Char) :=
  let pieces := splitAt '\n' cs
  let last := pieces.getLast?.getD []
  pieces.dropLast.map dropReturn ++ if last.isEmpty then [] else [last]

def wordsOf (s : String) : List String :=
  (words s.toList).map String.ofList

end InitDaemon.Text
