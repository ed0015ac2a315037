import InitDaemon.Text.Printable

/-!
# Quoted strings

A string between double quotes in which quotes, backslashes and whatever would not show are
escaped.
-/

namespace InitDaemon.Text

def numberEscape (c : Char) : String :=
  "\\u\x7b" ++ String.ofList (Nat.toDigits 16 c.toNat) ++ "\x7d"

def escape (c : Char) : String :=
  match c with
  | '"' => "\\\""
  | '\\' => "\\\\"
  | '\t' => "\\t"
  | '\n' => "\\n"
  | '\r' => "\\r"
  | '\x00' => "\\0"
  | c => if isPrintable c then String.singleton c else numberEscape c

def quoted (s : String) : String :=
  "\"" ++ String.join (s.toList.map escape) ++ "\""

def quotedList (strings : List String) : String :=
  "[" ++ ", ".intercalate (strings.map quoted) ++ "]"

end InitDaemon.Text
