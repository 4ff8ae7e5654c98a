import InstrumentControl.Text.Unprintable

/-! Texts in quotes, as messages show them: a quote and a backslash are escaped, and so is every
character that leaves no mark of its own, by a short name if it has one and else by its number. -/

namespace InstrumentControl.Text

/-- The number of a character in hexadecimal. -/
def numbered (c : Char) : List Char :=
  ['\\', 'u', '\x7b'] ++ Nat.toDigits 16 c.toNat ++ ['\x7d']

/-- The escape of a character that has one. -/
def escape? (c : Char) : Option (List Char) :=
  match c with
  | '\x00' => some ['\\', '0']
  | '\t' => some ['\\', 't']
  | '\n' => some ['\\', 'n']
  | '\r' => some ['\\', 'r']
  | '\\' => some ['\\', '\\']
  | c => if isUnprintable c then some (numbered c) else none

/-- A character between the marks `mark`. -/
def quotedChar (mark c : Char) : List Char :=
  if c = mark then ['\\', c] else (escape? c).getD [c]

/-- `s` in double quotes. -/
def quoted (s : String) : String :=
  String.ofList ('"' :: s.toList.flatMap (quotedChar '"') ++ ['"'])

/-- `c` in single quotes. -/
def quotedLetter (c : Char) : String :=
  String.ofList ('\'' :: quotedChar '\'' c ++ ['\''])

/-- The texts of a list in brackets. -/
def bracketed (items : List String) : String := "[" ++ String.intercalate ", " items ++ "]"

/-- The texts of a set in braces. -/
def braced (items : List String) : String := "\x7b" ++ String.intercalate ", " items ++ "\x7d"

end InstrumentControl.Text
