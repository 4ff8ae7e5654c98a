import InstrumentControl.Data
import InstrumentControl.Decimal.Layout

/-! JSON texts.  `compact` writes a value on one line without blanks, `pretty` with two blanks of
indentation for each level.  Numbers that are not finite are written as `null`. -/

namespace InstrumentControl.Json

open Decimal

/-- The escape of a control character below the blank. -/
def controlEscape (c : Char) : List Char :=
  match c with
  | '\x08' => ['\\', 'b']
  | '\t' => ['\\', 't']
  | '\n' => ['\\', 'n']
  | '\x0c' => ['\\', 'f']
  | '\r' => ['\\', 'r']
  | c => ['\\', 'u', '0', '0', Nat.digitChar (c.toNat / 16), Nat.digitChar (c.toNat % 16)]

def escaped (c : Char) : List Char :=
  if c = '"' then ['\\', '"']
  else if c = '\\' then ['\\', '\\']
  else if c.toNat < 0x20 then controlEscape c
  else [c]

def string (s : String) : String := String.ofList ('"' :: s.toList.flatMap escaped ++ ['"'])

def real (x : Float) : String := if isFinite x then Layout.json.text x else "null"

mutual

def compact : Data → String
  | .null | .unreadable => "null"
  | .bool b => if b then "true" else "false"
  | .int i => intText i
  | .unsigned n => intText n
  | .real x => real x
  | .text s => string s
  | .char c => string (String.singleton c)
  | .list items => "[" ++ compactItems "" items ++ "]"
  | .table entries => "\x7b" ++ compactEntries "" entries ++ "\x7d"

/-- The items with commas between them; `lead` stands before the first. -/
def compactItems (lead : String) : List Data → String
  | [] => ""
  | d :: ds => lead ++ compact d ++ compactItems "," ds

def compactEntries (lead : String) : List (String × Data) → String
  | [] => ""
  | (key, d) :: rest =>
    lead ++ string key ++ ":" ++ compact d ++ compactEntries "," rest

end

/-- A line break and the indentation of a level. -/
def newline (level : Nat) : String := String.ofList ('\n' :: List.replicate (2 * level) ' ')

mutual

/-- The text of a value inside `level` lists and tables. -/
def prettyAt (level : Nat) : Data → String
  | .list [] => "[]"
  | .list items => "[" ++ prettyItems (level + 1) "" items ++ newline level ++ "]"
  | .table [] => "\x7b\x7d"
  | .table entries => "\x7b" ++ prettyEntries (level + 1) "" entries ++ newline level ++ "\x7d"
  | d => compact d

def prettyItems (level : Nat) (lead : String) : List Data → String
  | [] => ""
  | d :: ds => lead ++ newline level ++ prettyAt level d ++ prettyItems level "," ds

def prettyEntries (level : Nat) (lead : String) : List (String × Data) → String
  | [] => ""
  | (key, d) :: rest =>
    lead ++ newline level ++ string key ++ ": " ++ prettyAt level d ++
      prettyEntries level "," rest

end

def pretty (d : Data) : String := prettyAt 0 d

end InstrumentControl.Json
