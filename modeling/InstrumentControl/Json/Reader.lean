import InstrumentControl.Json.Number
import InstrumentControl.Text.Hex

/-! Reading JSON texts.  A text that is no JSON gives nothing.  A string with half a surrogate pair
and a table with such a key are well formed but have no value. -/

namespace InstrumentControl.Json

def isBlank (c : Char) : Bool := c = ' ' || c = '\t' || c = '\n' || c = '\r'

def skipBlanks (s : List Char) : List Char := s.dropWhile isBlank

/-- The character that a letter stands for after a backslash. -/
def shortEscape? (c : Char) : Option Nat :=
  match c with
  | '"' => some '"'.toNat
  | '\\' => some '\\'.toNat
  | '/' => some '/'.toNat
  | 'b' => some 0x08
  | 'f' => some 0x0c
  | 'n' => some 0x0a
  | 'r' => some 0x0d
  | 't' => some 0x09
  | _ => none

/-- The code units of a string up to its closing quote, and what follows it.  A character that is
written as itself is one unit. -/
def readUnits : List Char → Option (List Nat × List Char)
  | [] => none
  | '"' :: s => some ([], s)
  | '\\' :: 'u' :: a :: b :: c :: d :: s => do
    let n ← Text.hexValue? [a, b, c, d]
    let (units, rest) ← readUnits s
    return (n :: units, rest)
  | '\\' :: c :: s => do
    let n ← shortEscape? c
    let (units, rest) ← readUnits s
    return (n :: units, rest)
  | c :: s =>
    if c.toNat < 0x20 || c = '\\' then none
    else do
      let (units, rest) ← readUnits s
      return (c.toNat :: units, rest)

/-- The unit is the first half of a surrogate pair. -/
def isHigh (n : Nat) : Bool := 0xd800 ≤ n && n < 0xdc00

/-- The unit is the second half of a surrogate pair. -/
def isLow (n : Nat) : Bool := 0xdc00 ≤ n && n < 0xe000

/-- The characters of code units, with surrogate pairs joined. -/
def characters? : List Nat → Option (List Char)
  | [] => some []
  | [n] => if isHigh n || isLow n then none else some [Char.ofNat n]
  | high :: low :: units =>
    if isHigh high then
      if isLow low then
        (characters? units).map
          (Char.ofNat (0x10000 + (high - 0xd800) * 0x400 + (low - 0xdc00)) :: ·)
      else none
    else if isLow high then none
    else (characters? (low :: units)).map (Char.ofNat high :: ·)

/-- The string whose opening quote has been read. -/
def readString (s : List Char) : Option (Option String × List Char) :=
  (readUnits s).map fun p => ((characters? p.1).map String.ofList, p.2)

/-- `s` without the word that it has to begin with. -/
def readWord (word : String) (d : Data) (s : List Char) : Option (Data × List Char) :=
  let n := word.toList.length
  if s.take n = word.toList then some (d, s.drop n) else none

/-- The table of the entries, if all keys have a value. -/
def tableOf (entries : List (Option String × Data)) : Data :=
  match entries.mapM fun entry => entry.1.map fun key => (key, entry.2) with
  | some entries => .table entries
  | none => .unreadable

mutual

/-- The value that `s` begins with, and what follows it.  `fuel` bounds the number of steps. -/
def readValue (fuel : Nat) (s : List Char) : Option (Data × List Char) :=
  match fuel with
  | 0 => none
  | fuel + 1 =>
    match skipBlanks s with
    | [] => none
    | '"' :: s => (readString s).map fun p => ((p.1.map Data.text).getD .unreadable, p.2)
    | '[' :: s =>
      match skipBlanks s with
      | ']' :: s => some (.list [], s)
      | s => (readItems fuel s).map fun p => (.list p.1, p.2)
    | '\x7b' :: s =>
      match skipBlanks s with
      | '\x7d' :: s => some (.table [], s)
      | s => (readEntries fuel s).map fun p => (tableOf p.1, p.2)
    | 'n' :: s => readWord "null" .null ('n' :: s)
    | 't' :: s => readWord "true" (.bool true) ('t' :: s)
    | 'f' :: s => readWord "false" (.bool false) ('f' :: s)
    | s => readNumber s

/-- Values with commas between them up to the closing bracket. -/
def readItems (fuel : Nat) (s : List Char) : Option (List Data × List Char) :=
  match fuel with
  | 0 => none
  | fuel + 1 => do
    let (d, s) ← readValue fuel s
    match skipBlanks s with
    | ',' :: s =>
      let (ds, s) ← readItems fuel s
      return (d :: ds, s)
    | ']' :: s => return ([d], s)
    | _ => none

/-- Keys and values with commas between them up to the closing brace. -/
def readEntries (fuel : Nat) (s : List Char) :
    Option (List (Option String × Data) × List Char) :=
  match fuel with
  | 0 => none
  | fuel + 1 =>
    match skipBlanks s with
    | '"' :: s => do
      let (key, s) ← readString s
      match skipBlanks s with
      | ':' :: s =>
        let (d, s) ← readValue fuel s
        match skipBlanks s with
        | ',' :: s =>
          let (rest, s) ← readEntries fuel s
          return ((key, d) :: rest, s)
        | '\x7d' :: s => return ([(key, d)], s)
        | _ => none
      | _ => none
    | _ => none

end

/-- The value of a JSON text. -/
def read? (text : String) : Option Data := do
  let s := text.toList
  let (d, rest) ← readValue (2 * s.length + 1) s
  if (skipBlanks rest).isEmpty then return d else none

end InstrumentControl.Json
