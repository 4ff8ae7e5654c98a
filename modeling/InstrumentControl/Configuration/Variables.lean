import InstrumentControl.Decimal.Literal
import InstrumentControl.Text.Affix
import InstrumentControl.Text.Blank
import InstrumentControl.Text.Utf8
import InstrumentControl.Toml.Scalar

/-! Environment variables that override entries of a configuration.  The name of such a variable
begins with `LABINSTR_`, in any case; the rest of it, in lower case, is the key, where two
underscores or a point lead into a table.  The text is a list in brackets, a table in braces, a text
in quotes, a character in apostrophes, a truth value, a number, or else plain text.  What begins
with a truth value is nothing else. -/

namespace InstrumentControl.Configuration

/-- An environment variable: its name and its text. -/
abbrev Variable : Type := String × String

def marker : List Char := "labinstr_".toList

/-- Two underscores are a point. -/
def pointed : List Char → List Char
  | '_' :: '_' :: s => '.' :: pointed s
  | c :: s => c :: pointed s
  | [] => []

/-- The path of keys that the name of a variable stands for. -/
def path? (name : String) : Option (List String) := do
  let letters := (Text.trim name.toList).map Char.toLower
  let key ← Text.dropHead? marker letters
  let parts := Text.pieces '.' (Text.trim (pointed key))
  if parts.any List.isEmpty then none else return parts.map String.ofList

/-- The variables of a block of texts `name=text`, each of which a zero character ends. -/
def variablesOf (block : List Char) : List Variable :=
  (Text.pieces '\x00' block).filterMap fun entry =>
    match entry.dropWhile (· ≠ '=') with
    | _ :: text => some (String.ofList (entry.takeWhile (· ≠ '=')), String.ofList text)
    | [] => none

/-- The value inside tables of the given keys. -/
def nest (d : Data) : List String → Data
  | [] => d
  | key :: path => .table [(key, nest d path)]

def isSpace (c : Char) : Bool :=
  c = ' ' || c = '\t' || c = '\n' || c = '\x0c' || c = '\r'

def skipSpaces (s : List Char) : List Char := s.dropWhile isSpace

/-- The character belongs to a word without quotes. -/
def isPlain (c : Char) : Bool :=
  c ≠ ',' && c ≠ '\x7b' && c ≠ '\x7d' && c ≠ '[' && c ≠ ']'

/-- A whole number of 64 bits, with a sign only if there is a minus. -/
def wholeNumber? (word : List Char) : Option Data :=
  match (Decimal.readNat? word).filter (· < Nat.pow 2 64) with
  | some n => some (.unsigned n)
  | none => (Decimal.readInt64? word).map fun i => .int i.toInt

/-- The value of a word without quotes.  A number with a point is a real. -/
def wordValue (word : List Char) : Data :=
  let real? := if word.contains '.' then Decimal.Literal.read? word else none
  match real?, wholeNumber? word with
  | some x, _ => .real x.toFloat
  | none, some d => d
  | none, none => .text (String.ofList word)

/-- A text in quotes, after the first of them.  Of the characters before the first escape no more
are kept than fit into that number of bytes. -/
def readQuoted (s : List Char) : Option (String × List Char) := do
  let (cs, rest) ← Toml.readBasic (s.length + 1) s
  let plain := s.takeWhile fun c => c ≠ '"' && c ≠ '\\'
  let kept := if s[plain.length]? = some '\\' then Text.Utf8.take plain.length plain else plain
  return (String.ofList (kept ++ cs.drop plain.length), rest)

def readKey (s : List Char) : Option (String × List Char) :=
  match s with
  | '"' :: s => readQuoted s
  | s =>
    let key := s.takeWhile Toml.isBareKey
    if key.isEmpty then none else some (String.ofList key, s.dropWhile Toml.isBareKey)

mutual

/-- The value that `s` begins with, and what follows it and the spaces after it.  `fuel` bounds the
number of steps. -/
def readValue (fuel : Nat) (s : List Char) : Option (Data × List Char) :=
  match fuel with
  | 0 => none
  | fuel + 1 => do
    let (d, s) ← match skipSpaces s with
      | '\x7b' :: s => (readEntries fuel s).map fun p => (Data.table (Keyed.ofList p.1), p.2)
      | '[' :: s => (readItems fuel s).map fun p => (Data.list p.1, p.2)
      | '"' :: s => (readQuoted s).map fun p => (Data.text p.1, p.2)
      | '\'' :: c :: '\'' :: s => some (Data.char c, s)
      | '\'' :: _ => none
      | 't' :: 'r' :: 'u' :: 'e' :: s => some (Data.bool true, s)
      | 'f' :: 'a' :: 'l' :: 's' :: 'e' :: s => some (Data.bool false, s)
      | s => some (wordValue (Text.trim (s.takeWhile isPlain)), s.dropWhile isPlain)
    return (d, skipSpaces s)

/-- Values with commas between them, or after each of them, up to the closing bracket. -/
def readItems (fuel : Nat) (s : List Char) : Option (List Data × List Char) :=
  match fuel with
  | 0 => none
  | fuel + 1 =>
    match s with
    | ']' :: s => some ([], s)
    | s => do
      let (d, s) ← readValue fuel s
      match s with
      | ',' :: s =>
        let (ds, s) ← readItems fuel s
        return (d :: ds, s)
      | ']' :: s => return ([d], s)
      | _ => none

/-- Keys and values up to the closing brace. -/
def readEntries (fuel : Nat) (s : List Char) : Option (List (String × Data) × List Char) :=
  match fuel with
  | 0 => none
  | fuel + 1 =>
    match s with
    | '\x7d' :: s => some ([], s)
    | s => do
      let (key, s) ← readKey (skipSpaces s)
      match skipSpaces s with
      | '=' :: s =>
        let (d, s) ← readValue fuel (skipSpaces s)
        match s with
        | ',' :: s =>
          let (rest, s) ← readEntries fuel s
          return ((key, d) :: rest, s)
        | '\x7d' :: s => return ([(key, d)], s)
        | _ => none
      | _ => none

end

/-- The value of the text of a variable.  A text that has none of the forms is plain text. -/
def valueOf (text : String) : Data :=
  let s := text.toList
  match readValue (2 * s.length + 2) s with
  | some (d, []) => d
  | _ => .text text

/-- The entries that variables set, the later ones over the earlier ones. -/
def overrides (vs : List Variable) : Data :=
  vs.foldl (fun d v =>
    match path? v.1 with
    | some path => d.merge (nest (valueOf v.2) path)
    | none => d) (.table [])

end InstrumentControl.Configuration
