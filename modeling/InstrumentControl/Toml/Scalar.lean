import InstrumentControl.Json.Reader
import InstrumentControl.Toml.Moment

/-! The scalars of TOML: keys, strings in their four spellings, numbers and truth values.  Each
reader takes the scalar at the beginning of a text and gives what follows it. -/

namespace InstrumentControl.Toml

open Decimal

def isSpace (c : Char) : Bool := c = ' ' || c = '\t'

def skipSpaces (s : List Char) : List Char := s.dropWhile isSpace

/-- What follows a line break. -/
def readNewline? : List Char → Option (List Char)
  | '\n' :: s => some s
  | '\r' :: '\n' :: s => some s
  | _ => none

/-- The character may stand in a comment or a string on one line. -/
def isPlain (c : Char) : Bool := c = '\t' || (0x20 ≤ c.toNat && c.toNat ≠ 0x7f)

/-- The character that stands for an escape, without its backslash, and what follows it. -/
def readEscape : List Char → Option (Char × List Char)
  | 'b' :: s => some ('\x08', s)
  | 't' :: s => some ('\t', s)
  | 'n' :: s => some ('\n', s)
  | 'f' :: s => some ('\x0c', s)
  | 'r' :: s => some ('\r', s)
  | '"' :: s => some ('"', s)
  | '\\' :: s => some ('\\', s)
  | 'u' :: s => readCode 4 s
  | 'U' :: s => readCode 8 s
  | _ => none
where
  readCode (count : Nat) (s : List Char) : Option (Char × List Char) := do
    let ds := s.take count
    if ds.length ≠ count then none
    let c ← Text.scalar? (← Text.hexValue? ds)
    return (c, s.drop count)

/-- A string on one line up to its closing quote, with escapes.  `fuel` bounds its length. -/
def readBasic (fuel : Nat) (s : List Char) : Option (List Char × List Char) :=
  match fuel, s with
  | _ + 1, '"' :: s => some ([], s)
  | fuel + 1, '\\' :: s => do
    let (c, s) ← readEscape s
    let (cs, s) ← readBasic fuel s
    return (c :: cs, s)
  | fuel + 1, c :: s =>
    if isPlain c then (readBasic fuel s).map fun p => (c :: p.1, p.2) else none
  | _, _ => none

/-- A string on one line up to its closing apostrophe, without escapes. -/
def readLiteral : List Char → Option (List Char × List Char)
  | [] => none
  | c :: s =>
    if c = '\'' then some ([], s)
    else if isPlain c then (readLiteral s).map fun p => (c :: p.1, p.2)
    else none

/-- The end of a string over several lines: three quotes, which two more of the string's own may
precede. -/
def readClosing (quote : Char) (s : List Char) : Option (List Char × List Char) :=
  let quotes := (s.takeWhile (· = quote)).length
  if 3 ≤ quotes then
    let own := min (quotes - 3) 2
    some (List.replicate own quote, s.drop (own + 3))
  else none

/-- Blanks and line breaks. -/
def skipLines : List Char → List Char
  | '\r' :: '\n' :: s => skipLines s
  | c :: s => if isSpace c || c = '\n' then skipLines s else c :: s
  | [] => []

/-- A string over several lines, with escapes.  A backslash at the end of a line joins it to the
next text. -/
def readLongBasic (fuel : Nat) (s : List Char) : Option (List Char × List Char) :=
  match fuel with
  | 0 => none
  | fuel + 1 =>
    match readClosing '"' s with
    | some closing => some closing
    | none =>
      match s with
      | '\\' :: t =>
        match readNewline? (skipSpaces t) with
        | some t => readLongBasic fuel (skipLines t)
        | none => do
          let (c, t) ← readEscape t
          let (cs, t) ← readLongBasic fuel t
          return (c :: cs, t)
      | c :: t =>
        match readNewline? (c :: t) with
        | some t => (readLongBasic fuel t).map fun p => ('\n' :: p.1, p.2)
        | none =>
          if isPlain c then (readLongBasic fuel t).map fun p => (c :: p.1, p.2) else none
      | [] => none

/-- A string over several lines, without escapes. -/
def readLongLiteral (fuel : Nat) (s : List Char) : Option (List Char × List Char) :=
  match fuel with
  | 0 => none
  | fuel + 1 =>
    match readClosing '\'' s with
    | some closing => some closing
    | none =>
      match s with
      | c :: t =>
        match readNewline? (c :: t) with
        | some t => (readLongLiteral fuel t).map fun p => ('\n' :: p.1, p.2)
        | none =>
          if isPlain c then (readLongLiteral fuel t).map fun p => (c :: p.1, p.2) else none
      | [] => none

/-- What follows the line break that a string over several lines may begin with. -/
def skipFirstNewline (s : List Char) : List Char := (readNewline? s).getD s

/-- A string in any of its spellings. -/
def readString : List Char → Option (List Char × List Char)
  | '"' :: '"' :: '"' :: s => readLongBasic (s.length + 1) (skipFirstNewline s)
  | '"' :: s => readBasic (s.length + 1) s
  | '\'' :: '\'' :: '\'' :: s => readLongLiteral (s.length + 1) (skipFirstNewline s)
  | '\'' :: s => readLiteral s
  | _ => none

def isBareKey (c : Char) : Bool := c.isAlphanum || c = '_' || c = '-'

/-- One part of a key. -/
def readSimpleKey : List Char → Option (String × List Char)
  | '"' :: s => (readBasic (s.length + 1) s).map fun p => (String.ofList p.1, p.2)
  | '\'' :: s => (readLiteral s).map fun p => (String.ofList p.1, p.2)
  | s =>
    let key := s.takeWhile isBareKey
    if key.isEmpty then none else some (String.ofList key, s.dropWhile isBareKey)

/-- A key: parts with dots between them, and blanks around the parts. -/
def readKey (fuel : Nat) (s : List Char) : Option (List String × List Char) :=
  match fuel with
  | 0 => none
  | fuel + 1 => do
    let (part, s) ← readSimpleKey (skipSpaces s)
    match skipSpaces s with
    | '.' :: s =>
      let (parts, s) ← readKey fuel s
      return (part :: parts, s)
    | s => return ([part], s)

/-- The number of lists, tables and parts of keys that may be nested. -/
def nesting : Nat := 79

/-- Digits of a base with single underscores between them, without the underscores. -/
def readDigits (isDigit : Char → Bool) : List Char → List Char × List Char
  | '_' :: c :: s =>
    if isDigit c then
      let (ds, rest) := readDigits isDigit s
      (c :: ds, rest)
    else ([], '_' :: c :: s)
  | c :: s =>
    if isDigit c then
      let (ds, rest) := readDigits isDigit s
      (c :: ds, rest)
    else ([], c :: s)
  | [] => ([], [])

/-- Digits that do not begin with an underscore, and at least one. -/
def readDigits? (isDigit : Char → Bool) (s : List Char) : Option (List Char × List Char) :=
  match s with
  | [] => none
  | c :: _ => if isDigit c then some (readDigits isDigit s) else none

def int64? (i : Int) : Option Data := (Decimal.int64? i).map fun _ => .int i

/-- An integer in the base of `bits` bits per digit, after its prefix. -/
def readBased (base : Nat) (isDigit : Char → Bool) (s : List Char) :
    Option (Data × List Char) := do
  let (ds, s) ← readDigits? isDigit s
  let n := ds.foldl (fun n c => base * n + (Text.hexDigit? c).getD 0) 0
  return (← int64? n, s)

/-- The exponent of a real, after its letter. -/
def readExponent? (s : List Char) : Option (Int × List Char) := do
  let (negative, s) := takeSign s
  let (ds, s) ← readDigits? Char.isDigit s
  let n : Int := digitsValue 0 ds
  return (if negative then -n else n, s)

/-- The real of its digits, unless it exceeds the doubles. -/
def real? (negative : Bool) (digits : List Char) (exponent : Int) : Option Data :=
  let x := ofDecimal negative (digitsValue 0 digits) exponent
  if x == infinity false then none else some (.real x)

/-- A decimal number: an integer, or a real if it has a fraction or an exponent. -/
def readDecimal (negative : Bool) (s : List Char) : Option (Data × List Char) := do
  let (whole, s) ← readDigits? Char.isDigit s
  if whole.head? = some '0' && whole.length ≠ 1 then none
  match s with
  | '.' :: t =>
    let (fraction, t) ← readDigits? Char.isDigit t
    let digits := whole ++ fraction
    match t with
    | c :: u =>
      if c = 'e' || c = 'E' then
        let (e, u) ← readExponent? u
        return (← real? negative digits (e - fraction.length), u)
      else return (← real? negative digits (-fraction.length), t)
    | [] => return (← real? negative digits (-fraction.length), [])
  | c :: t =>
    if c = 'e' || c = 'E' then
      let (e, t) ← readExponent? t
      return (← real? negative whole e, t)
    else integer whole (c :: t)
  | [] => integer whole []
where
  integer (whole s : List Char) : Option (Data × List Char) := do
    let n : Int := digitsValue 0 whole
    return (← int64? (if negative then -n else n), s)

/-- A number after its sign, in any of its spellings. -/
def readNumber : List Char → Option (Data × List Char)
  | '0' :: 'x' :: s => readBased 16 (fun c => (Text.hexDigit? c).isSome) s
  | '0' :: 'o' :: s => readBased 8 (fun c => '0' ≤ c ∧ c ≤ '7') s
  | '0' :: 'b' :: s => readBased 2 (fun c => c = '0' || c = '1') s
  | s =>
    match Moment.readPart s with
    | some (m, rest) => some (.table [(momentKey, .text m.text)], rest)
    | none =>
      let (negative, t) := takeSign s
      match t with
      | 'i' :: 'n' :: 'f' :: t => some (.real (infinity negative), t)
      | 'n' :: 'a' :: 'n' :: t => some (.real nan, t)
      | t => readDecimal negative t

end InstrumentControl.Toml
