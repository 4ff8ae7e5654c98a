import InstrumentControl.Decimal.Literal
import InstrumentControl.Text.Quoted

/-! Fields of a template: the text between a pair of braces, a key and after a colon an optional
specification `[[fill]align][sign][#][0][width][,][.precision][type]`.  A specification is read in
full before the key is looked up; `Field.place` then lays a token out by it. -/

namespace InstrumentControl.Template

/-- Why a template cannot be filled. -/
inductive Fault where
  | extraBrace
  | singleBrace
  | unclosed
  | noKey
  | widthOverflow
  | precisionOverflow
  | missingPrecision
  | badSpecification
  | badType (letter : Char)
  | badComma (letter : Char)
  | unknownKey (key : String)
  | notForText (letter : Char)
  | alternateForm
  | thousands
  | signed
  | signAware
deriving DecidableEq

def Fault.message : Fault → String
  | extraBrace => "Invalid(extra \x7b found)"
  | singleBrace => "Invalid(Single '\x7d' encountered in format string)"
  | unclosed => "Invalid(Expected '\x7d' before end of string)"
  | noKey => "Invalid(must specify identifier)"
  | widthOverflow => "Invalid(overflow error when parsing width)"
  | precisionOverflow => "Invalid(overflow error when parsing precision)"
  | missingPrecision => "Invalid(Format specifier missing precision)"
  | badSpecification => "Invalid(Invalid format specifier)"
  | badType letter => "TypeError(Invalid type specifier: " ++ Text.quotedLetter letter ++ ")"
  | badComma letter => "Invalid(Invalid comma type: " ++ String.singleton letter ++ ")"
  | unknownKey key => "KeyError(Invalid key: " ++ key ++ ")"
  | notForText letter =>
    "TypeError(Unknown format code Some(" ++ Text.quotedLetter letter ++
      ") for object of type 'str')"
  | alternateForm => "TypeError(Alternate form (#) not allowed in string format specifier)"
  | thousands => "TypeError(Cannot specify ',' with 's')"
  | signed => "TypeError(Sign not allowed in string format specifier)"
  | signAware => "Invalid(sign aware zero padding and Align '=' not yet supported)"

inductive Align where
  | left
  | right
  | center
  | signAware
deriving DecidableEq

def Align.ofChar? : Char → Option Align
  | '<' => some .left
  | '>' => some .right
  | '^' => some .center
  | '=' => some .signAware
  | _ => none

structure Field where
  key : String
  fill : Char := ' '
  align : Align := .left
  sign : Bool := false
  alternate : Bool := false
  width : Option Nat := none
  thousands : Bool := false
  precision : Option Nat := none
  type : Option Char := none
deriving DecidableEq

namespace Field

/-- A fill character and an alignment, or an alignment alone.  The answer tells whether a fill
character was given. -/
def readAlign (f : Field) : List Char → Field × Bool × List Char
  | [] => (f, false, [])
  | [c] =>
    match Align.ofChar? c with
    | some a => ({ f with align := a }, false, [])
    | none => (f, false, [c])
  | c :: d :: s =>
    match Align.ofChar? d, Align.ofChar? c with
    | some a, _ => ({ f with fill := c, align := a }, true, s)
    | none, some a => ({ f with align := a }, false, d :: s)
    | none, none => (f, false, c :: d :: s)

def readSign (f : Field) : List Char → Field × List Char
  | c :: s => if c = ' ' || c = '-' || c = '+' then ({ f with sign := true }, s) else (f, c :: s)
  | [] => (f, [])

def readAlternate (f : Field) : List Char → Field × List Char
  | '#' :: s => ({ f with alternate := true }, s)
  | s => (f, s)

/-- A zero before the width, unless a fill character was given. -/
def readZero (f : Field) (filled : Bool) : List Char → Field × List Char
  | '0' :: s => if filled then (f, '0' :: s) else ({ f with fill := '0', align := .signAware }, s)
  | s => (f, s)

/-- A run of digits, if it is not empty, as a number below `2^63`. -/
def readCount (overflow : Fault) (s : List Char) : Except Fault (Option Nat × List Char) :=
  let (ds, rest) := Decimal.takeDigits s
  if ds.isEmpty then .ok (none, rest)
  else
    let n := Decimal.digitsValue 0 ds
    if n < Nat.pow 2 63 then .ok (some n, rest) else .error overflow

def readThousands (f : Field) : List Char → Field × List Char
  | ',' :: s => ({ f with thousands := true }, s)
  | s => (f, s)

def readPrecision (f : Field) : List Char → Except Fault (Field × List Char)
  | '.' :: s => do
    match ← readCount .precisionOverflow s with
    | (some n, rest) => return ({ f with precision := some n }, rest)
    | (none, _) => throw .missingPrecision
  | s => return (f, s)

def typeLetters : List Char := ['b', 'o', 'x', 'X', 'e', 'E', 'f', 'F', '%', 's', '?']

def commaLetters : List Char := ['e', 'f', 'E', '%', 'F']

def readType (f : Field) : List Char → Except Fault Field
  | [] => .ok f
  | [c] =>
    if 128 ≤ c.toNat then .error .badSpecification
    else if !typeLetters.contains c then .error (.badType c)
    else if f.thousands && !commaLetters.contains c then .error (.badComma c)
    else .ok { f with type := some c }
  | _ => .error .badSpecification

/-- The field of a key with the specification `s`. -/
def readSpecification (f : Field) (s : List Char) : Except Fault Field := do
  let (f, filled, s) := f.readAlign s
  let (f, s) := f.readSign s
  let (f, s) := f.readAlternate s
  let (f, s) := f.readZero filled s
  let (width, s) ← readCount .widthOverflow s
  let (f, s) := { f with width }.readThousands s
  let (f, s) ← f.readPrecision s
  f.readType s

/-- The field that stands between a pair of braces.  The key ends at the first colon. -/
def read (body : List Char) : Except Fault Field :=
  let key := body.takeWhile (· ≠ ':')
  if key.isEmpty then .error .noKey
  else readSpecification { key := String.ofList key } ((body.dropWhile (· ≠ ':')).drop 1)

/-- Fails unless the specification is one for texts. -/
def admitsText (f : Field) : Except Fault Unit :=
  match f.type with
  | some c => if c = 's' then rest else .error (.notForText c)
  | none => rest
where
  rest : Except Fault Unit :=
    if f.alternate then .error .alternateForm
    else if f.thousands then .error .thousands
    else if f.sign then .error .signed
    else .ok ()

/-- `token`, cut to the precision and padded to the width. -/
def place (f : Field) (token : List Char) : Except Fault (List Char) := do
  f.admitsText
  let cut := match f.precision with
    | some n => token.take n
    | none => token
  let missing := f.width.getD 0 - cut.length
  if missing = 0 then return cut
  match f.align with
  | .left => return cut ++ List.replicate missing f.fill
  | .right => return List.replicate missing f.fill ++ cut
  | .center =>
    return List.replicate (missing / 2) f.fill ++ cut ++
      List.replicate (missing - missing / 2) f.fill
  | .signAware => throw .signAware

end Field

end InstrumentControl.Template
