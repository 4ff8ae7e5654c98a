import InstrumentControl.Decimal.Binary64
import InstrumentControl.Text.Case

/-! Numbers written in decimal.  A real literal is an optional sign followed by `inf`, `infinity` or
`nan` in any case, or by digits with an optional point and an optional exponent, with a digit on at
least one side of the point.  An integer literal is an optional sign and digits.  Nothing else is
allowed, not even blanks. -/

namespace InstrumentControl.Decimal

/-- The number that a run of digits denotes, `acc` being what stands before it. -/
def digitsValue (acc : Nat) (ds : List Char) : Nat :=
  ds.foldl (fun n c => 10 * n + (c.toNat - '0'.toNat)) acc

/-- An optional sign and what follows it. -/
def takeSign : List Char → Bool × List Char
  | '-' :: s => (true, s)
  | '+' :: s => (false, s)
  | s => (false, s)

/-- The digits that `s` begins with and what follows them. -/
def takeDigits (s : List Char) : List Char × List Char :=
  (s.takeWhile Char.isDigit, s.dropWhile Char.isDigit)

/-- A real literal, read but not yet rounded: a finite one denotes
`(-1)^negative * coefficient * 10^exponent`. -/
inductive Literal where
  | nan
  | infinite (negative : Bool)
  | finite (negative : Bool) (coefficient : Nat) (exponent : Int)
deriving DecidableEq

/-- The exponent part: nothing, or `e`, an optional sign and at least one digit. -/
def readExponent : List Char → Option Int
  | [] => some 0
  | c :: s =>
    if c = 'e' || c = 'E' then
      let (negative, s) := takeSign s
      let (ds, rest) := takeDigits s
      if ds.isEmpty || !rest.isEmpty then none
      else
        let n : Int := digitsValue 0 ds
        some (if negative then -n else n)
    else none

/-- Digits with an optional point and an optional exponent. -/
def readDecimal (negative : Bool) (s : List Char) : Option Literal :=
  let (whole, s) := takeDigits s
  let (fraction, s) := match s with
    | '.' :: s => takeDigits s
    | s => ([], s)
  if whole.isEmpty && fraction.isEmpty then none
  else (readExponent s).map fun e =>
    .finite negative (digitsValue 0 (whole ++ fraction)) (e - fraction.length)

def Literal.read? (s : List Char) : Option Literal :=
  let (negative, rest) := takeSign s
  let word := rest.map Char.toLower
  if word = ['n', 'a', 'n'] then some .nan
  else if word = "inf".toList || word = "infinity".toList then some (.infinite negative)
  else readDecimal negative rest

/-- The number of digits of `n`; zero has none. -/
def digitCount (n : Nat) : Nat := if n = 0 then 0 else (Nat.toDigits 10 n).length

/-- The double nearest to `(-1)^negative * coefficient * 10^exponent`.  Beyond `10^400` on either
side the answer is infinity or zero, whatever the digits. -/
def ofDecimal (negative : Bool) (coefficient : Nat) (exponent : Int) : Float :=
  let point := (digitCount coefficient : Int) + exponent
  if coefficient = 0 || point < -400 then ofBits negative 0
  else if 400 < point then infinity negative
  else if 0 ≤ exponent then ofQuotient negative (coefficient * Nat.pow 10 exponent.toNat) 1
  else ofQuotient negative coefficient (Nat.pow 10 (-exponent).toNat)

/-- The double nearest to what the literal denotes. -/
def Literal.toFloat : Literal → Float
  | .nan => Decimal.nan
  | .infinite negative => infinity negative
  | .finite negative coefficient exponent => ofDecimal negative coefficient exponent

/-- Why a text is no real literal. -/
inductive RealError where
  | empty
  | malformed
deriving DecidableEq

def RealError.message : RealError → String
  | .empty => "cannot parse float from empty string"
  | .malformed => "invalid float literal"

def readFloat (s : List Char) : Except RealError Float :=
  match Literal.read? s with
  | some literal => .ok literal.toFloat
  | none => .error (if s.isEmpty then .empty else .malformed)

/-- The natural number that `s` writes, with an optional plus sign. -/
def readNat? (s : List Char) : Option Nat :=
  let ds := match s with
    | '+' :: ds => ds
    | ds => ds
  if ds.isEmpty || !ds.all Char.isDigit then none else some (digitsValue 0 ds)

/-- The integer that `s` writes, with an optional sign. -/
def readInt? (s : List Char) : Option Int :=
  let (negative, ds) := takeSign s
  if ds.isEmpty || !ds.all Char.isDigit then none
  else some (if negative then -(digitsValue 0 ds : Int) else digitsValue 0 ds)

/-- The integer that `s` writes, if it is a 64-bit integer. -/
def readInt64? (s : List Char) : Option Int64 := (readInt? s).bind int64?

end InstrumentControl.Decimal
