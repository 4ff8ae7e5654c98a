import InstrumentControl.Data
import InstrumentControl.Decimal.Literal

/-! JSON numbers.  A number without a fraction and an exponent is an integer if it fits 64 bits.
Any other number is a real: its first digits, as many as fit 64 bits, are taken as an integer, which
is scaled by a power of ten, each step rounded to a double.  A real beyond the doubles has no
value. -/

namespace InstrumentControl.Json

open Decimal

/-- The digits that can be appended to `n` below `2^64`, as a number, and how many were left out. -/
def absorb (n : Nat) : List Char → Nat × Nat
  | [] => (n, 0)
  | c :: ds =>
    let m := 10 * n + (c.toNat - '0'.toNat)
    if m < Nat.pow 2 64 then absorb m ds else (n, ds.length + 1)

/-- The double nearest to `10^k`. -/
def powerOfTen (k : Nat) : Float := ofQuotient false (Nat.pow 10 k) 1

/-- `significand * 10^exponent`, unless it exceeds the doubles. -/
def scale (significand : Nat) (exponent : Int) : Option Float :=
  let f := ofInt significand
  if significand = 0 then some f
  else if 308 < exponent then none
  else if 0 ≤ exponent then
    let x := f * powerOfTen exponent.toNat
    if isFinite x then some x else none
  else if -308 ≤ exponent then some (f / powerOfTen (-exponent).toNat)
  else if -616 ≤ exponent then
    some (f / powerOfTen 308 / powerOfTen (-exponent - 308).toNat)
  else some (ofBits false 0)

def real? (negative : Bool) (significand : Nat) (exponent : Int) : Data :=
  match scale significand exponent with
  | some x => .real (if negative then -x else x)
  | none => .unreadable

/-- The number of the given digits before and after the point.  The integer zero with a minus sign
is a real. -/
def number (negative : Bool) (whole : List Char) (fraction : Option (List Char))
    (exponent : Option Int) : Data :=
  let (n, skipped) := absorb 0 whole
  match fraction, exponent with
  | none, none =>
    if skipped ≠ 0 then real? negative n skipped
    else if !negative then .int n
    else if 0 < n ∧ n ≤ Nat.pow 2 63 then .int (-n)
    else real? true n 0
  | _, _ =>
    let digits := fraction.getD []
    let (n, left) := absorb n digits
    let taken := digits.length - left
    real? negative n (exponent.getD 0 + skipped - taken)

def takeMinus : List Char → Bool × List Char
  | '-' :: s => (true, s)
  | s => (false, s)

/-- The digits after a point, if `s` begins with one, and what follows them. -/
def takeFraction : List Char → Option (Option (List Char) × List Char)
  | '.' :: s =>
    let (ds, s) := takeDigits s
    if ds.isEmpty then none else some (some ds, s)
  | s => some (none, s)

/-- The exponent, if `s` begins with one, and what follows it. -/
def takeExponent : List Char → Option (Option Int × List Char)
  | [] => some (none, [])
  | c :: s =>
    if c = 'e' || c = 'E' then
      let (minus, s) := takeSign s
      let (ds, s) := takeDigits s
      if ds.isEmpty then none
      else
        let e : Int := digitsValue 0 ds
        some (some (if minus then -e else e), s)
    else some (none, c :: s)

/-- The number that `s` begins with, and what follows it. -/
def readNumber (s : List Char) : Option (Data × List Char) :=
  let (negative, s) := takeMinus s
  let (whole, s) := takeDigits s
  if whole.isEmpty || (whole.length ≠ 1 && whole.head? = some '0') then none
  else do
    let (fraction, s) ← takeFraction s
    let (exponent, s) ← takeExponent s
    return (number negative whole fraction exponent, s)

end InstrumentControl.Json
