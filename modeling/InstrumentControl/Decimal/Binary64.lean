/-! Double precision numbers as exact values.  `decode` takes a number apart into a sign, a
significand and a power of two; `nearestBits` rounds a quotient of natural numbers to the nearest
double, of two equally near to the one with the even significand; `ofQuotient` builds the number. -/

namespace InstrumentControl.Decimal

/-- The value `(-1)^negative * significand * 2^exponent`. -/
structure Dyadic where
  negative : Bool
  significand : Nat
  exponent : Int
deriving DecidableEq

/-- What a double precision number stands for. -/
inductive Magnitude where
  | nan
  | infinite (negative : Bool)
  | finite (value : Dyadic)
deriving DecidableEq

/-- The significand has at most 53 bits and the exponent is at least -1074. -/
def decode (x : Float) : Magnitude :=
  let bits := x.toBits.toNat
  let negative : Bool := decide (Nat.pow 2 63 ≤ bits)
  let field : Nat := bits / Nat.pow 2 52 % Nat.pow 2 11
  let fraction := bits % Nat.pow 2 52
  if field = 2047 then
    if fraction = 0 then .infinite negative else .nan
  else if field = 0 then .finite ⟨negative, fraction, -1074⟩
  else .finite ⟨negative, fraction + Nat.pow 2 52, (field : Int) - 1075⟩

def isFinite (x : Float) : Bool :=
  match decode x with
  | .finite _ => true
  | _ => false

/-- `num / den` to the nearest natural number, a half to the even neighbour. -/
def roundHalfEven (num den : Nat) : Nat :=
  let floor := num / den
  let rest := 2 * (num % den)
  if rest < den then floor
  else if den < rest then floor + 1
  else floor + floor % 2

/-- `num / (den * 2^exponent)` as a quotient of natural numbers. -/
def scaleBy (num den : Nat) (exponent : Int) : Nat × Nat :=
  if 0 ≤ exponent then (num, den * Nat.pow 2 exponent.toNat)
  else (num * Nat.pow 2 (-exponent).toNat, den)

/-- The least exponent, and at least -1074, at which the integral part of `num / den` has at most
53 bits. -/
def exponentFor (num den : Nat) : Int :=
  let guess := max ((num.log2 : Int) - (den.log2 : Int) - 53) (-1074)
  let (n, d) := scaleBy num den guess
  if n / d < Nat.pow 2 53 then guess else guess + 1

def infinityBits : Nat := 2047 * Nat.pow 2 52

/-- The bits of the double nearest to `num / den`, without a sign.  A significand that rounds up to
`2^53` carries into the exponent, and what exceeds the largest double becomes infinity. -/
def nearestBits (num den : Nat) : Nat :=
  if num = 0 then 0
  else
    let exponent := exponentFor num den
    let (n, d) := scaleBy num den exponent
    min infinityBits ((exponent + 1074).toNat * Nat.pow 2 52 + roundHalfEven n d)

def ofBits (negative : Bool) (bits : Nat) : Float :=
  Float.ofBits (UInt64.ofNat (if negative then Nat.pow 2 63 + bits else bits))

/-- The double nearest to `(-1)^negative * num / den`. -/
def ofQuotient (negative : Bool) (num den : Nat) : Float := ofBits negative (nearestBits num den)

/-- The double nearest to an integer. -/
def ofInt (i : Int) : Float := ofQuotient (i < 0) i.natAbs 1

def infinity (negative : Bool) : Float := ofBits negative infinityBits

def nan : Float := Float.ofBits 0x7ff8000000000000

/-- The integer that `x` is, if it is one. -/
def toInt? (x : Float) : Option Int :=
  match decode x with
  | .finite ⟨negative, m, e⟩ =>
    let sign : Int := if negative then -1 else 1
    if 0 ≤ e then some (sign * (m * Nat.pow 2 e.toNat : Nat))
    else if m % Nat.pow 2 (-e).toNat = 0 then some (sign * (m / Nat.pow 2 (-e).toNat : Nat))
    else none
  | _ => none

/-- `i`, or the nearer end of the range of 64-bit integers if `i` lies outside it. -/
def clampInt64 (i : Int) : Int64 :=
  Int64.ofInt (max Int64.minValue.toInt (min i Int64.maxValue.toInt))

/-- `i` as a 64-bit integer, if it is one. -/
def int64? (i : Int) : Option Int64 :=
  if Int64.minValue.toInt ≤ i ∧ i ≤ Int64.maxValue.toInt then some (Int64.ofInt i) else none

end InstrumentControl.Decimal
