import InstrumentControl.Decimal.Binary64

/-! The shortest decimal text of a double.  The reals that round to a double form an interval around
it, with its ends included when the significand is even.  `shortest` finds the least number of
digits for which a decimal lies in that interval, and the decimal of that many digits nearest to the
double; of two equally near ones, `Tie` decides. -/

namespace InstrumentControl.Decimal

/-- Which of two equally near decimals is taken. -/
inductive Tie where
  | up
  | even
deriving DecidableEq

/-- The value `coefficient * 10^exponent`. -/
structure Scientific where
  coefficient : Nat
  exponent : Int
deriving DecidableEq

/-- Four times the interval of reals that round to `significand * 2^exponent`, and four times that
number itself, over a common denominator.  Below a power of two the next double is half as far. -/
structure Interval where
  low : Nat
  value : Nat
  high : Nat
  denominator : Nat
  closed : Bool
deriving DecidableEq

def Interval.around (significand : Nat) (exponent : Int) : Interval :=
  let below := if significand = Nat.pow 2 52 ∧ -1074 < exponent then 1 else 2
  let unit := if 0 ≤ exponent then Nat.pow 2 exponent.toNat else 1
  { low := (4 * significand - below) * unit
    value := 4 * significand * unit
    high := (4 * significand + 2) * unit
    denominator := if 0 ≤ exponent then 4 else 4 * Nat.pow 2 (-exponent).toNat
    closed := significand % 2 = 0 }

/-- `coefficient * 10^exponent` rounds to the number in the middle of the interval. -/
def Interval.contains (i : Interval) (d : Scientific) : Bool :=
  let num := if 0 ≤ d.exponent then d.coefficient * Nat.pow 10 d.exponent.toNat * i.denominator
    else d.coefficient * i.denominator
  let den := if 0 ≤ d.exponent then 1 else Nat.pow 10 (-d.exponent).toNat
  if i.closed then i.low * den ≤ num && num ≤ i.high * den
  else i.low * den < num && num < i.high * den

/-- The multiple of `10^exponent` just below the middle of the interval, and what remains, as a
numerator and a denominator. -/
def Interval.floor (i : Interval) (exponent : Int) : Nat × Nat × Nat :=
  let num := if 0 ≤ exponent then i.value else i.value * Nat.pow 10 (-exponent).toNat
  let den := if 0 ≤ exponent then i.denominator * Nat.pow 10 exponent.toNat else i.denominator
  (num / den, num % den, den)

/-- The decimal on the grid of multiples of `10^exponent` that rounds to the middle of the interval,
the nearer of the two neighbours if both do. -/
def Interval.onGrid? (tie : Tie) (i : Interval) (exponent : Int) : Option Scientific :=
  let (below, rest, den) := i.floor exponent
  let lower : Scientific := ⟨below, exponent⟩
  let upper : Scientific := ⟨below + 1, exponent⟩
  let upperNearer := den < 2 * rest ||
    (2 * rest == den && (tie == .up || below % 2 == 1))
  match i.contains lower, i.contains upper with
  | true, true => some (if upperNearer then upper else lower)
  | true, false => some lower
  | false, true => some upper
  | false, false => none

/-- The number of digits before the point of `num / den`, or minus the number of zeros after it. -/
def pointOf (num den : Nat) : Int :=
  let guess := ((Nat.toDigits 10 num).length : Int) - ((Nat.toDigits 10 den).length : Int)
  let reached := if 0 ≤ guess then den * Nat.pow 10 guess.toNat ≤ num
    else den ≤ num * Nat.pow 10 (-guess).toNat
  if reached then guess + 1 else guess

/-- `d` without the zeros that its coefficient ends with. -/
def Scientific.withoutZeros (d : Scientific) : Scientific :=
  if h : d.coefficient ≠ 0 ∧ d.coefficient % 10 = 0 then
    withoutZeros ⟨d.coefficient / 10, d.exponent + 1⟩
  else d
termination_by d.coefficient
decreasing_by omega

/-- The shortest decimal that rounds to `significand * 2^exponent`, for a significand other than
zero.  Seventeen digits always suffice. -/
def shortest (tie : Tie) (significand : Nat) (exponent : Int) : Scientific :=
  let i := Interval.around significand exponent
  let point := pointOf i.value i.denominator
  let found := (List.range 17).findSome? fun (n : Nat) => i.onGrid? tie (point - (n + 1))
  (found.getD ⟨(i.floor (point - 17)).1, point - 17⟩).withoutZeros

end InstrumentControl.Decimal
