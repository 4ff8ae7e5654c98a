import InstrumentControl.Decimal.Shortest

/-! The layout of a double's shortest digits.  A `Layout` fixes which decimal exponents are written
with a point at its place, whether whole numbers get a `.0`, and how an exponent is written. -/

namespace InstrumentControl.Decimal

structure Layout where
  /-- The decimal exponents written without an exponent part; all of them if `none`. -/
  positional : Option (Int × Int)
  /-- Whole numbers written without an exponent part end with `.0`. -/
  pointZero : Bool
  /-- The sign written before an exponent that is not negative. -/
  plus : String
  tie : Tie
deriving DecidableEq

/-- Readings on the wire and in messages: never an exponent. -/
def Layout.plain : Layout := ⟨none, false, "", .up⟩

/-- Readings shown with their kind: an exponent below `1e-4` and from `1e16` on. -/
def Layout.tagged : Layout := ⟨some (-4, 15), true, "", .up⟩

/-- JSON numbers: an exponent below `1e-5` and from `1e16` on, with its sign. -/
def Layout.json : Layout := ⟨some (-5, 15), true, "+", .even⟩

def decimalText (n : Nat) : String := String.ofList (Nat.toDigits 10 n)

def intText (i : Int) : String :=
  if i < 0 then "-" ++ decimalText i.natAbs else decimalText i.natAbs

def zeros (n : Int) : List Char := List.replicate n.toNat '0'

/-- The digits `ds` with the point after the first `point` of them, zeros added on either side. -/
def positionalText (pointZero : Bool) (ds : List Char) (point : Int) : List Char :=
  if point ≤ 0 then '0' :: '.' :: (zeros (-point) ++ ds)
  else if (ds.length : Int) ≤ point then
    ds ++ zeros (point - ds.length) ++ (if pointZero then ['.', '0'] else [])
  else ds.take point.toNat ++ '.' :: ds.drop point.toNat

/-- The first of the digits `ds`, the others after a point, and the exponent. -/
def exponentText (plus : String) (ds : List Char) (exponent : Int) : List Char :=
  let fraction := if ds.length ≤ 1 then [] else '.' :: ds.drop 1
  let sign := if exponent < 0 then "" else plus
  ds.take 1 ++ fraction ++ 'e' :: (sign ++ intText exponent).toList

def Layout.digits (l : Layout) (d : Scientific) : List Char :=
  let ds := Nat.toDigits 10 d.coefficient
  let point := (ds.length : Int) + d.exponent
  match l.positional with
  | none => positionalText l.pointZero ds point
  | some (low, high) =>
    if low ≤ point - 1 ∧ point - 1 ≤ high then positionalText l.pointZero ds point
    else exponentText l.plus ds (point - 1)

def Layout.text (l : Layout) (x : Float) : String :=
  match decode x with
  | .nan => "NaN"
  | .infinite negative => if negative then "-inf" else "inf"
  | .finite ⟨negative, m, e⟩ =>
    let d : Scientific := if m = 0 then ⟨0, 0⟩ else shortest l.tie m e
    String.ofList ((if negative then ['-'] else []) ++ l.digits d)

end InstrumentControl.Decimal
