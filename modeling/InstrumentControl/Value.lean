import InstrumentControl.Decimal.Layout
import InstrumentControl.Decimal.Literal
import InstrumentControl.Text.Blank
import InstrumentControl.Text.Quoted

/-! Logical values of instrument parameters.  A value is what a caller sets and gets; `toWire` is
the token that stands for it on the wire when a parameter declares no mapping, `display` the text
that messages and reports show, and `tagged` the text that also shows its kind.  Values of a mapping
or an enumeration are compared with `agrees`, which takes an integer and a real for the same when
they are equal as doubles. -/

namespace InstrumentControl

inductive Value where
  | bool (b : Bool)
  | int (i : Int64)
  | float (x : Float)
  | text (s : String)
deriving DecidableEq, Inhabited

namespace Value

open Decimal

/-- The text of a real number: the shortest digits that read back, without an exponent. -/
def realText (x : Float) : String := Layout.plain.text x

def boolText (b : Bool) : String := if b then "true" else "false"

def display : Value → String
  | bool b => boolText b
  | int i => intText i.toInt
  | float x => realText x
  | text s => s

/-- The token substituted into a command: `1` and `0` for truth values, else the display text. -/
def toWire : Value → String
  | bool true => "1"
  | bool false => "0"
  | v => v.display

/-- The value with the name of its kind. -/
def tagged : Value → String
  | bool b => "Bool(" ++ boolText b ++ ")"
  | int i => "Int(" ++ intText i.toInt ++ ")"
  | float x => "Float(" ++ Layout.tagged.text x ++ ")"
  | text s => "Text(" ++ Text.quoted s ++ ")"

/-- The value as a double, if it is a number. -/
def number? : Value → Option Float
  | int i => some (ofInt i.toInt)
  | float x => some x
  | _ => none

/-- The value as an integer, if it is one or a finite real without a fraction.  A real beyond the
64-bit integers gives the nearest of them. -/
def integer? : Value → Option Int64
  | int i => some i
  | float x => (toInt? x).map clampInt64
  | _ => none

def text? : Value → Option String
  | text s => some s
  | _ => none

/-- Same kind and same content; reals are compared as numbers. -/
def same : Value → Value → Bool
  | bool a, bool b => a == b
  | int a, int b => a == b
  | float a, float b => a == b
  | text a, text b => a == b
  | _, _ => false

/-- Numbers agree when they are equal as doubles, other values when they are the same. -/
def agrees (a b : Value) : Bool :=
  match a.number?, b.number? with
  | some x, some y => x == y
  | _, _ => a.same b

/-- The value that free text stands for: an integer, a real that has a digit, a truth value, or else
the text itself. -/
def infer (input : String) : Value :=
  let trimmed := Text.trim input.toList
  match readInt64? trimmed with
  | some i => int i
  | none =>
    match if trimmed.any Char.isDigit then (readFloat trimmed).toOption else none with
    | some x => float x
    | none =>
      if trimmed = "true".toList then bool true
      else if trimmed = "false".toList then bool false
      else text input

end Value

end InstrumentControl
