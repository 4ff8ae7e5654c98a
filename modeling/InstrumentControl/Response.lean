import InstrumentControl.Text.Affix
import InstrumentControl.Value

/-! The formats of the responses to queries, for parameters without a mapping.  Every format but a
custom one disregards the blanks around the response. -/

namespace InstrumentControl

/-- Why a response does not have its format. -/
inductive FormatError where
  | notReal (cause : Decimal.RealError)
  | notInteger
  | notBool
  | custom (reason : String)
deriving DecidableEq

def FormatError.message : FormatError → String
  | notReal cause => "not a number: " ++ cause.message
  | notInteger => "not an integer"
  | notBool => "not a boolean"
  | custom reason => reason

inductive ResponseFormat where
  /-- A real literal. -/
  | real
  /-- An integer literal, or a real literal whose double is a whole number. -/
  | integer
  /-- `1`, `ON`, `TRUE`, `0`, `OFF` or `FALSE`, in any case. -/
  | bool
  /-- Text, without one pair of quotes around it. -/
  | text
  /-- A format of one instrument. -/
  | custom (read : String → Except FormatError Value)

namespace ResponseFormat

open Decimal

/-- An integer literal, or a whole number in the form of a real literal; the latter gives the
nearest 64-bit integer. -/
def readInteger (s : List Char) : Option Int64 :=
  match readInt64? s with
  | some i => some i
  | none => (readFloat s).toOption.bind fun x => (toInt? x).map clampInt64

def readBool (s : List Char) : Option Bool :=
  let word := String.ofList (s.map Char.toUpper)
  if word = "1" || word = "ON" || word = "TRUE" then some true
  else if word = "0" || word = "OFF" || word = "FALSE" then some false
  else none

def parse (format : ResponseFormat) (raw : String) : Except FormatError Value :=
  let s := Text.trim raw.toList
  match format with
  | real => match readFloat s with
    | .ok x => .ok (.float x)
    | .error e => .error (.notReal e)
  | integer => match readInteger s with
    | some i => .ok (.int i)
    | none => .error .notInteger
  | bool => match readBool s with
    | some b => .ok (.bool b)
    | none => .error .notBool
  | text => .ok (.text (Text.unquote raw))
  | custom read => read raw

/-- The name of the format. -/
def tagged : ResponseFormat → String
  | real => "Float"
  | integer => "Int"
  | bool => "Bool"
  | text => "Text"
  | custom _ => "Custom(..)"

end ResponseFormat

end InstrumentControl
