import InstrumentControl.Value

/-! Domains of values.  A domain says which logical values a parameter or an argument takes; `check`
gives the reason when it does not take one, and `describe` is the domain's text. -/

namespace InstrumentControl

inductive Domain where
  /-- Integers and finite reals from `min` to `max`. -/
  | numbers (min max : Float)
  /-- Integers from `min` to `max`. -/
  | ints (min max : Int64)
  /-- The values that agree with a listed one. -/
  | oneOf (choices : List Value)
  /-- Truth values. -/
  | bool
  /-- The values that a member takes. -/
  | anyOf (members : List Domain)
deriving Inhabited

/-- Why a domain does not take a value. -/
inductive Rejection where
  | notNumber (value : Value)
  | notFinite (x : Float)
  | outside (domain : String)
  | notInteger (value : Value)
  | notListed (choices : String)
  | notBool (value : Value)
  | noMember (members : String)
deriving DecidableEq

def Rejection.message : Rejection → String
  | notNumber value => "expected a number, got " ++ value.tagged
  | notFinite x => Value.realText x ++ " is not a finite number"
  | outside domain => "outside " ++ domain
  | notInteger value => "expected an integer, got " ++ value.tagged
  | notListed choices => "not one of " ++ choices
  | notBool value => "expected a boolean, got " ++ value.tagged
  | noMember members => "matches none of " ++ members

namespace Domain

mutual

def describe : Domain → String
  | numbers min max => Value.realText min ++ "..=" ++ Value.realText max
  | ints min max =>
    Decimal.intText min.toInt ++ "..=" ++ Decimal.intText max.toInt ++ " (integer)"
  | oneOf choices => Text.braced (choices.map Value.display)
  | bool => "bool"
  | anyOf members => String.intercalate " | " (describeAll members)

def describeAll : List Domain → List String
  | [] => []
  | d :: ds => describe d :: describeAll ds

end

mutual

/-- The reason why the domain does not take `value`, if it does not. -/
def check (domain : Domain) (value : Value) : Except Rejection Unit :=
  match domain with
  | numbers min max =>
    match value.number? with
    | none => .error (.notNumber value)
    | some x =>
      if !Decimal.isFinite x then .error (.notFinite x)
      else if x < min || x > max then .error (.outside (numbers min max).describe)
      else .ok ()
  | ints min max =>
    match value with
    | .int i =>
      if i < min || i > max then .error (.outside (ints min max).describe) else .ok ()
    | other => .error (.notInteger other)
  | oneOf choices =>
    if choices.any (·.agrees value) then .ok ()
    else .error (.notListed (oneOf choices).describe)
  | bool =>
    match value with
    | .bool _ => .ok ()
    | other => .error (.notBool other)
  | anyOf members =>
    if anyTakes members value then .ok () else .error (.noMember (anyOf members).describe)

/-- One of the domains takes `value`. -/
def anyTakes : List Domain → Value → Bool
  | [], _ => false
  | d :: ds, value =>
    match check d value with
    | .ok _ => true
    | .error _ => anyTakes ds value

end

mutual

/-- The domain with the names of its kinds. -/
def tagged : Domain → String
  | numbers min max =>
    "Numbers \x7b min: " ++ Decimal.Layout.tagged.text min ++ ", max: " ++
      Decimal.Layout.tagged.text max ++ " \x7d"
  | ints min max =>
    "Ints \x7b min: " ++ Decimal.intText min.toInt ++ ", max: " ++ Decimal.intText max.toInt ++
      " \x7d"
  | oneOf choices => "Enum(" ++ Text.bracketed (choices.map Value.tagged) ++ ")"
  | bool => "Bool"
  | anyOf members => "MultiType(" ++ Text.bracketed (taggedAll members) ++ ")"

def taggedAll : List Domain → List String
  | [] => []
  | d :: ds => tagged d :: taggedAll ds

end

end Domain

end InstrumentControl
