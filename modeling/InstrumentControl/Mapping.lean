import InstrumentControl.Value

/-! Tables that pair logical values with wire tokens.  On the way out the first pair whose value
agrees counts, on the way in the first pair whose token is the response without its outer blanks. -/

namespace InstrumentControl

/-- Pairs of a logical value and its token on the wire. -/
structure Mapping where
  pairs : List (Value × String)
deriving DecidableEq

namespace Mapping

def isEmpty (m : Mapping) : Bool := m.pairs.isEmpty

/-- `ON` and `OFF`, written as they are. -/
def onOff : Mapping where
  pairs := [(.text "ON", "ON"), (.text "OFF", "OFF")]

def toWire (m : Mapping) (value : Value) : Option String :=
  (m.pairs.find? fun pair => pair.1.agrees value).map Prod.snd

def fromWire (m : Mapping) (response : String) : Option Value :=
  (m.pairs.find? fun pair => pair.2 == Text.strip response).map Prod.fst

def values (m : Mapping) : List Value := m.pairs.map Prod.fst

def tokens (m : Mapping) : List String := m.pairs.map Prod.snd

def describe (m : Mapping) : String := Text.braced (m.values.map Value.display)

/-- The table as messages for developers show it. -/
def tagged (m : Mapping) : String :=
  let pair (p : Value × String) := "(" ++ p.1.tagged ++ ", " ++ Text.quoted p.2 ++ ")"
  "ValueMapping \x7b pairs: " ++ Text.bracketed (m.pairs.map pair) ++ " \x7d"

end Mapping

end InstrumentControl
