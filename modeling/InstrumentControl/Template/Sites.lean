import InstrumentControl.Decimal.Literal
import InstrumentControl.Template.Basic

/-! The order of sites.  The keys of a template are in the order of their texts, in which `10` comes
before `2`; `sortByNumber` puts them in the order of the numbers that they read as. -/

namespace InstrumentControl.Template

/-- The greatest number of a word of 64 bits. -/
def greatestWord : Nat := Nat.pow 2 64 - 1

/-- The number that a key reads as, or the greatest word if it reads as none. -/
def siteNumber (key : String) : Nat :=
  ((Decimal.readNat? key.toList).filter (· ≤ greatestWord)).getD greatestWord

/-- Puts `key` before the first key whose number is not smaller. -/
def insertByNumber (key : String) : List String → List String
  | [] => [key]
  | other :: keys =>
    if siteNumber key ≤ siteNumber other then key :: other :: keys
    else other :: insertByNumber key keys

/-- The keys in the order of their numbers.  Keys of the same number stay in their order. -/
def sortByNumber (keys : List String) : List String := keys.foldr insertByNumber []

end InstrumentControl.Template
