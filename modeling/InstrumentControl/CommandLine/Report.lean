import InstrumentControl.Decimal.Layout
import InstrumentControl.Text.Affix

/-! Reports of errors: the message of the error on the first line, and the messages of its causes
below, numbered if there are several. -/

namespace InstrumentControl

structure Report where
  /-- The messages of the error and of its causes, the innermost last. -/
  messages : List String
  /-- The innermost message has further causes, which are not part of the report. -/
  isCut : Bool := false

namespace Report

/-- The lines of a text. -/
def linesOf (text : String) : List String := (Text.pieces '\n' text.toList).map String.ofList

def spaces (n : Nat) : String := String.ofList (List.replicate n ' ')

/-- A message with `first` before its first line and `others` before the others. -/
def indented (first others message : String) : List String :=
  match linesOf message with
  | [] => []
  | line :: lines => (first ++ line) :: lines.map (others ++ ·)

/-- The lines of causes, numbered from `n` on. -/
def numbered (n : Nat) : List String → List String
  | [] => []
  | cause :: causes =>
    let digits := Decimal.decimalText n
    indented (spaces (5 - digits.length) ++ digits ++ ": ") (spaces 7) cause ++
      numbered (n + 1) causes

def causeLines (r : Report) (causes : List String) : List String :=
  match causes, r.isCut with
  | [], _ => []
  | [cause], false => "" :: "Caused by:" :: indented (spaces 4) (spaces 4) cause
  | causes, _ => "" :: "Caused by:" :: numbered 0 causes

def lines (r : Report) : List String :=
  match r.messages with
  | [] => []
  | message :: causes => linesOf ("Error: " ++ message) ++ r.causeLines causes

end Report

end InstrumentControl
