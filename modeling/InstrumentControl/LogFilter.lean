import InstrumentControl.Decimal.Literal
import InstrumentControl.LogFilter.Pattern.Basic
import InstrumentControl.Text.Affix
import InstrumentControl.Text.Alphanumeric
import InstrumentControl.Text.Blank
import InstrumentControl.Text.Case
import InstrumentControl.Text.Utf8

/-! Filters of the log.  A filter is a list of directives with commas between them.  A directive is
a level, a target, or a target with an equals sign and a level; a target may name a span in
brackets, with a field in braces.  A field is a name, or a name with an equals sign and a number or
a pattern.

Blanks around a directive are no part of it, but places in it are counted in bytes from the first
blank.  So no level stands in a directive with blanks around it, and the blanks before it shift what
is taken for its field. -/

namespace InstrumentControl.LogFilter

open Text

/-- The names of the levels, and `off`. -/
def levelWords : List String := ["trace", "debug", "info", "warn", "error", "off"]

/-- A level: its name, or a number up to five. -/
def isLevel (s : List Char) : Bool :=
  levelWords.contains (String.ofList (s.map Char.toLower)) ||
    match Decimal.readNat? s with
    | some n => n ≤ 5
    | none => false

/-- What may follow an equals sign. -/
def admitsLevel (s : List Char) : Bool := s.isEmpty || isLevel s

/-- What may follow a span, a level only if there are no blanks around the directive. -/
def admitsAfterSpan (isBare : Bool) : List Char → Bool
  | [] => true
  | '=' :: level => isBare && admitsLevel level
  | _ => false

/-- A field.  Its value ends at a second equals sign. -/
def admitsField (field : List Char) : Bool :=
  match field.dropWhile (· ≠ '=') with
  | [] => true
  | _ :: s =>
    let value := s.takeWhile (· ≠ '=')
    (Decimal.Literal.read? value).isSome || Pattern.isWellFormed value

/-- The text after the opening bracket of a span.  `whole` is the directive with the blanks around
it, and `size` counts the bytes of the directive without them. -/
def admitsSpan (whole : List Char) (size : Nat) (s : List Char) : Bool :=
  let isBare := size = Utf8.size whole
  match s.dropWhile fun c => c ≠ ']' && c ≠ '\x7b' with
  | ']' :: rest => admitsAfterSpan isBare rest
  | _ :: rest =>
    let field := rest.takeWhile (· ≠ '\x7d')
    match rest.drop field.length with
    | '\x7d' :: ']' :: after =>
      let start := size - Utf8.size rest
      !field.isEmpty && admitsField (Utf8.take (Utf8.size field) (Utf8.drop start whole)) &&
        admitsAfterSpan isBare after
    | _ => false
  | [] => false

def startsTarget (c : Char) : Bool := isAlphanumeric c || c = '-' || c = ':' || c = '_'

/-- The text is a directive, with or without blanks around it. -/
def admitsDirective (s : List Char) : Bool :=
  let body := trim s
  match body with
  | [] => false
  | '[' :: rest => admitsSpan s (Utf8.size body) rest
  | c :: rest =>
    startsTarget c &&
      match rest.dropWhile fun c => c ≠ '=' && c ≠ '[' with
      | [] => true
      | '=' :: level => s = body && admitsLevel level
      | _ :: rest => admitsSpan s (Utf8.size body) rest

/-- The text is a filter. -/
def admits (filter : String) : Bool :=
  (pieces ',' filter.toList).all fun s => s.isEmpty || admitsDirective s

/-- Why there is no filter: the text that is meant to be a level. -/
structure LevelError where
  level : String
deriving DecidableEq

def LevelError.message (e : LevelError) : String := "Invalid log level '" ++ e.level ++ "'"

/-- Chooses the filter of the log: the text of a variable if it is one, else the level in lower
case. -/
def choose (variableText : Option String) (level : String) : Except LevelError String :=
  match variableText.filter admits with
  | some filter => .ok filter
  | none =>
    let filter := lowercase level
    if admits filter then .ok filter else .error ⟨level⟩

end InstrumentControl.LogFilter
