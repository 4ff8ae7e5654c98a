import InstrumentControl.LogFilter.Pattern.Atom

/-! Classes of characters in brackets.  A class is a list of characters, ranges, named classes and
classes, possibly negated; two ampersands, dashes or tildes combine what stands before them with
what follows.  A class that is matched by bytes may not be negated, because it would hold parts of
characters then. -/

namespace InstrumentControl.LogFilter.Pattern

/-- The names of classes, as in `[:digit:]`. -/
def classNames : List String :=
  ["alnum", "alpha", "ascii", "blank", "cntrl", "digit", "graph", "lower", "print", "punct",
    "space", "upper", "word", "xdigit"]

/-- Whether a named class is negated, after its opening bracket, and what follows it. -/
def readNamed? : List Char → Option (Bool × List Char)
  | ':' :: s =>
    let negated := s.head? = some '^'
    let s := if negated then s.tail else s
    match s.dropWhile (· ≠ ':') with
    | ':' :: ']' :: rest =>
      if classNames.contains (String.ofList (s.takeWhile (· ≠ ':'))) then some (negated, rest)
      else none
    | _ => none
  | _ => none

/-- What follows dashes.  `fuel` bounds their number. -/
def skipDashes (f : Flags) (fuel : Nat) (s : List Char) : List Char :=
  match fuel, s with
  | fuel + 1, '-' :: s => skipDashes f fuel (f.skip s)
  | _, s => s

/-- What follows the opening bracket of a class, the sign of negation, and a bracket or dashes that
stand for themselves. -/
def openClass (f : Flags) (s : List Char) : Option (List Char) :=
  let s := f.skip s
  let negated := s.head? = some '^'
  let s := if negated then f.skip s.tail else s
  if negated && !f.unicode then none
  else
    match s with
    | ']' :: s => if f.admitsLiterals then some s else none
    | '-' :: _ => if f.admitsLiterals then some (skipDashes f s.length s) else none
    | s => some s

/-- A character of a class, or an escape. -/
def readMember (f : Flags) : List Char → Option (Atom × List Char)
  | [] => none
  | '\\' :: s => readEscape f s
  | c :: s => some (.literal c false, s)

/-- What follows a character of a class, a range or an escape. -/
def skipRange (f : Flags) (s : List Char) : Option (List Char) := do
  let (first, s) ← readMember f s
  let s := f.skip s
  if !first.isMember f then none
  match s with
  | '-' :: rest =>
    match f.skip rest with
    | ']' :: _ | '-' :: _ => return s
    | rest =>
      let (last, rest) ← readMember f rest
      match first, last with
      | .literal a _, .literal b _ => if last.isMember f && a ≤ b then return rest else none
      | _, _ => none
  | s => return s

/-- What follows a class inside which `depth` further classes are open.  `fuel` bounds the number of
steps. -/
def skipClass (f : Flags) (fuel depth : Nat) (s : List Char) : Option (List Char) :=
  match fuel with
  | 0 => none
  | fuel + 1 =>
    match f.skip s with
    | [] => none
    | '[' :: s =>
      match readNamed? s with
      | some (negated, s) =>
        if f.admitsLiterals && (f.unicode || !negated) then skipClass f fuel depth s else none
      | none => do skipClass f fuel (depth + 1) (← openClass f s)
    | ']' :: s => if depth = 0 then some s else skipClass f fuel (depth - 1) s
    | '&' :: '&' :: s | '-' :: '-' :: s | '~' :: '~' :: s => skipClass f fuel depth s
    | s => do skipClass f fuel depth (← skipRange f s)

/-- What follows a class, after its opening bracket. -/
def readClass (f : Flags) (s : List Char) : Option (List Char) := do
  skipClass f (s.length + 1) 0 (← openClass f s)

end InstrumentControl.LogFilter.Pattern
