import InstrumentControl.LogFilter.Pattern.Class
import InstrumentControl.Text.Alphanumeric

/-! Patterns of the values of fields: regular expressions.  A pattern is well formed if its groups
and classes are closed, every sign of repetition has something before it, and all of its parts are
admitted under the flags where they stand. -/

namespace InstrumentControl.LogFilter.Pattern

open Text

/-- The flags of a pattern, each by its letter. -/
def flagLetters : List Char := ['i', 'm', 's', 'u', 'U', 'R', 'x']

/-- The letters change flags: none occurs twice, and those after a dash are turned off. -/
def areFlags (letters : List Char) : Bool :=
  letters.all (fun c => c = '-' || flagLetters.contains c) && letters.Nodup &&
    letters.getLast? ≠ some '-'

/-- The flags after a change. -/
def Flags.change (f : Flags) (letters : List Char) : Flags :=
  let on := letters.takeWhile (· ≠ '-')
  let off := letters.dropWhile (· ≠ '-')
  let value (c : Char) (old : Bool) : Bool := on.contains c || (old && !off.contains c)
  { anyCase := value 'i' f.anyCase, unicode := value 'u' f.unicode, spaced := value 'x' f.spaced }

/-- The text names a group. -/
def isGroupName : List Char → Bool
  | [] => false
  | c :: s =>
    (c = '_' || isAlphabetic c) &&
      s.all fun c => c = '_' || c = '.' || c = '[' || c = ']' || isAlphanumeric c

/-- What has been read of a pattern. -/
structure State where
  flags : Flags := {}
  /-- For each group that is open, the innermost first, the flags outside it. -/
  outside : List Flags := []
  /-- The names of the groups. -/
  names : List String := []
  /-- What was read last can be repeated. -/
  repeatable : Bool := false

/-- Opens a group in which the given flags are in force. -/
def State.enter (t : State) (inside : Flags) : State :=
  { t with flags := inside, outside := t.flags :: t.outside, repeatable := false }

/-- Opens a group with a name, after the angle that stands before the name. -/
def enterNamed (t : State) (s : List Char) : Option (State × List Char) :=
  let name := s.takeWhile (· ≠ '>')
  match s.drop name.length with
  | '>' :: rest =>
    if isGroupName name && !t.names.contains (String.ofList name) then
      some (({ t with names := String.ofList name :: t.names }).enter t.flags, rest)
    else none
  | _ => none

/-- Opens a group, after its parenthesis, or changes the flags. -/
def openGroup (t : State) (s : List Char) : Option (State × List Char) :=
  match t.flags.skip s with
  | '?' :: 'P' :: '<' :: s | '?' :: '<' :: s => enterNamed t s
  | '?' :: s =>
    let letters := s.takeWhile fun c => c ≠ ':' && c ≠ ')'
    if !areFlags letters then none
    else
      match s.drop letters.length with
      | ':' :: rest => some (t.enter (t.flags.change letters), rest)
      | ')' :: rest =>
        if letters.isEmpty then none
        else some ({ t with flags := t.flags.change letters, repeatable := false }, rest)
      | _ => none
  | s => some (t.enter t.flags, s)

/-- Reads an atom. -/
def State.read (t : State) (a : Atom) (s : List Char) : Option (State × List Char) :=
  if a.isAdmitted t.flags then some ({ t with repeatable := true }, s) else none

/-- Reads the next part of a pattern.  A number of repetitions in braces is refused. -/
def step (t : State) : List Char → Option (State × List Char)
  | [] => none
  | '(' :: s => openGroup t s
  | ')' :: s =>
    match t.outside with
    | [] => none
    | flags :: outside => some ({ t with flags, outside, repeatable := true }, s)
  | '|' :: s => some ({ t with repeatable := false }, s)
  | '[' :: s => do return ({ t with repeatable := true }, ← readClass t.flags s)
  | '?' :: s | '*' :: s | '+' :: s => if t.repeatable then some (t, s) else none
  | '\x7b' :: _ => none
  | '\\' :: s => do
    let (a, s) ← readEscape t.flags s
    t.read a s
  | '.' :: s => t.read .anyCharacter s
  | '^' :: s | '$' :: s => t.read .edge s
  | c :: s => t.read (.literal c false) s

/-- The rest of a pattern is well formed.  `fuel` bounds the number of its parts. -/
def isWellFormedFrom (fuel : Nat) (t : State) (s : List Char) : Bool :=
  match fuel with
  | 0 => false
  | fuel + 1 =>
    match t.flags.skip s with
    | [] => t.outside.isEmpty
    | s =>
      match step t s with
      | some (t, s) => isWellFormedFrom fuel t s
      | none => false

def isWellFormed (s : List Char) : Bool := isWellFormedFrom (s.length + 1) {} s

end InstrumentControl.LogFilter.Pattern
