import InstrumentControl.Text.Blank
import InstrumentControl.Text.Hex

/-! The smallest parts of a pattern: characters, escapes, and the flags in force where they stand.
The classes and the cases of letters outside ASCII are not known to the matcher, and no match may
split a character; an atom that needs either is refused. -/

namespace InstrumentControl.LogFilter.Pattern

open Text

/-- The flags on which it depends what a pattern may hold. -/
structure Flags where
  /-- Letters stand for both of their cases. -/
  anyCase : Bool := false
  /-- A pattern is matched by characters, and otherwise by bytes. -/
  unicode : Bool := true
  /-- Blanks and comments in the pattern are skipped. -/
  spaced : Bool := false

/-- What follows blanks and comments, `inComment` if `s` begins within a comment. -/
def skipTrivia (inComment : Bool) : List Char → List Char
  | [] => []
  | c :: s =>
    if inComment then skipTrivia (c ≠ '\n') s
    else if isBlank c then skipTrivia false s
    else if c = '#' then skipTrivia true s
    else c :: s

/-- What follows the characters that the flags skip. -/
def Flags.skip (f : Flags) (s : List Char) : List Char :=
  if f.spaced then skipTrivia false s else s

/-- Characters may stand for themselves. -/
def Flags.admitsLiterals (f : Flags) : Bool := !(f.unicode && f.anyCase)

inductive Atom where
  /-- A character, written as the two digits of a byte if `isByte`. -/
  | literal (c : Char) (isByte : Bool)
  /-- Any character but a line break. -/
  | anyCharacter
  /-- The digits, the blanks or the characters of words, or all others. -/
  | group (negated : Bool)
  /-- The beginning or the end. -/
  | edge
  /-- The beginning or the end of a word. -/
  | wordEdge

/-- The atom may stand in a pattern. -/
def Atom.isAdmitted (f : Flags) : Atom → Bool
  | literal c isByte => f.admitsLiterals && (f.unicode || !isByte || c.toNat < 0x80)
  | anyCharacter => f.unicode
  | group negated => !f.unicode && !negated
  | edge => true
  | wordEdge => !f.unicode

/-- The atom may stand in a class in brackets. -/
def Atom.isMember (f : Flags) : Atom → Bool
  | literal c _ => f.admitsLiterals && (f.unicode || c.toNat < 0x80)
  | group negated => (group negated).isAdmitted f
  | _ => false

/-- The character of `count` hexadecimal digits, `n` being the number of those before them. -/
def readCode (f : Flags) : (count n : Nat) → List Char → Option (Char × List Char)
  | 0, n, s => (scalar? n).map fun c => (c, s)
  | count + 1, n, s =>
    match f.skip s with
    | c :: s => do readCode f count (16 * n + (← hexDigit? c)) s
    | [] => none

/-- The control character that a letter stands for after a backslash. -/
def control? (c : Char) : Option Char :=
  match c with
  | 'a' => some '\x07'
  | 'f' => some '\x0c'
  | 'n' => some '\n'
  | 'r' => some '\r'
  | 't' => some '\t'
  | 'v' => some '\x0b'
  | _ => none

/-- The character stands for itself after a backslash. -/
def isEscapable (c : Char) : Bool := c.toNat < 0x80 && !c.isAlphanum && c ≠ '<' && c ≠ '>'

/-- What an escape stands for, after its backslash, and what follows it. -/
def readEscape (f : Flags) : List Char → Option (Atom × List Char)
  | [] => none
  | 'x' :: s => (readCode f 2 0 s).map fun p => (.literal p.1 true, p.2)
  | 'u' :: s => (readCode f 4 0 s).map fun p => (.literal p.1 false, p.2)
  | 'U' :: s => (readCode f 8 0 s).map fun p => (.literal p.1 false, p.2)
  | c :: s =>
    if ['d', 's', 'w'].contains c then some (.group false, s)
    else if ['D', 'S', 'W'].contains c then some (.group true, s)
    else if ['A', 'z'].contains c then some (.edge, s)
    else if ['b', 'B', '<', '>'].contains c then some (.wordEdge, s)
    else if isEscapable c then some (.literal c false, s)
    else (control? c).map fun c => (.literal c false, s)

end InstrumentControl.LogFilter.Pattern
