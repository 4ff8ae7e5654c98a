import InstrumentControl.Text.Letters

/-! Lower case.  A capital sigma at the end of a word becomes a final sigma; the capital I with a
dot keeps its dot as a character of its own; every other letter has one letter as its lower-case
form. -/

namespace InstrumentControl.Text

/-- The first character that is not ignorable in questions of case is a letter with a case. -/
def reachesCased (s : List Char) : Bool :=
  match s.dropWhile isCaseIgnorable with
  | [] => false
  | c :: _ => isCased c

def lowerLetter (c : Char) : List Char :=
  if c.toNat < 0x80 then [c.toLower]
  else if c = '\u0130' then ['i', '\u0307']
  else
    match caseRun? c.toNat with
    | some run => [Char.ofNat (c.toNat + run.shift).toNat]
    | none => [c]

/-- The lower case of a text of which `before` has been read, last character first. -/
def lowerFrom (before : List Char) : List Char → List Char
  | [] => []
  | c :: s =>
    let lower :=
      if c = 'Σ' then [if reachesCased before && !reachesCased s then 'ς' else 'σ']
      else lowerLetter c
    lower ++ lowerFrom (c :: before) s

def lowercase (s : String) : String := String.ofList (lowerFrom [] s.toList)

/-- `s` with the letters A to Z in lower case. -/
def lowercaseAscii (s : String) : String := String.ofList (s.toList.map Char.toLower)

end InstrumentControl.Text
