/-! White space around texts.  Blank characters are those with the Unicode property `White_Space`,
so the no-break space and the ideographic space are blank and the zero-width space is not.  The
functions on lists of characters carry the facts; `strip` is `trim` on strings. -/

namespace InstrumentControl.Text

/-- The Unicode property `White_Space`. -/
def isBlank (c : Char) : Bool :=
  let n := c.toNat
  (0x09 ≤ n && n ≤ 0x0d) || n == 0x20 || n == 0x85 || n == 0xa0 || n == 0x1680 ||
    (0x2000 ≤ n && n ≤ 0x200a) || n == 0x2028 || n == 0x2029 || n == 0x202f || n == 0x205f ||
    n == 0x3000

def trimStart (s : List Char) : List Char := s.dropWhile isBlank

def trimEnd (s : List Char) : List Char := (s.reverse.dropWhile isBlank).reverse

/-- `s` without the blanks at its ends. -/
def trim (s : List Char) : List Char := trimEnd (trimStart s)

/-- `s` without the blanks at its ends. -/
def strip (s : String) : String := String.ofList (trim s.toList)

@[simp] theorem trimStart_nil : trimStart [] = [] := rfl

@[simp] theorem trimEnd_nil : trimEnd [] = [] := rfl

@[simp] theorem trim_nil : trim [] = [] := rfl

@[simp] theorem toList_strip (s : String) : (strip s).toList = trim s.toList := by
  simp [strip]

end InstrumentControl.Text
