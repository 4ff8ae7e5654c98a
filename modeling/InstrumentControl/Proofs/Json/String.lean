import InstrumentControl.Json.Reader
import InstrumentControl.Json.Writer

/-! Strings in JSON texts.  Each character of a string is written as itself or as an escape that
stands for one code unit, and no character is half of a surrogate pair.  So a string is read back
as it was written. -/

namespace InstrumentControl.Json

theorem hexValue?_control : ∀ n < 0x20,
    Text.hexValue? ['0', '0', Nat.digitChar (n / 16), Nat.digitChar (n % 16)] = some n := by
  decide

variable {c : Char} {n : Nat}

theorem readUnits_short (hn : shortEscape? c = some n) (s : List Char) :
    readUnits ('\\' :: c :: s) = (readUnits s).map fun p => (n :: p.1, p.2) := by
  have hc : c ≠ 'u' := by
    rintro rfl
    cases hn
  rw [readUnits, hn]
  · cases readUnits s <;> rfl
  · exact fun _ _ _ _ _ h => absurd h hc

theorem readUnits_hex {a b d e : Char} (hn : Text.hexValue? [a, b, d, e] = some n) (s : List Char) :
    readUnits ('\\' :: 'u' :: a :: b :: d :: e :: s) =
      (readUnits s).map fun p => (n :: p.1, p.2) := by
  rw [readUnits, hn]
  cases readUnits s <;> rfl

theorem readUnits_plain (hquote : c ≠ '"') (hslash : c ≠ '\\') (hc : 0x20 ≤ c.toNat)
    (s : List Char) : readUnits (c :: s) = (readUnits s).map fun p => (c.toNat :: p.1, p.2) := by
  rw [readUnits, if_neg (by simp [hslash, hc])]
  · cases readUnits s <;> rfl
  · exact hquote
  · exact fun _ _ _ _ _ h => absurd h hslash
  · exact fun _ _ h => absurd h hslash

theorem readUnits_controlEscape (hc : c.toNat < 0x20) (s : List Char) :
    readUnits (controlEscape c ++ s) = (readUnits s).map fun p => (c.toNat :: p.1, p.2) := by
  unfold controlEscape
  split
  · exact readUnits_short rfl s
  · exact readUnits_short rfl s
  · exact readUnits_short rfl s
  · exact readUnits_short rfl s
  · exact readUnits_short rfl s
  · exact readUnits_hex (hexValue?_control _ hc) s

theorem readUnits_escaped (c : Char) (s : List Char) :
    readUnits (escaped c ++ s) = (readUnits s).map fun p => (c.toNat :: p.1, p.2) := by
  unfold escaped
  by_cases hquote : c = '"'
  · subst hquote
    exact readUnits_short rfl s
  by_cases hslash : c = '\\'
  · subst hslash
    exact readUnits_short rfl s
  rw [if_neg hquote, if_neg hslash]
  by_cases hc : c.toNat < 0x20
  · rw [if_pos hc]
    exact readUnits_controlEscape hc s
  · rw [if_neg hc]
    exact readUnits_plain hquote hslash (Nat.le_of_not_lt hc) s

theorem readUnits_string (cs rest : List Char) :
    readUnits (cs.flatMap escaped ++ '"' :: rest) = some (cs.map Char.toNat, rest) := by
  induction cs with
  | nil => simp [readUnits]
  | cons c cs ih =>
    rw [List.flatMap_cons, List.append_assoc, readUnits_escaped, ih]
    rfl

theorem isHigh_toNat (c : Char) : isHigh c.toNat = false := by
  have hvalid : c.toNat < 0xd800 ∨ 0xdfff < c.toNat ∧ c.toNat < 0x110000 := c.valid
  simp only [isHigh, Bool.and_eq_false_iff, decide_eq_false_iff_not]
  omega

theorem isLow_toNat (c : Char) : isLow c.toNat = false := by
  have hvalid : c.toNat < 0xd800 ∨ 0xdfff < c.toNat ∧ c.toNat < 0x110000 := c.valid
  simp only [isLow, Bool.and_eq_false_iff, decide_eq_false_iff_not]
  omega

theorem characters?_toNat (cs : List Char) : characters? (cs.map Char.toNat) = some cs := by
  induction cs with
  | nil => rfl
  | cons c cs ih =>
    cases cs with
    | nil => simp [characters?, isHigh_toNat, isLow_toNat, Char.ofNat_toNat]
    | cons d cs =>
      simp only [List.map_cons] at ih ⊢
      simp [characters?, isHigh_toNat, isLow_toNat, Char.ofNat_toNat, ih]

/-- A string is read back as it was written. -/
theorem readString_string (s : String) (rest : List Char) :
    readString (s.toList.flatMap escaped ++ '"' :: rest) = some (some s, rest) := by
  rw [readString, readUnits_string]
  simp [characters?_toNat]

end InstrumentControl.Json
