import InstrumentControl.Proofs.Text.Lines
import InstrumentControl.Value

/-! Texts within a line.  The printable characters of ASCII other than the sign of a prompt end no
line and no response, so a text of them with a terminator of other characters is one line.  Numbers
and truth values are written with them. -/

namespace InstrumentControl

namespace Text

/-- A printable character of ASCII other than the sign of a prompt. -/
def isInline (c : Char) : Bool := 0x20 ≤ c.toNat && c.toNat ≤ 0x7e && c != '>'

def Inline (s : String) : Prop := ∀ c ∈ s.toList, isInline c = true

instance (s : String) : Decidable (Inline s) :=
  decidable_of_iff (s.toList.all isInline = true) List.all_eq_true

variable {s s' : String} {cs : List Char}

theorem isInline_iff {c : Char} :
    isInline c = true ↔ 0x20 ≤ c.toNat ∧ c.toNat ≤ 0x7e ∧ c ≠ '>' := by
  simp [isInline, and_assoc]

theorem inline_ofList : Inline (String.ofList cs) ↔ ∀ c ∈ cs, isInline c = true := by
  rw [Inline, String.toList_ofList]

theorem inline_append : Inline (s ++ s') ↔ Inline s ∧ Inline s' := by
  simp only [Inline, String.toList_append, List.forall_mem_append]

/-- A terminator of other characters ends the text, and there alone. -/
theorem Inline.isLine {mark : List Char} (h : Inline s) (hmark : mark ≠ [])
    (hother : ∀ c ∈ mark, isInline c = false) : IsLine mark s.toList :=
  isLine_of_disjoint hmark fun c hc hmem => Bool.false_ne_true ((hother c hc).symm.trans (h c hmem))

theorem isInline_of_isDigit {c : Char} (h : c.isDigit = true) : isInline c = true := by
  obtain ⟨hlow, hhigh⟩ : 48 ≤ c.toNat ∧ c.toNat ≤ 57 := Char.isDigit_iff_toNat.mp h
  refine isInline_iff.mpr ⟨by omega, by omega, ?_⟩
  rintro rfl
  exact absurd h (by decide)

end Text

open Text

/-! ### Numbers -/

namespace Decimal

theorem isInline_of_mem_toDigits {n : Nat} {c : Char} (h : c ∈ Nat.toDigits 10 n) :
    isInline c = true := isInline_of_isDigit (Nat.isDigit_of_mem_toDigits (by decide) (by decide) h)

theorem inline_decimalText (n : Nat) : Inline (decimalText n) :=
  inline_ofList.mpr fun _ => isInline_of_mem_toDigits

theorem inline_intText (i : Int) : Inline (intText i) := by
  rw [intText]
  split
  · exact inline_append.mpr ⟨by decide, inline_decimalText _⟩
  · exact inline_decimalText _

theorem isInline_of_mem_zeros {n : Int} {c : Char} (h : c ∈ zeros n) : isInline c = true := by
  obtain rfl := List.eq_of_mem_replicate h
  decide

theorem isInline_of_mem_positionalText {ds : List Char} (hds : ∀ c ∈ ds, isInline c = true)
    (point : Int) : ∀ c ∈ positionalText false ds point, isInline c = true := by
  have hpoint : isInline '.' = true := by decide
  rw [positionalText]
  split
  · rw [List.forall_mem_cons, List.forall_mem_cons, List.forall_mem_append]
    exact ⟨by decide, hpoint, fun _ => isInline_of_mem_zeros, hds⟩
  · split
    · rw [List.forall_mem_append, List.forall_mem_append]
      exact ⟨⟨hds, fun _ => isInline_of_mem_zeros⟩, nofun⟩
    · rw [List.forall_mem_append, List.forall_mem_cons]
      exact ⟨fun c hc => hds c (List.mem_of_mem_take hc), hpoint,
        fun c hc => hds c (List.mem_of_mem_drop hc)⟩

theorem inline_plain_text (x : Float) : Inline (Layout.plain.text x) := by
  rw [Layout.text]
  split
  · decide
  · split <;> decide
  · rw [inline_ofList, List.forall_mem_append]
    refine ⟨?_, isInline_of_mem_positionalText (fun _ => isInline_of_mem_toDigits) _⟩
    split
    · exact List.forall_mem_singleton.mpr (by decide)
    · exact nofun

end Decimal

/-- Only a text is written with other characters. -/
theorem Value.inline_toWire {value : Value} (h : ∀ s, value = .text s → Inline s) :
    Inline value.toWire := by
  cases value with
  | bool b => cases b <;> decide
  | int i => exact Decimal.inline_intText i.toInt
  | float x => exact Decimal.inline_plain_text x
  | text s => exact h s rfl

end InstrumentControl
