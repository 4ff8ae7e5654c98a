import InstrumentControl.Text.Blank
import Mathlib.Data.List.DropRight

/-! Trimming.  Blanks at the ends of a text do not matter, and what was trimmed stays as it is.  A
text is what trimming leaves of it, between blanks. -/

namespace InstrumentControl.Text

/-- Nothing but blanks. -/
abbrev Blank (s : List Char) : Prop := ∀ c ∈ s, isBlank c = true

/-- No blanks at all. -/
abbrev Solid (s : List Char) : Prop := ∀ c ∈ s, isBlank c = false

-- Decided over the characters of the text, and not, as there are finitely many, over all of them.
instance decidableBlank (s : List Char) : Decidable (Blank s) := List.decidableBAll _ s

instance decidableSolid (s : List Char) : Decidable (Solid s) := List.decidableBAll _ s

variable {s t w : List Char}

theorem trimStart_append_of_blank (hw : Blank w) : trimStart (w ++ s) = trimStart s :=
  List.dropWhile_append_of_pos hw

theorem trimEnd_append_of_blank (hw : Blank w) : trimEnd (s ++ w) = trimEnd s := by
  have hreverse : Blank w.reverse := fun c hc => hw c (List.mem_reverse.mp hc)
  rw [trimEnd, trimEnd, List.reverse_append, List.dropWhile_append_of_pos hreverse]

theorem trimStart_append (h : trimStart s ≠ []) : trimStart (s ++ t) = trimStart s ++ t := by
  rw [trimStart, trimStart, List.dropWhile_append, if_neg]
  exact fun hnil => h (List.isEmpty_iff.mp hnil)

/-- What does not end in a blank stays, whatever follows it. -/
theorem trimEnd_append_of_trimmed (hs : trimEnd s = s) : trimEnd (s ++ t) = s ++ trimEnd t := by
  rw [trimEnd, trimEnd, List.reverse_append, List.dropWhile_append]
  split
  · next hblank =>
    have hs' : s.reverse.dropWhile isBlank = s.reverse := List.reverse_eq_iff.mp hs
    rw [List.isEmpty_iff.mp hblank, hs', List.reverse_reverse, List.reverse_nil, List.append_nil]
  · rw [List.reverse_append, List.reverse_reverse]

theorem exists_blank_trimStart (s : List Char) : ∃ w, Blank w ∧ s = w ++ trimStart s :=
  ⟨s.takeWhile isBlank, fun _ => List.mem_takeWhile_imp, List.takeWhile_append_dropWhile.symm⟩

theorem exists_blank_trimEnd (s : List Char) : ∃ w, Blank w ∧ s = trimEnd s ++ w :=
  ⟨s.rtakeWhile isBlank, fun _ => List.mem_rtakeWhile_imp, List.rdropWhile_append_rtakeWhile.symm⟩

theorem exists_blank_trim (s : List Char) :
    ∃ w w', Blank w ∧ Blank w' ∧ s = w ++ trim s ++ w' := by
  obtain ⟨w, hw, hstart⟩ := exists_blank_trimStart s
  obtain ⟨w', hw', hend⟩ := exists_blank_trimEnd (trimStart s)
  refine ⟨w, w', hw, hw', ?_⟩
  rw [List.append_assoc, trim, ← hend]
  exact hstart

@[simp] theorem trim_trimEnd (s : List Char) : trim (trimEnd s) = trim s := by
  obtain ⟨w, hw, hs⟩ := exists_blank_trimEnd s
  by_cases hblank : trimStart (trimEnd s) = []
  · -- the text is blank as a whole
    have hnil : trimStart s = [] := by
      rw [trimStart, List.dropWhile_eq_nil_iff] at hblank ⊢
      rw [hs]
      exact fun c hc => (List.mem_append.mp hc).elim (hblank c) (hw c)
    rw [trim, trim, hblank, hnil]
  · conv_rhs => rw [hs]
    rw [trim, trim, trimStart_append hblank, trimEnd_append_of_blank hw]

@[simp] theorem trim_trimStart (s : List Char) : trim (trimStart s) = trim s := by
  rw [trim, trim, trimStart, trimStart, List.dropWhile_idempotent]

@[simp] theorem trim_trim (s : List Char) : trim (trim s) = trim s := by
  rw [show trim s = trimEnd (trimStart s) from rfl, trim_trimEnd, trim_trimStart]
  rfl

theorem trim_append_left (hw : Blank w) : trim (w ++ s) = trim s := by
  rw [trim, trim, trimStart_append_of_blank hw]

theorem trim_append_right (hw : Blank w) : trim (s ++ w) = trim s := by
  rw [← trim_trimEnd, trimEnd_append_of_blank hw, trim_trimEnd]

/-- A trimmed text begins with no blank, and ends with none. -/
theorem trimStart_of_trim (h : trim s = s) : trimStart s = s := by
  have hsuffix : trimStart s <:+ s := List.dropWhile_suffix isBlank
  have hprefix : trim s <+: trimStart s := List.rdropWhile_prefix isBlank _
  rw [h] at hprefix
  exact hsuffix.eq_of_length_le hprefix.length_le

theorem trimEnd_of_trim (h : trim s = s) : trimEnd s = s := by
  rw [trim, trimStart_of_trim h] at h
  exact h

/-- After a text that is trimmed, only the blanks at the end go. -/
theorem trim_append_of_trimmed (h : trim s = s) (hne : s ≠ []) (t : List Char) :
    trim (s ++ t) = s ++ trimEnd t := by
  have hstart := trimStart_of_trim h
  rw [trim, trimStart_append (hstart.symm ▸ hne), hstart,
    trimEnd_append_of_trimmed (trimEnd_of_trim h)]

theorem trimEnd_eq_nil : trimEnd s = [] ↔ Blank s := List.rdropWhile_eq_nil_iff

theorem trim_isInfix (s : List Char) : trim s <:+: s :=
  (List.rdropWhile_prefix isBlank _).isInfix.trans (List.dropWhile_suffix isBlank).isInfix

theorem trimStart_cons_eq_self {c : Char} : trimStart (c :: s) = c :: s ↔ isBlank c = false := by
  cases hc : isBlank c with
  | false => simp [trimStart, hc]
  | true =>
    have hle : (trimStart s).length ≤ s.length := (List.dropWhile_suffix isBlank).length_le
    refine iff_of_false (fun h => ?_) (by simp)
    rw [trimStart, List.dropWhile_cons_of_pos hc, ← trimStart] at h
    rw [h, List.length_cons] at hle
    omega

/-- What begins a text that begins with no blank does not begin with one either. -/
theorem trimStart_of_append (h : trimStart (s ++ t) = s ++ t) : trimStart s = s := by
  cases s with
  | nil => rfl
  | cons c s => exact trimStart_cons_eq_self.mpr (trimStart_cons_eq_self.mp h)

theorem Solid.trimStart_append (hs : Solid s) (hne : s ≠ []) (t : List Char) :
    trimStart (s ++ t) = s ++ t := by
  obtain ⟨c, s, rfl⟩ := List.exists_cons_of_ne_nil hne
  exact trimStart_cons_eq_self.mpr (hs c List.mem_cons_self)

theorem Solid.trimEnd_append (hs : Solid s) (hne : s ≠ []) (t : List Char) :
    trimEnd (t ++ s) = t ++ s := by
  have hreverse : Solid s.reverse := fun c hc => hs c (List.mem_reverse.mp hc)
  have hstart := hreverse.trimStart_append (by simpa using hne) t.reverse
  rw [trimEnd, List.reverse_append]
  exact (congrArg List.reverse hstart).trans (by simp)

/-- Before a text without blanks, only the blanks at the beginning go. -/
theorem Solid.trim_append (hs : Solid s) (hne : s ≠ []) (t : List Char) :
    trim (t ++ s) = trimStart t ++ s := by
  obtain ⟨w, hw, ht⟩ := exists_blank_trimStart t
  have hstart : trimStart (t ++ s) = trimStart t ++ s := by
    by_cases hnil : trimStart t = []
    · rw [hnil, List.append_nil] at ht
      rw [hnil, ht, trimStart_append_of_blank hw]
      simpa using hs.trimStart_append hne []
    · exact Text.trimStart_append hnil
  rw [trim, hstart, hs.trimEnd_append hne]

end InstrumentControl.Text
