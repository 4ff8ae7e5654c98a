import InstrumentControl.Text.Affix
import Mathlib.Data.List.Infix

/-! What is found at the ends and in the middle of a text.  Each search says exactly when it finds
something and what is left then. -/

namespace InstrumentControl.Text

variable {α : Type} [DecidableEq α] {part s rest : List α}

theorem dropHead?_eq_some : dropHead? part s = some rest ↔ s = part ++ rest :=
  ⟨append_of_dropHead?, fun h => h ▸ dropHead?_append part rest⟩

theorem dropHead?_eq_none : dropHead? part s = none ↔ ¬ part <+: s := by
  rw [Option.eq_none_iff_forall_ne_some]
  constructor
  · rintro h ⟨rest, hrest⟩
    exact h rest (dropHead?_eq_some.mpr hrest.symm)
  · intro h rest hrest
    exact h ⟨rest, (append_of_dropHead? hrest).symm⟩

theorem dropTail?_eq_some : dropTail? part s = some rest ↔ s = rest ++ part := by
  rw [dropTail?, Option.map_eq_some_iff]
  constructor
  · rintro ⟨rest', hrest, rfl⟩
    rw [← List.reverse_inj, dropHead?_eq_some.mp hrest, List.reverse_append, List.reverse_reverse]
  · rintro rfl
    exact ⟨rest.reverse, dropHead?_eq_some.mpr (List.reverse_append), List.reverse_reverse rest⟩

theorem dropTail?_eq_none : dropTail? part s = none ↔ ¬ part <:+ s := by
  rw [dropTail?, Option.map_eq_none_iff, dropHead?_eq_none, List.reverse_prefix]

theorem occursIn_iff : occursIn part s = true ↔ part <:+: s := by
  induction s with
  | nil => simp [occursIn]
  | cons c s ih =>
    have hhead : (dropHead? part (c :: s)).isSome = true ↔ part <+: c :: s := by
      rw [← not_iff_not, ← dropHead?_eq_none]
      simp
    rw [occursIn, Bool.or_eq_true, hhead, ih, List.infix_cons_iff]

theorem dropHeads_eq_self (h : ¬ part <+: s) : dropHeads part s = s := by
  rw [dropHeads]
  split
  · rfl
  · next rest hrest => exact absurd ⟨rest, (append_of_dropHead? hrest).symm⟩ h

theorem dropHeads_append (hpart : part ≠ []) (s : List α) :
    dropHeads part (part ++ s) = dropHeads part s := by
  rw [dropHeads]
  split
  · next hnone =>
    rw [dropHead?_append] at hnone
    cases hnone
  · next rest hrest =>
    rw [dropHead?_append] at hrest
    cases hrest
    rw [dif_neg hpart]

/-- All copies at the head of a text are found, one after the other. -/
theorem dropHeads_copies (hpart : part ≠ []) (h : ¬ part <+: s) (count : Nat) :
    dropHeads part ((List.replicate count part).flatten ++ s) = s := by
  induction count with
  | zero => exact dropHeads_eq_self h
  | succ count ih =>
    rw [List.replicate_succ, List.flatten_cons, List.append_assoc, dropHeads_append hpart, ih]

theorem exists_copies_dropHeads (part s : List α) :
    ∃ count, s = (List.replicate count part).flatten ++ dropHeads part s := by
  fun_induction dropHeads part s with
  | case1 s hnone => exact ⟨0, rfl⟩
  | case2 s => exact ⟨0, rfl⟩
  | case3 s rest hrest hne hlt ih =>
    obtain ⟨count, hcount⟩ := ih
    refine ⟨count + 1, ?_⟩
    rw [List.replicate_succ, List.flatten_cons, List.append_assoc, ← hcount]
    exact append_of_dropHead? hrest

end InstrumentControl.Text
