import InstrumentControl.Text.Affix
import Mathlib.Data.List.Infix

/-! Texts cut at the occurrences of a mark.  `Cuts` says, without a search, which lines a text has:
each ends at the leftmost mark that follows the line before it.  Every text has lines, they are
unique, and `cutAt?` finds the first. -/

namespace InstrumentControl.Text

variable {α : Type}

/-- In the line with the mark after it, the mark occurs at the end and nowhere else. -/
def IsLine (mark line : List α) : Prop :=
  ∀ before after, line ++ mark = before ++ mark ++ after → after = []

/-- The text `s` has the given lines, and `rest` follows the mark of the last. -/
inductive Cuts (mark : List α) : (s : List α) → (lines : List (List α)) → (rest : List α) → Prop
  | rest {s : List α} : ¬ mark <:+: s → Cuts mark s [] s
  | line {line s : List α} {lines : List (List α)} {rest : List α} :
      IsLine mark line → Cuts mark s lines rest →
      Cuts mark (line ++ mark ++ s) (line :: lines) rest

/-- The lines, each with the mark that ends it. -/
def joined (mark : List α) (lines : List (List α)) : List α := lines.flatMap (· ++ mark)

@[simp] theorem joined_nil (mark : List α) : joined mark [] = [] := rfl

@[simp] theorem joined_cons (mark line : List α) (lines : List (List α)) :
    joined mark (line :: lines) = line ++ mark ++ joined mark lines := rfl

@[simp] theorem joined_append (mark : List α) (lines lines' : List (List α)) :
    joined mark (lines ++ lines') = joined mark lines ++ joined mark lines' :=
  List.flatMap_append

/-- A text begins with at most one line. -/
theorem IsLine.unique {mark line line' s s' : List α} (h : IsLine mark line)
    (h' : IsLine mark line') (heq : line ++ mark ++ s = line' ++ mark ++ s') :
    line = line' ∧ s = s' := by
  rcases List.append_eq_append_iff.mp heq with ⟨extra, hline, hs⟩ | ⟨extra, hline, hs⟩
  · have hnil : extra = [] := h' line extra hline
    subst hnil
    rw [List.append_nil] at hline
    exact ⟨(List.append_cancel_right hline).symm, hs⟩
  · have hnil : extra = [] := h line' extra hline
    subst hnil
    rw [List.append_nil] at hline
    exact ⟨List.append_cancel_right hline, hs.symm⟩

/-- Lines at the head of joined lines are the first of these. -/
theorem exists_of_joined_eq_append {mark s : List α} (hmark : mark ≠ [])
    {lines first : List (List α)} (hlines : ∀ line ∈ lines, IsLine mark line)
    (hfirst : ∀ line ∈ first, IsLine mark line)
    (h : joined mark lines = joined mark first ++ s) :
    ∃ later, lines = first ++ later ∧ s = joined mark later := by
  induction first generalizing lines with
  | nil => exact ⟨lines, rfl, h.symm⟩
  | cons line first ih =>
    cases lines with
    | nil => simp [hmark] at h
    | cons line' lines =>
      rw [List.forall_mem_cons] at hlines hfirst
      rw [joined_cons, joined_cons, List.append_assoc (line ++ mark)] at h
      obtain ⟨rfl, hrest⟩ := hlines.1.unique hfirst.1 h
      obtain ⟨later, rfl, hs⟩ := ih hlines.2 hfirst.2 hrest
      exact ⟨later, rfl, hs⟩

/-- A mark ends the line in which its elements do not occur. -/
theorem isLine_of_disjoint {mark line : List α} (hmark : mark ≠ []) (h : ∀ m ∈ mark, m ∉ line) :
    IsLine mark line := by
  intro before after heq
  rw [List.append_assoc] at heq
  rcases List.append_eq_append_iff.mp heq with ⟨extra, -, hs⟩ | ⟨extra, hline, hs⟩
  · have hlength := congrArg List.length hs
    simp only [List.length_append] at hlength
    exact List.length_eq_zero_iff.mp (by omega)
  · cases extra with
    | nil => exact List.append_right_eq_self.mp hs
    | cons m extra =>
      -- the mark begins inside the line
      obtain ⟨first, mark, rfl⟩ := List.exists_cons_of_ne_nil hmark
      obtain rfl : first = m := List.head_eq_of_cons_eq hs
      exact absurd (by simp [hline]) (h first List.mem_cons_self)

theorem isLine_singleton {m : α} {line : List α} (h : m ∉ line) : IsLine [m] line :=
  isLine_of_disjoint (List.cons_ne_nil m []) (List.forall_mem_singleton.mpr h)

namespace Cuts

variable {mark s s' rest rest' : List α} {lines lines' : List (List α)}

theorem unique (h : Cuts mark s lines rest) (h' : Cuts mark s lines' rest') :
    lines = lines' ∧ rest = rest' := by
  induction h generalizing lines' with
  | rest hno =>
    cases h' with
    | rest => exact ⟨rfl, rfl⟩
    | line _ _ => exact absurd ⟨_, _, rfl⟩ hno
  | line hline hcuts ih =>
    generalize hs : _ ++ mark ++ _ = s at h'
    cases h' with
    | rest hno => exact absurd ⟨_, _, hs⟩ hno
    | line hline' hcuts' =>
      obtain ⟨rfl, rfl⟩ := hline.unique hline' hs
      obtain ⟨rfl, rfl⟩ := ih hcuts'
      exact ⟨rfl, rfl⟩

/-- Lines in front of a text are its first lines. -/
theorem prepend {first : List (List α)} (h : Cuts mark s lines rest)
    (hfirst : ∀ line ∈ first, IsLine mark line) :
    Cuts mark (joined mark first ++ s) (first ++ lines) rest := by
  induction first with
  | nil => exact h
  | cons line first ih =>
    have htail := ih fun l hl => hfirst l (List.mem_cons_of_mem line hl)
    rw [joined_cons, List.append_assoc, List.cons_append]
    exact .line (hfirst line List.mem_cons_self) htail

end Cuts

section

variable [DecidableEq α] {mark s before after : List α}

theorem cutAt?_eq_some (h : cutAt? mark s = some (before, after)) :
    s = before ++ mark ++ after ∧ IsLine mark before := by
  induction s generalizing before with
  | nil => simp [cutAt?] at h
  | cons c s ih =>
    rw [cutAt?] at h
    split at h
    · next rest hhead =>
      split at h
      · cases h
      · cases h
        refine ⟨append_of_dropHead? hhead, fun first extra heq => ?_⟩
        have hlen := congrArg List.length heq
        simp only [List.nil_append, List.length_append] at hlen
        exact List.eq_nil_of_length_eq_zero (by omega)
    · next hhead =>
      obtain ⟨⟨front, back⟩, hcut, heq⟩ := Option.map_eq_some_iff.mp h
      cases heq
      obtain ⟨hs, hline⟩ := ih hcut
      refine ⟨by rw [hs]; rfl, fun first extra heq => ?_⟩
      cases first with
      | nil =>
        -- the mark would stand at the head of the text, where the search has looked first
        have hmark : c :: s = mark ++ (extra ++ back) := by
          rw [hs, ← List.append_assoc, ← List.nil_append mark, ← heq]
          rfl
        rw [hmark, dropHead?_append] at hhead
        cases hhead
      | cons d first =>
        rw [List.cons_append, List.cons_append, List.cons_append, List.cons.injEq] at heq
        exact hline first extra heq.2

theorem not_infix_of_cutAt?_eq_none (hmark : mark ≠ []) (h : cutAt? mark s = none) :
    ¬ mark <:+: s := by
  rintro ⟨first, last, rfl⟩
  induction first with
  | nil =>
    obtain ⟨m, mark, rfl⟩ := List.exists_cons_of_ne_nil hmark
    have hhead := dropHead?_append (m :: mark) last
    rw [List.cons_append] at hhead
    simp [cutAt?, hhead] at h
  | cons c first ih =>
    rw [List.cons_append, List.cons_append, cutAt?] at h
    split at h
    · simp [hmark] at h
    · exact ih (Option.map_eq_none_iff.mp h)

/-- Every text has lines when the mark is not empty. -/
theorem exists_cuts (hmark : mark ≠ []) (s : List α) : ∃ lines rest, Cuts mark s lines rest := by
  induction hn : s.length using Nat.strongRecOn generalizing s with
  | ind n ih =>
    cases hcut : cutAt? mark s with
    | none => exact ⟨[], s, .rest (not_infix_of_cutAt?_eq_none hmark hcut)⟩
    | some parts =>
      obtain ⟨line, after⟩ := parts
      obtain ⟨hs, hline⟩ := cutAt?_eq_some hcut
      have hpos := List.length_pos_iff.mpr hmark
      have hlen := congrArg List.length hs
      simp only [List.length_append] at hlen
      obtain ⟨lines, rest, hcuts⟩ := ih after.length (by omega) after rfl
      exact ⟨line :: lines, rest, hs ▸ .line hline hcuts⟩

end

end InstrumentControl.Text
