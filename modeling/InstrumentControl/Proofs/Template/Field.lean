import InstrumentControl.Template.Field
import Mathlib.Data.List.TakeWhile

/-! What becomes of a token in a field.  A field without a specification takes every token as it is.
A field that takes one token takes another, unless it has to pad it in front of its sign: what takes
a single character fails at most on the empty token. -/

namespace InstrumentControl.Template.Field

variable {f : Field} {body : List Char}

theorem read_plain (hne : body ≠ []) (hplain : ':' ∉ body) :
    read body = .ok { key := String.ofList body } := by
  have hall : ∀ c ∈ body, decide (c ≠ ':') = true := by
    intro c hc
    simpa using fun h : c = ':' => hplain (h ▸ hc)
  have htake : body.takeWhile (fun c => decide (c ≠ ':')) = body :=
    List.takeWhile_eq_self_iff.mpr hall
  have hdrop : body.dropWhile (fun c => decide (c ≠ ':')) = [] :=
    List.dropWhile_eq_nil_iff.mpr hall
  simp only [read, htake, hdrop, List.isEmpty_iff, hne, if_false]
  rfl

theorem place_plain (key : String) (token : List Char) :
    ({ key } : Field).place token = .ok token := by
  simp [place, admitsText, admitsText.rest, bind, Except.bind, pure, Except.pure]

/-- The token as far as the precision lets it through. -/
def cut (f : Field) (token : List Char) : List Char :=
  match f.precision with
  | some n => token.take n
  | none => token

/-- What the token falls short of the width. -/
def missing (f : Field) (token : List Char) : Nat := f.width.getD 0 - (f.cut token).length

/-- A field whose type is one for texts takes a token, unless it has to pad it in front of its
sign. -/
theorem place_cases (h : f.admitsText = .ok ()) (token : List Char) :
    (∃ out, f.place token = .ok out ∧ ¬ (f.align = .signAware ∧ 0 < f.missing token)) ∨
      f.place token = .error .signAware ∧ f.align = .signAware ∧ 0 < f.missing token := by
  by_cases hmissing : f.missing token = 0
  · have hplace : f.place token = .ok (f.cut token) := by
      rw [place, h]
      exact if_pos hmissing
    exact .inl ⟨_, hplace, fun hpad => by omega⟩
  · have hpos : 0 < f.missing token := Nat.pos_of_ne_zero hmissing
    rw [place, h]
    cases halign : f.align with
    | signAware => exact .inr ⟨if_neg hmissing, rfl, hpos⟩
    | left | right | center => exact .inl ⟨_, if_neg hmissing, by simp⟩

theorem admitsText_of_place {out : List Char} (h : f.place token = .ok out) :
    f.admitsText = .ok () := by
  cases hadmits : f.admitsText with
  | ok done => rfl
  | error fault =>
    rw [place, hadmits] at h
    cases h

/-- The precision lets only a part of the token through. -/
def Cuts (f : Field) (token : List Char) : Prop := ∃ n, f.precision = some n ∧ n < token.length

theorem cut_eq_self {token : List Char} (h : ¬ f.Cuts token) : f.cut token = token := by
  cases hprecision : f.precision with
  | none => simp only [cut, hprecision]
  | some n =>
    have hlength : token.length ≤ n := by
      by_contra hlong
      exact h ⟨n, hprecision, Nat.lt_of_not_le hlong⟩
    simp only [cut, hprecision, List.take_of_length_le hlength]

/-- What is laid out is the cut token between padding. -/
theorem exists_padding_of_place {token out : List Char} (h : f.place token = .ok out) :
    ∃ left right, left + right = f.missing token ∧
      out = List.replicate left f.fill ++ f.cut token ++ List.replicate right f.fill := by
  have hadmits := admitsText_of_place h
  by_cases hmissing : f.missing token = 0
  · have hplace : f.place token = .ok (f.cut token) := by
      rw [place, hadmits]
      exact if_pos hmissing
    rw [hplace] at h
    cases h
    exact ⟨0, 0, hmissing.symm, by simp⟩
  · rw [place, hadmits] at h
    replace h := (if_neg hmissing).symm.trans h
    cases halign : f.align with
    | left =>
      rw [halign] at h
      cases h
      exact ⟨0, f.missing token, by omega, rfl⟩
    | right =>
      rw [halign] at h
      cases h
      exact ⟨f.missing token, 0, rfl, (List.append_nil _).symm⟩
    | center =>
      rw [halign] at h
      cases h
      exact ⟨f.missing token / 2, f.missing token - f.missing token / 2, by omega, rfl⟩
    | signAware =>
      rw [halign] at h
      cases h

/-- The field pads in front of the sign up to one character, which only the empty token falls short
of. -/
def NeedsSign (f : Field) : Prop := f.align = .signAware ∧ f.width = some 1

theorem missing_eq_zero {c : Char} (h : f.missing [c] = 0) (token : List Char) :
    f.missing token = 0 ∨ token = [] ∧ f.width = some 1 := by
  unfold missing cut at *
  cases hwidth : f.width with
  | none => simp
  | some width =>
    rw [hwidth] at h
    -- cutting leaves one character of a token that has one, unless it cuts all of them
    cases token with
    | nil => cases hprecision : f.precision <;> simp_all <;> omega
    | cons d token => cases hprecision : f.precision <;> simp_all <;> omega

/-- What takes one character takes every other token, but for the empty one in a field that pads in
front of the sign. -/
theorem exists_place_of_place {c : Char} {out : List Char} (h : f.place [c] = .ok out)
    (token : List Char) : (∃ out, f.place token = .ok out) ∧ ¬ (token = [] ∧ f.NeedsSign) ∨
      f.place token = .error .signAware ∧ token = [] ∧ f.NeedsSign := by
  have hadmits := admitsText_of_place h
  have hchar : ¬ (f.align = .signAware ∧ 0 < f.missing [c]) := by
    rcases place_cases hadmits [c] with ⟨-, -, hpad⟩ | ⟨hfail, -⟩
    · exact hpad
    · rw [h] at hfail
      cases hfail
  rcases place_cases hadmits token with ⟨out', hout', hpad⟩ | ⟨hfail, halign, hmissing⟩
  · refine .inl ⟨⟨out', hout'⟩, fun ⟨hempty, halign, hwidth⟩ => hpad ⟨halign, ?_⟩⟩
    subst hempty
    cases hprecision : f.precision <;> simp [missing, cut, hwidth, hprecision]
  · have hzero : f.missing [c] = 0 := by
      by_contra hne
      exact hchar ⟨halign, Nat.pos_of_ne_zero hne⟩
    rcases missing_eq_zero hzero token with hnone | ⟨hempty, hwidth⟩
    · omega
    · exact .inr ⟨hfail, hempty, halign, hwidth⟩

end InstrumentControl.Template.Field
