import InstrumentControl.Link.Scripted
import InstrumentControl.Proofs.Registry.History
import InstrumentControl.Proofs.Response
import InstrumentControl.Registry.Session

/-! Values inferred from free text.  A literal of a 64-bit integer is that integer, and every other
literal is rounded to a double.  So a literal that is too large becomes infinity, but the words for
infinity and for no number stay text: they have no digit, and every literal has one. -/

namespace InstrumentControl

namespace Decimal

variable {x : Float} {q : ℚ} {s : List Char} {negative : Bool} {c : Nat} {e : Int}

/-! ### Words -/

/-- The text is a word for infinity or for no number, in any case and with any sign. -/
inductive IsWord : List Char → Prop
  | mk {negative : Bool} {sign word : List Char} (hsign : IsSign negative sign)
      (hword : String.ofList (word.map Char.toLower) ∈ ["nan", "inf", "infinity"]) :
      IsWord (sign ++ word)

theorem IsWord.no_digit (h : IsWord s) : s.any Char.isDigit = false := by
  obtain @⟨negative, sign, word, hsign, hword⟩ := h
  have hmarks : sign.any Char.isDigit = false := by cases hsign <;> decide
  have hletters : ∀ lower ∈ ["nan", "inf", "infinity"], lower.toList.any Char.isDigit = false := by
    decide
  have hlower := hletters _ hword
  rw [String.toList_ofList, List.any_map, List.any_eq_false] at hlower
  rw [List.any_append, hmarks, Bool.false_or, List.any_eq_false]
  intro c hc hdigit
  apply hlower c hc
  rwa [Function.comp_apply, toLower_of_isDigit hdigit]

theorem IsLiteral.any_isDigit (h : IsLiteral s negative c e) : s.any Char.isDigit = true := by
  obtain @⟨_, sign, whole, ds, fraction, exponent, _, -, hwhole, hfraction, hne, -⟩ := h
  obtain ⟨d, hd⟩ := List.exists_mem_of_ne_nil _ hne
  rw [List.any_eq_true]
  rcases List.mem_append.mp hd with hd | hd
  · exact ⟨d, by simp [hd], hwhole d hd⟩
  · cases hfraction with
    | none => cases hd
    | some hds => exact ⟨d, by simp [hd], hds d hd⟩

/-- What is read as a number is a literal or a word. -/
theorem writes_or_isWord (h : readFloat s = .ok x) : (∃ q, Writes s q) ∨ IsWord s := by
  obtain ⟨⟨negative, word⟩, hsign⟩ : ∃ p, takeSign s = p := ⟨_, rfl⟩
  obtain ⟨sign, hwritten, hs⟩ := takeSign_eq hsign
  have hisWord (hword : String.ofList (word.map Char.toLower) ∈ ["nan", "inf", "infinity"]) :
      IsWord s := hs ▸ .mk hwritten hword
  cases hl : Literal.read? s with
  | none =>
    rw [readFloat, hl] at h
    cases h
  | some l =>
    cases l with
    | finite negative c e => exact .inl ⟨_, negative, c, e, read?_eq_some.mp hl, rfl⟩
    | _ =>
      simp only [Literal.read?, hsign] at hl
      split at hl
      · next hnan =>
        rw [hnan] at hisWord
        exact .inr (hisWord (by decide))
      · split at hl
        · next hinfinity =>
          rw [Bool.or_eq_true, decide_eq_true_eq, decide_eq_true_eq] at hinfinity
          rcases hinfinity with hinf | hinfinity
          · rw [hinf] at hisWord
            exact .inr (hisWord (by decide))
          · rw [hinfinity] at hisWord
            exact .inr (hisWord (by decide))
        · obtain ⟨_, _, _, _, _, -, -, -, -, -, hfinite⟩ := readDecimal_eq_some.mp hl
          cases hfinite

/-- What is read as a number and has a digit is a literal. -/
theorem exists_writes_of_any_isDigit (h : readFloat s = .ok x)
    (hdigit : s.any Char.isDigit = true) : ∃ q, Writes s q := by
  refine (writes_or_isWord h).resolve_right fun hword => ?_
  rw [hword.no_digit] at hdigit
  cases hdigit

theorem Writes.any_isDigit (h : Writes s q) : s.any Char.isDigit = true := by
  obtain ⟨negative, c, e, hliteral, -⟩ := h
  exact hliteral.any_isDigit

theorem not_isWord_boolText (b : Bool) : ¬ IsWord (Value.boolText b).toList := by
  intro h
  obtain ⟨s, hs⟩ : ∃ s, (Value.boolText b).toList = s := ⟨_, rfl⟩
  rw [hs] at h
  obtain ⟨hsign, hword⟩ := h
  cases hsign with
  | none =>
    obtain rfl := hs
    cases b <;> exact absurd hword (by decide)
  | plus => cases b <;> cases hs
  | minus => cases b <;> cases hs

/-! ### Infinity -/

/-- A number is rounded to a finite double unless it is too large. -/
theorem Rounds.isFinite_iff (h : Rounds x q) : isFinite x = true ↔ |q| < overflow := by
  cases h with
  | nearest hr _ hsmall => exact iff_of_true hr.isFinite hsmall
  | infinite hx hlarge =>
    refine iff_of_false (fun hfinite => ?_) (not_lt.mpr hlarge)
    obtain ⟨d, hd⟩ := Decimal.isFinite_iff.mp hfinite
    exact hx d.value ⟨d, hd, rfl⟩

/-- A literal that is too large is read as the infinity of its sign. -/
theorem Writes.decode_of_overflow (h : Writes s q) (hread : Decimal.readFloat s = .ok x)
    (hq : overflow ≤ |q|) : decode x = .infinite (decide (q < 0)) := by
  obtain ⟨negative, c, e, hliteral, rfl⟩ := h
  have hvalue : (0 : ℚ) ≤ c * 10 ^ e := by positivity
  rw [abs_signed, abs_of_nonneg hvalue] at hq
  rw [Decimal.readFloat, read?_eq_some.mpr hliteral] at hread
  cases hread
  have hpos : (0 : ℚ) < c * 10 ^ e := lt_of_lt_of_le (by unfold overflow; positivity) hq
  have hsign : decide (signed negative (c * 10 ^ e) < 0) = negative := by
    cases negative <;> simp [signed, hpos, hvalue]
  rw [hsign]
  exact decode_ofDecimal_of_overflow negative hq

/-- No 64-bit integer is too large for a double. -/
theorem abs_toInt_lt_overflow (n : Int64) : |(n.toInt : ℚ)| < overflow := by
  rw [← Int.cast_abs, ← Int.natCast_natAbs, Int.cast_natCast]
  exact (natAbs_toInt_le n).trans_lt (two_zpow_lt_overflow (k := 63) (by norm_num))

end Decimal

namespace Value

open Decimal

variable {input : String} {x : Float} {q : ℚ}

theorem toWire_of_infinite {negative : Bool} (h : decode x = .infinite negative) :
    (float x).toWire = if negative then "-inf" else "inf" := by
  show Layout.plain.text x = _
  rw [Layout.text, h]

/-! ### What a text stands for -/

theorem infer_of_isInteger {n : Int64} (h : IsInteger (Text.trim input.toList) n.toInt) :
    infer input = int n := by
  simp only [infer, readInt64?_eq_some.mpr h]

theorem infer_of_writes (h : Writes (Text.trim input.toList) q)
    (hnone : ∀ n : Int64, ¬ IsInteger (Text.trim input.toList) n.toInt) :
    ∃ x, infer input = float x ∧ Rounds x q ∧
      (overflow ≤ |q| → decode x = .infinite (decide (q < 0))) := by
  obtain ⟨x, hread, hx⟩ := h.readFloat
  refine ⟨x, ?_, hx, h.decode_of_overflow hread⟩
  simp only [infer, readInt64?_eq_none.mpr hnone, h.any_isDigit, hread, if_true]
  rfl

/-- What writes no number is a truth value or text. -/
theorem infer_of_not_writes (h : ∀ q, ¬ Writes (Text.trim input.toList) q) :
    (∃ b, Text.trim input.toList = (boolText b).toList ∧ infer input = bool b) ∨
      infer input = text input := by
  have hinteger : readInt64? (Text.trim input.toList) = none :=
    readInt64?_eq_none.mpr fun n hn => h _ hn.writes
  have hreal : (if (Text.trim input.toList).any Char.isDigit then
      (readFloat (Text.trim input.toList)).toOption else none) = none := by
    split
    · next hdigit =>
      cases hread : readFloat (Text.trim input.toList) with
      | error e => rfl
      | ok x =>
        obtain ⟨q, hq⟩ := exists_writes_of_any_isDigit hread hdigit
        exact absurd hq (h q)
    · rfl
  simp only [infer, hinteger, hreal]
  split
  · next htrue => exact .inl ⟨true, htrue, rfl⟩
  · split
    · next hfalse => exact .inl ⟨false, hfalse, rfl⟩
    · exact .inr rfl

theorem infer_of_isWord (h : IsWord (Text.trim input.toList)) : infer input = text input := by
  refine (infer_of_not_writes fun q hq => ?_).resolve_left ?_
  · have hdigit := hq.any_isDigit
    rw [h.no_digit] at hdigit
    cases hdigit
  · rintro ⟨b, hb, -⟩
    rw [hb] at h
    exact not_isWord_boolText b h

/-- A real number that is inferred is the double of a literal. -/
theorem exists_writes_of_infer (h : infer input = float x) :
    ∃ q, Writes (Text.trim input.toList) q ∧ Rounds x q := by
  by_cases hinteger : ∃ n : Int64, IsInteger (Text.trim input.toList) n.toInt
  · obtain ⟨n, hn⟩ := hinteger
    rw [infer_of_isInteger hn] at h
    cases h
  · by_cases hwrites : ∃ q, Writes (Text.trim input.toList) q
    · obtain ⟨q, hq⟩ := hwrites
      obtain ⟨y, hy, hrounds, -⟩ := infer_of_writes hq (not_exists.mp hinteger)
      rw [hy] at h
      cases h
      exact ⟨q, hq, hrounds⟩
    · rcases infer_of_not_writes (not_exists.mp hwrites) with ⟨b, -, hb⟩ | htext
      · rw [hb] at h
        cases h
      · rw [htext] at h
        cases h

/-- A number is inferred from a literal only: from one of a 64-bit integer the integer, and from
every other one a nearest double, which is finite unless the number is too large.  Then it is the
infinity of the sign, and goes to the wire as such.  Words for infinity and for no number stay
text. -/
theorem infer_rounds_literals (input : String) :
    (∀ n : Int64, IsInteger (Text.trim input.toList) n.toInt → infer input = int n) ∧
    (∀ q, Writes (Text.trim input.toList) q →
      (∀ n : Int64, ¬ IsInteger (Text.trim input.toList) n.toInt) →
      ∃ x, infer input = float x ∧ Rounds x q ∧ (isFinite x = true ↔ |q| < overflow) ∧
        (overflow ≤ |q| → (infer input).toWire = if q < 0 then "-inf" else "inf")) ∧
    ((∀ q, ¬ Writes (Text.trim input.toList) q) →
      (∃ b, Text.trim input.toList = (boolText b).toList ∧ infer input = bool b) ∨
        infer input = text input) ∧
    (IsWord (Text.trim input.toList) → infer input = text input) ∧
    ((∃ x, infer input = float x ∧ isFinite x = false) ↔
      ∃ q, Writes (Text.trim input.toList) q ∧ overflow ≤ |q|) := by
  refine ⟨fun n => infer_of_isInteger, fun q hq hnone => ?_, infer_of_not_writes, infer_of_isWord,
    ?_, ?_⟩
  · obtain ⟨x, hx, hrounds, hlarge⟩ := infer_of_writes hq hnone
    refine ⟨x, hx, hrounds, hrounds.isFinite_iff, fun hq => ?_⟩
    rw [hx, toWire_of_infinite (hlarge hq)]
    simp only [decide_eq_true_eq]
  · rintro ⟨x, hx, hnot⟩
    obtain ⟨q, hq, hrounds⟩ := exists_writes_of_infer hx
    refine ⟨q, hq, not_lt.mp fun hsmall => ?_⟩
    rw [hrounds.isFinite_iff.mpr hsmall] at hnot
    cases hnot
  · rintro ⟨q, hq, hlarge⟩
    have hnone (n : Int64) : ¬ IsInteger (Text.trim input.toList) n.toInt := by
      intro hn
      rw [hq.unique hn.writes] at hlarge
      exact absurd hlarge (not_le.mpr (abs_toInt_lt_overflow n))
    obtain ⟨x, hx, hrounds, -⟩ := infer_of_writes hq hnone
    refine ⟨x, hx, Bool.eq_false_iff.mpr fun hfinite => ?_⟩
    exact absurd (hrounds.isFinite_iff.mp hfinite) (not_lt.mpr hlarge)

theorem infer_rounds_literals_padded :
    infer " 12 " = int 12 ∧
      (∃ x, infer "\t-2.5e2" = float x ∧ Rounds x (signed true ((25 : Nat) * 10 ^ (1 : Int))) ∧
        isFinite x = true) ∧
      infer "ON " = text "ON " ∧ infer " -Inf" = text " -Inf" := by
  have hinteger : IsInteger (Text.trim " 12 ".toList) (12 : Int64).toInt :=
    readInt64?_eq_some.mp (by decide)
  have hwrites : Writes (Text.trim "\t-2.5e2".toList) (signed true ((25 : Nat) * 10 ^ (1 : Int))) :=
    ⟨true, 25, 1, read?_eq_some.mp (by decide), rfl⟩
  have hnone (n : Int64) : ¬ IsInteger (Text.trim "\t-2.5e2".toList) n.toInt := by
    intro hn
    have hread := readInt64?_eq_some.mpr hn
    rw [show readInt64? (Text.trim "\t-2.5e2".toList) = none by decide] at hread
    cases hread
  have hletters (q : ℚ) : ¬ Writes (Text.trim "ON ".toList) q := by
    intro hq
    have hdigit := hq.any_isDigit
    cases hdigit
  have hword : IsWord (Text.trim " -Inf".toList) := .mk .minus (by decide)
  obtain ⟨x, hx, hrounds, hfinite, -⟩ := (infer_rounds_literals "\t-2.5e2").2.1 _ hwrites hnone
  refine ⟨(infer_rounds_literals " 12 ").1 12 hinteger, ⟨x, hx, hrounds, hfinite.mpr ?_⟩,
    ((infer_rounds_literals "ON ").2.2.1 hletters).resolve_left ?_,
    (infer_rounds_literals " -Inf").2.2.2.1 hword⟩
  · have hsmall : |signed true ((25 : Nat) * 10 ^ (1 : Int))| < 2 ^ (8 : Int) := by
      norm_num [signed]
    exact hsmall.trans (two_zpow_lt_overflow (by norm_num))
  · rintro ⟨b, hb, -⟩
    cases b <;> exact absurd hb (by decide)

/-- A level that takes every value. -/
def plainLevel : Parameter where
  name := "level"
  setter := .template "VOLT \x7bval\x7d"

/-- A literal that is too large for a double is no finite number, and an instrument is set to
infinity by it. -/
theorem large_literal_sent_as_infinity :
    infer "1e400" = float (infinity false) ∧ isFinite (infinity false) = false ∧
      (((Registry.after {} [.parameter plainLevel]).set "level" (infer "1e400")).run
        Scripted.link {}).2.sent = ["VOLT inf"] := by
  decide +kernel

end Value

end InstrumentControl
