import InstrumentControl.Proofs.Decimal.Literal
import InstrumentControl.Proofs.Decimal.Nearest
import InstrumentControl.Response

/-! Integers read from responses.  An integer literal of 64 bits is read as what it writes.  Every other
literal is rounded to a double first: it is an integer if that double is one, and beyond the 64-bit
integers it is the last of them.  A number of few digits is not changed by this, so it is read as
itself or refused. -/

namespace InstrumentControl

namespace Decimal

variable {x : Float} {s : List Char} {q r : ℚ} {z : Int} {n : Int64}

/-! ### Literals -/

/-- The text writes the number `q` as a literal. -/
def Writes (s : List Char) (q : ℚ) : Prop :=
  ∃ negative c e, IsLiteral s negative c e ∧ q = signed negative (c * 10 ^ e)

theorem IsInteger.writes (h : IsInteger s z) : Writes s z := by
  obtain ⟨negative, c, hliteral, rfl⟩ := h.isLiteral
  refine ⟨negative, c, 0, hliteral, ?_⟩
  cases negative <;> simp [signed]

theorem Writes.unique (hq : Writes s q) (hr : Writes s r) : q = r := by
  obtain ⟨negative, c, e, hliteral, rfl⟩ := hq
  obtain ⟨negative', c', e', hliteral', rfl⟩ := hr
  have hsame := (read?_eq_some.mpr hliteral).symm.trans (read?_eq_some.mpr hliteral')
  cases hsame
  rfl

/-- A literal is rounded to a nearest double. -/
theorem Writes.readFloat (h : Writes s q) : ∃ x, Decimal.readFloat s = .ok x ∧ Rounds x q := by
  obtain ⟨negative, c, e, hliteral, rfl⟩ := h
  refine ⟨ofDecimal negative c e, ?_, rounds_ofDecimal negative c e⟩
  rw [Decimal.readFloat, read?_eq_some.mpr hliteral]
  rfl

/-- Only literals are read as numbers. -/
theorem exists_writes (hread : Decimal.readFloat s = .ok x) (hx : Denotes x r) :
    ∃ q, Writes s q := by
  rw [Decimal.readFloat] at hread
  split at hread
  · next literal hliteral =>
    cases hread
    cases literal with
    | nan =>
      obtain ⟨d, hd, -⟩ := hx
      cases hd
    | infinite negative => exact absurd hx (not_denotes_of_infinite (decode_infinityBits negative))
    | finite negative c e => exact ⟨_, negative, c, e, read?_eq_some.mp hliteral, rfl⟩
  · cases hread

/-! ### Numbers of few digits -/

theorem two_zpow_le_of_ten_pow_le {k : Nat} (hk : k ≤ 300) :
    (2 : ℚ) ^ (-1022 : Int) ≤ 1 / 10 ^ k := by
  have hten : (10 : ℚ) ^ k ≤ 2 ^ 1022 :=
    calc (10 : ℚ) ^ k ≤ 10 ^ (3 * 100) := pow_le_pow_right₀ (by norm_num) hk
      _ = (10 ^ 3) ^ 100 := pow_mul 10 3 100
      _ ≤ (2 ^ 10) ^ 100 := pow_le_pow_left₀ (by norm_num) (by norm_num) 100
      _ = 2 ^ (10 * 100) := (pow_mul 2 10 100).symm
      _ ≤ 2 ^ 1022 := pow_le_pow_right₀ (by norm_num) (by norm_num)
  rw [zpow_neg, one_div]
  exact inv_anti₀ (by positivity) (by exact_mod_cast hten)

theorem abs_lt_of_few_digits {c k : Nat} (hc : c < 2 ^ 53) (hq : |q| = c / 10 ^ k) :
    |q| < 2 ^ 53 := by
  have hc' : (c : ℚ) < 2 ^ 53 := by exact_mod_cast hc
  rw [hq]
  exact (div_le_self (by positivity) (one_le_pow₀ (by norm_num))).trans_lt hc'

theorem natAbs_lt (h : |(z : ℚ)| < 2 ^ 53) : z.natAbs < 2 ^ 53 := by
  rw [← Int.cast_abs, ← Int.natCast_natAbs] at h
  exact_mod_cast h

/-- A multiple of `1 / u` that lies less than that from an integer is the integer. -/
theorem eq_of_near {i u : Int} (hu : 0 < u) (hi : q * u = i) (hnear : |q - z| < 1 / u) : q = z := by
  have hu' : (0 : ℚ) < u := by exact_mod_cast hu
  have hless : |q * u - z * u| < 1 := by
    rw [← sub_mul, abs_mul, abs_of_pos hu']
    exact (lt_div_iff₀ hu').mp hnear
  have hsame : i = z * u := by
    rw [hi] at hless
    have hless : |i - z * u| < 1 := by exact_mod_cast hless
    exact sub_eq_zero.mp (Int.abs_lt_one_iff.mp hless)
  rw [hsame, Int.cast_mul] at hi
  exact mul_right_cancel₀ hu'.ne' hi

/-- Rounding makes a decimal of few digits an integer only if it is one: two decimals with `k` digits
after the point are further apart than the double is from the number. -/
theorem Rounds.denotes_iff (h : Rounds x q) {c k : Nat} (hc : c < 2 ^ 53) (hk : k ≤ 300)
    (hq : |q| = c / 10 ^ k) : Denotes x z ↔ q = z := by
  have hten : (0 : ℚ) < 10 ^ k := by positivity
  have hsmall := abs_lt_of_few_digits hc hq
  have hwhole {i : Int} (hi : q = i) : Denotes x i := by
    have hover : |q| < overflow :=
      hsmall.trans (by simpa using two_zpow_lt_overflow (k := 53) (by norm_num))
    rw [hi] at h hover hsmall
    have hi' := natAbs_lt hsmall
    refine h.denotes hover (rounded_eq_self hi' ▸ denotes_ofInt (lt_largest ?_))
    exact_mod_cast hi'
  refine ⟨fun hz => ?_, hwhole⟩
  rcases Nat.eq_zero_or_pos c with rfl | hpos
  · have hzero : q = (0 : Int) := by
      rw [Int.cast_zero, ← abs_eq_zero, hq, Nat.cast_zero, zero_div]
    exact hzero.trans ((hwhole hzero).unique hz)
  · have hlow : (2 : ℚ) ^ (-1022 : Int) ≤ |q| := by
      have hone : (1 : ℚ) ≤ c := by exact_mod_cast hpos
      rw [hq]
      exact (two_zpow_le_of_ten_pow_le hk).trans (div_le_div_of_nonneg_right hone hten.le)
    obtain ⟨i, hi⟩ : ∃ i : Int, q * 10 ^ k = i := by
      rcases abs_choice q with habs | habs
      · refine ⟨c, ?_⟩
        rw [← habs, hq, div_mul_cancel₀ _ hten.ne', Int.cast_natCast]
      · refine ⟨-c, ?_⟩
        rw [← neg_neg q, ← habs, hq, neg_mul, div_mul_cancel₀ _ hten.ne', Int.cast_neg,
          Int.cast_natCast]
    refine eq_of_near (u := 10 ^ k) (by positivity) (by exact_mod_cast hi) ?_
    refine (h.error hz hlow).trans_lt ?_
    push_cast
    rw [hq, div_div, div_lt_div_iff₀ (by positivity) hten, one_mul, mul_comm (10 ^ k : ℚ)]
    exact mul_lt_mul_of_pos_right (by exact_mod_cast hc) hten

end Decimal

namespace ResponseFormat

open Decimal

variable {raw : String} {s : List Char} {n : Int64} {q : ℚ}

theorem readInteger_of_isInteger (h : IsInteger s n.toInt) : readInteger s = some n := by
  rw [readInteger, readInt64?_eq_some.mpr h]

/-- What is no 64-bit integer literal is rounded to a double first. -/
theorem readInteger_of_writes (h : Writes s q) (hnone : ∀ n : Int64, ¬ IsInteger s n.toInt) :
    ∃ x, Rounds x q ∧ readInteger s = (toInt? x).map clampInt64 := by
  obtain ⟨x, hread, hx⟩ := h.readFloat
  refine ⟨x, hx, ?_⟩
  rw [readInteger, readInt64?_eq_none.mpr hnone, hread]
  rfl

theorem exists_writes_of_readInteger (h : readInteger s = some n) : ∃ q, Writes s q := by
  rw [readInteger] at h
  split at h
  · next i hi =>
    exact ⟨_, (readInt64?_eq_some.mp hi).writes⟩
  · obtain ⟨x, hx, hn⟩ := Option.bind_eq_some_iff.mp h
    obtain ⟨z, hz, -⟩ := Option.map_eq_some_iff.mp hn
    cases hread : readFloat s with
    | error e =>
      rw [hread] at hx
      cases hx
    | ok y =>
      rw [hread] at hx
      cases hx
      exact exists_writes hread (toInt?_eq_some.mp hz)

/-- A number of few digits is read as the integer that it is, or refused. -/
theorem readInteger_exact (h : Writes s q) {c k : Nat} (hc : c < 2 ^ 53) (hk : k ≤ 300)
    (hq : |q| = c / 10 ^ k) : readInteger s = some n ↔ q = n.toInt := by
  by_cases hinteger : ∃ n : Int64, IsInteger s n.toInt
  · obtain ⟨i, hi⟩ := hinteger
    rw [readInteger_of_isInteger hi, h.unique hi.writes, Option.some.injEq, Int.cast_inj,
      Int64.toInt_inj]
  · obtain ⟨x, hx, hread⟩ := readInteger_of_writes h (not_exists.mp hinteger)
    rw [hread, Option.map_eq_some_iff]
    simp only [toInt?_eq_some, hx.denotes_iff hc hk hq]
    have hsmall := abs_lt_of_few_digits hc hq
    constructor
    · rintro ⟨z, rfl, hz⟩
      exact congrArg Int.cast ((clampInt64_eq (natAbs_lt hsmall)).mp hz)
    · rintro rfl
      exact ⟨n.toInt, rfl, (clampInt64_eq (natAbs_lt hsmall)).mpr rfl⟩

theorem parse_integer_eq_ok :
    integer.parse raw = .ok (.int n) ↔ readInteger (Text.trim raw.toList) = some n := by
  rw [parse]
  cases readInteger (Text.trim raw.toList) <;> simp

theorem parse_integer_eq_error :
    integer.parse raw = .error .notInteger ↔ readInteger (Text.trim raw.toList) = none := by
  rw [parse]
  cases readInteger (Text.trim raw.toList) <;> simp

/-- Whatever a response is, it is read as an integer only if it is a literal.  A literal that is no
64-bit integer is read as the whole number, if it is one, that its double is, or as the nearest 64-bit
integer.  This is the number itself if that has few digits; then no number with a fraction is read as
an integer.  In the same way a real number is an integer. -/
theorem integer_responses_round_literals (raw : String) (value : Value) :
    let s := Text.trim raw.toList
    ((∀ q, ¬ Writes s q) → integer.parse raw = .error .notInteger) ∧
    (∀ n : Int64, IsInteger s n.toInt → integer.parse raw = .ok (.int n)) ∧
    (∀ q, Writes s q → (∀ n : Int64, ¬ IsInteger s n.toInt) → ∃ x, Rounds x q ∧
      (∀ z : Int, Denotes x z → integer.parse raw = .ok (.int (clampInt64 z))) ∧
      ((∀ z : Int, ¬ Denotes x z) → integer.parse raw = .error .notInteger)) ∧
    (∀ q, Writes s q → ∀ c k : Nat, c < 2 ^ 53 → k ≤ 300 → |q| = c / 10 ^ k →
      ∀ n : Int64, integer.parse raw = .ok (.int n) ↔ q = n.toInt) ∧
    ∀ n, value.integer? = some n ↔
      value = .int n ∨ ∃ x, ∃ z : Int, value = .float x ∧ Denotes x z ∧ n = clampInt64 z := by
  intro s
  refine ⟨fun hnone => ?_, fun n hn => ?_, fun q hq hnone => ?_, fun q hq c k hc hk habs n => ?_,
    fun n => ?_⟩
  · rw [parse_integer_eq_error]
    refine Option.eq_none_iff_forall_ne_some.mpr fun n hn => ?_
    obtain ⟨q, hq⟩ := exists_writes_of_readInteger hn
    exact hnone q hq
  · exact parse_integer_eq_ok.mpr (readInteger_of_isInteger hn)
  · obtain ⟨x, hx, hread⟩ := readInteger_of_writes hq hnone
    refine ⟨x, hx, fun z hz => ?_, fun hfraction => ?_⟩
    · rw [parse_integer_eq_ok, hread, toInt?_eq_some.mpr hz]
      rfl
    · rw [parse_integer_eq_error, hread, Option.map_eq_none_iff]
      exact Option.eq_none_iff_forall_ne_some.mpr fun z hz => hfraction z (toInt?_eq_some.mp hz)
  · rw [parse_integer_eq_ok]
    exact readInteger_exact hq hc hk habs
  · cases value with
    | float x =>
      simp only [Value.integer?, Option.map_eq_some_iff, toInt?_eq_some]
      constructor
      · rintro ⟨z, hz, rfl⟩
        exact .inr ⟨x, z, rfl, hz, rfl⟩
      · rintro (h | ⟨_, z, ⟨⟩, hz, rfl⟩)
        · cases h
        · exact ⟨z, hz, rfl⟩
    | int i => simp [Value.integer?]
    | bool b => simp [Value.integer?]
    | text s => simp [Value.integer?]

theorem integer_responses_round_literals_exponent :
    Writes (Text.trim " 1.50e2\r".toList) (signed false ((150 : Nat) * 10 ^ (0 : Int))) ∧
      integer.parse " 1.50e2\r" = .ok (.int 150) := by
  have hwrites : Writes (Text.trim " 1.50e2\r".toList) (signed false ((150 : Nat) * 10 ^ (0 : Int))) :=
    ⟨false, 150, 0, read?_eq_some.mp (by decide), rfl⟩
  have hinteger : (150 : Int64).toInt = 150 := by decide
  refine ⟨hwrites, ((integer_responses_round_literals " 1.50e2\r" (.int 0)).2.2.2.1 _ hwrites 150 0
    (by norm_num) (by norm_num) ?_ 150).mpr ?_⟩
  · norm_num [signed]
  · rw [hinteger]
    norm_num [signed]

/-- Beyond the 64-bit integers a literal is read as the last of them, and one of many digits as an
integer next to it. -/
theorem integer_responses_saturate :
    integer.parse "1e300" = .ok (.int 9223372036854775807) ∧
    integer.parse "9223372036854775808" = .ok (.int 9223372036854775807) ∧
    integer.parse "9007199254740993.0" = .ok (.int 9007199254740992) ∧
    integer.parse "0.99999999999999999999" = .ok (.int 1) ∧
    (Value.float (ofDecimal false 1 300)).integer? = some 9223372036854775807 := by
  simp only [parse_integer_eq_ok]
  decide +kernel

end ResponseFormat

end InstrumentControl
