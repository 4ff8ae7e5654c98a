import InstrumentControl.Proofs.Decimal.Literal
import InstrumentControl.Proofs.Decimal.Whole
import InstrumentControl.Value

/-! Texts of numbers read back.  The shortest decimal of a double rounds to the double, and a reader
that rounds what is written there finds the double again.  Integers of 64 bits are read as the double
next to them. -/

namespace InstrumentControl.Decimal

variable {x : Float} {m num den : Nat} {e t : Int} {v : ℚ} {negative : Bool}

/-! ### What rounds to a double -/

/-- A number with at most 53 bits before a place, and with 53 unless no place comes after. -/
theorem exists_place (hv : 0 < v) (hleast : -1074 ≤ t) (hhigh : v / 2 ^ t < 2 ^ 53)
    (hlow : t = -1074 ∨ (2 : ℚ) ^ 52 ≤ v / 2 ^ t) :
    ∃ l : Int, (2 : ℚ) ^ l ≤ v ∧ v < 2 ^ (l + 1) ∧ max (l - 52) (-1074) = t := by
  have hunit : (0 : ℚ) < 2 ^ t := by positivity
  have hscale (k : Nat) : (2 : ℚ) ^ (k : Int) * 2 ^ t = 2 ^ (k + t) :=
    (zpow_add₀ (by norm_num) _ _).symm
  have hfirst : (2 : ℚ) ^ Int.log 2 v ≤ v := by
    exact_mod_cast Int.zpow_log_le_self Nat.one_lt_two hv
  have hnext : v < (2 : ℚ) ^ (Int.log 2 v + 1) := by
    exact_mod_cast Int.lt_zpow_succ_log_self Nat.one_lt_two v
  refine ⟨Int.log 2 v, hfirst, hnext, ?_⟩
  rw [div_lt_iff₀ hunit, ← zpow_natCast, hscale] at hhigh
  have hbits := (zpow_lt_zpow_iff_right₀ (by norm_num)).mp (hfirst.trans_lt hhigh)
  push_cast at hbits
  rcases hlow with rfl | hlow
  · omega
  · rw [le_div_iff₀ hunit, ← zpow_natCast, hscale] at hlow
    have hleading := (zpow_lt_zpow_iff_right₀ (by norm_num)).mp (hlow.trans_lt hnext)
    push_cast at hleading
    omega

theorem lt_overflow_of_holds (hm : m ≠ 0) (hm53 : m < 2 ^ 53) (he : e ≤ 971)
    (h : (Interval.around m e).Holds v) : v < overflow := by
  obtain ⟨-, hright, htie⟩ := Interval.holds_bounds hm h
  have hscale : (m + 1 / 2 : ℚ) * 2 ^ e ≤ (m + 1 / 2) * 2 ^ (971 : Int) :=
    mul_le_mul_of_nonneg_left (zpow_le_zpow_right₀ (by norm_num) he) (by positivity)
  rcases htie with heven | ⟨-, hless⟩
  · have hm53 : (m : ℚ) + 1 < 2 ^ 53 := by exact_mod_cast (by omega : m + 1 < 2 ^ 53)
    calc v ≤ (m + 1 / 2) * 2 ^ e := hright
      _ ≤ (m + 1 / 2) * 2 ^ (971 : Int) := hscale
      _ < overflow := mul_lt_mul_of_pos_right (by linarith) (by positivity)
  · have hm53 : (m : ℚ) + 1 ≤ 2 ^ 53 := by exact_mod_cast hm53
    calc v < (m + 1 / 2) * 2 ^ e := hless
      _ ≤ (m + 1 / 2) * 2 ^ (971 : Int) := hscale
      _ ≤ overflow := mul_le_mul_of_nonneg_right (by linarith) (by positivity)

theorem le_of_holds (hm : m ≠ 0) (he : -1074 ≤ e) (h : (Interval.around m e).Holds v) :
    2 ^ (-1074 : Int) ≤ 2 * v := by
  have hleft := (Interval.holds_bounds hm h).1
  have hbelow : (Interval.below m e : ℚ) ≤ 2 := by exact_mod_cast Interval.below_le_two m e
  have hm : (1 : ℚ) ≤ m := by exact_mod_cast Nat.one_le_iff_ne_zero.mpr hm
  have hscale : (2 : ℚ) ^ (-1074 : Int) ≤ 2 ^ e := zpow_le_zpow_right₀ (by norm_num) he
  have hhalf : (1 / 2 : ℚ) * 2 ^ e ≤ ((m : ℚ) - Interval.below m e / 4) * 2 ^ e :=
    mul_le_mul_of_nonneg_right (by linarith) (by positivity)
  linarith

/-- A quotient that rounds to a double is rounded to it. -/
theorem denotes_ofQuotient_of_holds (hx : decode x = .finite ⟨negative, m, e⟩) (hm : m ≠ 0)
    (hnum : 0 < num) (hden : 0 < den) (h : (Interval.around m e).Holds (num / den)) :
    Denotes (ofQuotient negative num den) (signed negative (m * 2 ^ e)) := by
  obtain ⟨hm53, hleast, hleading⟩ := (unpack_of_decode hx).1
  have hcanonical : Dyadic.Canonical ⟨false, m, e⟩ := ⟨hm53, hleast, hleading⟩
  obtain ⟨t, ht⟩ : ∃ t, exponentFor num den = t := ⟨_, rfl⟩
  obtain ⟨hmin, hsmall, hlarge⟩ := exponentFor_bounds hnum hden ht
  obtain ⟨l, hlow, hhigh, hplace⟩ := exists_place (by positivity) hmin hsmall hlarge
  obtain ⟨q, hleft, hright, htie, hq⟩ :=
    exists_multiple_of_holds hm hcanonical h hlow hhigh hplace
  have hsignificand : significandFor num den = q := by
    obtain ⟨hscaled, hquotient⟩ := scaleBy_quotient num den t hden
    rw [← hquotient] at hleft hright htie
    rw [significandFor, ht]
    exact roundHalfEven_eq hscaled hleft hright htie
  rcases decode_ofQuotient negative hnum hden ht hsignificand with
    ⟨m', e', hdecode, -, -, hvalue, -⟩ | ⟨-, hover⟩
  · refine ⟨_, hdecode, ?_⟩
    rw [Dyadic.value_eq_signed, Dyadic.magnitude, hvalue]
    rcases hq with ⟨rfl, rfl⟩ | ⟨rfl, rfl, rfl⟩
    · rfl
    · rw [zpow_add_one₀ (by norm_num)]
      push_cast
      congr 1
      ring
  · exact absurd hover (not_le.mpr (lt_overflow_of_holds hm hm53 (exponent_le_of_decode hx) h))

/-- A decimal that rounds to a double is rounded to it. -/
theorem ofDecimal_of_holds (hx : decode x = .finite ⟨negative, m, e⟩) (hm : m ≠ 0) {c : Nat}
    {k : Int} (h : (Interval.around m e).Holds (c * 10 ^ k)) : ofDecimal negative c k = x := by
  obtain ⟨hm53, hleast, -⟩ := (unpack_of_decode hx).1
  have hdenotes : Denotes (ofDecimal negative c k) (signed negative (m * 2 ^ e)) := by
    rcases ofDecimal_cases negative c k with
      ⟨-, hsmall⟩ | ⟨-, hlarge⟩ | ⟨num, den, hnum, hden, hvalue, hquotient⟩
    · exact absurd (le_of_holds hm hleast h) (not_le.mpr hsmall)
    · exact absurd hlarge (not_le.mpr (lt_overflow_of_holds hm hm53 (exponent_le_of_decode hx) h))
    · rw [hquotient]
      exact denotes_ofQuotient_of_holds hx hm hnum hden (hvalue ▸ h)
  rcases eq_of_beq (hdenotes.beq_iff.mpr ⟨_, hx, Dyadic.value_eq_signed _⟩) with heq | hzero
  · exact heq
  · obtain ⟨-, sign, -, hzero⟩ := hzero
    rw [hzero, decode_ofBits_zero] at hx
    cases hx
    exact absurd rfl hm

/-! ### Texts of doubles -/

theorem isDigits_zeros (n : Int) : IsDigits (zeros n) := fun c hc =>
  List.eq_of_mem_replicate hc ▸ by decide

theorem isLiteral_digits {sign ds : List Char} (hsign : IsSign negative sign) (hds : IsDigits ds)
    (hne : ds ≠ []) : IsLiteral (sign ++ ds) negative (digitsValue 0 ds) 0 := by
  have h := IsLiteral.mk hsign hds .none (by simpa using hne) .none
  simpa using h

theorem isLiteral_point {sign whole ds : List Char} (hsign : IsSign negative sign)
    (hwhole : IsDigits whole) (hds : IsDigits ds) (hne : whole ≠ []) :
    IsLiteral (sign ++ (whole ++ '.' :: ds)) negative (digitsValue 0 (whole ++ ds)) (-ds.length) := by
  have h := IsLiteral.mk hsign hwhole (.some hds) (by simp [hne]) .none
  simpa using h

/-- Digits with a point at its place write the decimal. -/
theorem exists_isLiteral_digits {sign : List Char} (hsign : IsSign negative sign) (d : Scientific) :
    ∃ c k, IsLiteral (sign ++ Layout.plain.digits d) negative c k ∧ (c * 10 ^ k : ℚ) = d.value := by
  obtain ⟨ds, hds⟩ : ∃ ds, Nat.toDigits 10 d.coefficient = ds := ⟨_, rfl⟩
  obtain ⟨point, hpoint⟩ : ∃ point, (ds.length : Int) + d.exponent = point := ⟨_, rfl⟩
  have hdigits : IsDigits ds := hds ▸ isDigits_toDigits d.coefficient
  have hvalue : digitsValue 0 ds = d.coefficient := hds ▸ digitsValue_toDigits d.coefficient
  have hne : ds ≠ [] := hds ▸ Nat.toDigits_ne_nil
  have htext : Layout.plain.digits d = positionalText false ds point := by
    rw [← hpoint, ← hds]
    rfl
  simp only [htext, positionalText, Bool.false_eq_true, if_false, List.append_nil]
  split
  · -- the point stands before all digits
    next hfirst =>
    have hzero : IsDigits ['0'] := isDigits_zeros 1
    refine ⟨_, _, isLiteral_point hsign hzero
      (List.forall_mem_append.mpr ⟨isDigits_zeros (-point), hdigits⟩) (by simp), ?_⟩
    have hcoefficient : digitsValue 0 (['0'] ++ (zeros (-point) ++ ds)) = d.coefficient :=
      (digitsValue_zeros_append 1 _).trans ((digitsValue_zeros_append _ ds).trans hvalue)
    rw [hcoefficient, Scientific.value, zeros, List.length_append, List.length_replicate]
    congr 2
    omega
  · split
    · -- zeros stand between the digits and the point
      next hlast =>
      refine ⟨_, _, isLiteral_digits hsign
        (List.forall_mem_append.mpr ⟨hdigits, isDigits_zeros (point - ds.length)⟩) ?_, ?_⟩
      · simp [hne]
      · have hzeros : point - ds.length = d.exponent := by omega
        rw [digitsValue_append, hvalue, hzeros, zeros, digitsValue_zeros, Scientific.value,
          zpow_eq_pow_toNat (show 0 ≤ d.exponent by omega)]
        simp
    · next hmiddle =>
      have hplace : 0 < point.toNat := by omega
      refine ⟨_, _, isLiteral_point hsign (fun c hc => hdigits c (List.mem_of_mem_take hc))
        (fun c hc => hdigits c (List.mem_of_mem_drop hc)) ?_, ?_⟩
      · rw [Ne, List.take_eq_nil_iff, not_or]
        exact ⟨by omega, hne⟩
      · rw [List.take_append_drop, hvalue, Scientific.value, List.length_drop]
        congr 2
        omega

/-- The text of a finite double reads back as the double. -/
theorem readFloat_plain_text (hx : isFinite x = true) :
    readFloat (Layout.plain.text x).toList = .ok x := by
  obtain ⟨⟨negative, m, e⟩, hdecode⟩ := isFinite_iff.mp hx
  have hm53 := (unpack_of_decode hdecode).1.significand
  have hsign : IsSign negative (if negative then ['-'] else []) := by
    cases negative
    · exact .none
    · exact .minus
  obtain ⟨d, hd⟩ : ∃ d, (if m = 0 then ⟨0, 0⟩ else shortest .up m e : Scientific) = d := ⟨_, rfl⟩
  obtain ⟨c, k, hliteral, hvalue⟩ := exists_isLiteral_digits hsign d
  have htext : (Layout.plain.text x).toList =
      (if negative then ['-'] else []) ++ Layout.plain.digits d := by
    rw [Layout.text, hdecode, ← hd]
    exact String.toList_ofList
  rw [htext, readFloat, read?_eq_some.mpr hliteral]
  show Except.ok (ofDecimal negative c k) = _
  congr 1
  by_cases hm : m = 0
  · subst hm
    have hc : c = 0 := by
      have hten : (10 : ℚ) ^ k ≠ 0 := by positivity
      simpa [← hd, Scientific.value, hten] using hvalue
    rw [hc, eq_zero_of_decode hdecode]
    rfl
  · rw [← hd, if_neg hm] at hvalue
    exact ofDecimal_of_holds hdecode hm (hvalue ▸ shortest_holds hm hm53 .up e)

/-! ### Texts of integers -/

theorem isLiteral_intText (i : Int) : IsLiteral (intText i).toList (i < 0) i.natAbs 0 := by
  have h (negative : Bool) {sign : List Char} (hsign : IsSign negative sign) :
      IsLiteral (sign ++ Nat.toDigits 10 i.natAbs) negative i.natAbs 0 := by
    have h := isLiteral_digits hsign (isDigits_toDigits i.natAbs) Nat.toDigits_ne_nil
    rwa [digitsValue_toDigits] at h
  by_cases hi : i < 0
  · simpa [intText, decimalText, hi] using h true .minus
  · simpa [intText, decimalText, hi] using h false .none

/-- The text of an integer is read as the double that is nearest to it. -/
theorem readFloat_intText (i : Int64) :
    readFloat (intText i.toInt).toList = .ok (ofInt i.toInt) := by
  rw [readFloat, read?_eq_some.mpr (isLiteral_intText i.toInt)]
  show Except.ok (ofDecimal _ _ 0) = _
  by_cases hzero : i.toInt = 0
  · rw [hzero]
    rfl
  · have habs : i.toInt.natAbs ≠ 0 := Int.natAbs_ne_zero.mpr hzero
    have hsmall : i.toInt.natAbs < 10 ^ 19 := by
      have hbound : i.toInt.natAbs ≤ 2 ^ 63 := by exact_mod_cast natAbs_toInt_le i
      omega
    have hplaces : digitCount i.toInt.natAbs ≤ 19 := by
      rw [digitCount, if_neg habs]
      exact (Nat.length_toDigits_le_iff (by decide) (by decide)).mpr hsmall
    rw [ofDecimal, if_neg (by simp; omega), if_neg (by omega), if_pos (Int.le_refl 0)]
    simp [ofInt]

end InstrumentControl.Decimal

namespace InstrumentControl.Value

open Decimal

/-- The token of a finite number reads back as the number. -/
theorem readFloat_toWire {value : Value} {x : Float} (h : value.number? = some x)
    (hx : isFinite x = true) : readFloat value.toWire.toList = .ok x := by
  cases value with
  | int i =>
    cases h
    exact readFloat_intText i
  | float y =>
    cases h
    exact readFloat_plain_text hx
  | _ => cases h

end InstrumentControl.Value
