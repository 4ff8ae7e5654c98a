import InstrumentControl.Json.Writer
import InstrumentControl.Proofs.Decimal.Rounding
import InstrumentControl.Proofs.Json.Number

/-! Reals as JSON numbers.  What is not finite is written as nothing.  A finite real is written with
its shortest digits and read by scaling them with a power of ten, so it comes back if the digits and
the power are doubles themselves, and otherwise as what two roundings make of it. -/

namespace InstrumentControl.Json

open Decimal

variable {x : Float} {m : Nat} {e : Int}

/-- The digits that JSON writes for a finite double, without its sign. -/
def digitsOf (significand : Nat) (exponent : Int) : Scientific :=
  if significand = 0 then ⟨0, 0⟩ else shortest .even significand exponent

/-- What is read where `x` was written. -/
def rereadReal (x : Float) : Data :=
  match decode x with
  | .finite ⟨negative, m, e⟩ =>
    real? negative (digitsOf m e).written.coefficient (digitsOf m e).written.exponent
  | _ => .null

theorem digitsOf_bounds (hm53 : m < 2 ^ 53) (e : Int) :
    ((digitsOf m e).coefficient ≠ 0 ∨ (digitsOf m e).exponent = 0) ∧
      (digitsOf m e).coefficient ≤ 10 ^ 17 := by
  unfold digitsOf
  split
  · exact ⟨.inr rfl, by decide⟩
  · next hm =>
    obtain ⟨hne, hle⟩ := shortest_coefficient hm hm53 .even e
    exact ⟨.inl hne, hle⟩

theorem readNumber_real (hx : isFinite x = true) {rest : List Char} (hrest : EndsNumber rest) :
    readNumber ((real x).toList ++ rest) = some (rereadReal x, rest) := by
  obtain ⟨⟨negative, m, e⟩, hdecode⟩ := isFinite_iff.mp hx
  obtain ⟨hd, hle⟩ := digitsOf_bounds (unpack_of_decode hdecode).1.significand e
  have htext : (real x).toList = (if negative then ['-'] else []) ++
      Layout.json.digits (digitsOf m e) := by
    simp only [real, if_pos hx, Layout.text, hdecode, String.toList_ofList, digitsOf]
    rfl
  rw [htext, readNumber_digits hd (Scientific.written_coefficient_lt hle) hrest, rereadReal, hdecode]

theorem rereadReal_of_not_finite (hx : isFinite x = false) : rereadReal x = .null := by
  unfold rereadReal
  split
  · next d hdecode => exact absurd (isFinite_iff.mpr ⟨_, hdecode⟩) (by simp [hx])
  · rfl

/-- The real that is read where `x` was written, if one is. -/
def rereadReal? (x : Float) : Option Float :=
  match rereadReal x with
  | .real y => some y
  | _ => none

theorem rereadReal_cases (x : Float) :
    (∃ y, rereadReal x = .real y) ∨ rereadReal x = .null ∨ rereadReal x = .unreadable := by
  unfold rereadReal real?
  split
  · split
    · exact .inl ⟨_, rfl⟩
    · exact .inr (.inr rfl)
  · exact .inr (.inl rfl)

theorem rereadReal?_of_not_finite (hx : isFinite x = false) : rereadReal? x = none := by
  rw [rereadReal?, rereadReal_of_not_finite hx]

/-! ### Reals that come back -/

/-- Up to `10^22` powers of ten are doubles. -/
theorem exists_decode_powerOfTen {k : Nat} (hk : k < 23) :
    ∃ m e, decode (powerOfTen k) = .finite ⟨false, m, e⟩ ∧ 2 ^ 52 ≤ m ∧ -52 ≤ e ∧ e ≤ 22 ∧
      (m * 2 ^ e : ℚ) = 10 ^ k := by
  obtain ⟨hdecode, hm, hlog⟩ : decode (powerOfTen k) =
      .finite ⟨false, 5 ^ k * 2 ^ (52 - (5 ^ k).log2), (k : Int) + (5 ^ k).log2 - 52⟩ ∧
      2 ^ 52 ≤ 5 ^ k * 2 ^ (52 - (5 ^ k).log2) ∧ (5 ^ k).log2 ≤ 52 := by
    revert k
    decide +kernel
  refine ⟨_, _, hdecode, hm, by omega, by omega, ?_⟩
  have hplaces : (2 : ℚ) ^ (52 - (5 ^ k).log2) * 2 ^ ((k : Int) + (5 ^ k).log2 - 52) = 2 ^ k := by
    rw [← zpow_natCast, ← zpow_add₀ (by norm_num), ← zpow_natCast]
    congr 1
    omega
  rw [Nat.cast_mul, Nat.cast_pow, Nat.cast_pow, Nat.cast_ofNat, Nat.cast_ofNat, mul_assoc, hplaces,
    ← mul_pow]
  norm_num

/-- Two doubles scale to the double that their exact product or quotient rounds to. -/
theorem scale_eq_of_holds {c : Nat} {k : Int} (hc : 0 < c) (hsmall : c < 2 ^ 53)
    (hk : k.natAbs < 23) (hx : decode x = .finite ⟨false, m, e⟩) (hm : 0 < m)
    (hholds : (Interval.around m e).Holds (c * 10 ^ k)) : scale c k = some x := by
  obtain ⟨m₁, e₁, hcoefficient, hm₁, he₁, hvalue₁⟩ := exists_decode_ofInt_eq hc hsmall
  obtain ⟨m₂, e₂, hpower, hm₂, he₂, hhigh₂, hvalue₂⟩ := exists_decode_powerOfTen hk
  simp only [scale]
  rw [if_neg (by omega), if_neg (by omega)]
  by_cases hsign : 0 ≤ k
  · have hplaces : (10 : ℚ) ^ k.natAbs = 10 ^ k := by
      rw [← zpow_natCast, Int.natAbs_of_nonneg hsign]
    have hproduct : ofInt c * powerOfTen k.natAbs = x := by
      refine mul_eq_of_holds hcoefficient hpower ?_ hx hm ?_
      · exact hm₁.trans (Nat.le_mul_of_pos_right _ (by omega))
      · rw [hvalue₁, hvalue₂, hplaces]
        exact hholds
    rw [if_pos hsign, show k.toNat = k.natAbs by omega, hproduct,
      if_pos (isFinite_iff.mpr ⟨_, hx⟩)]
  · have hplaces : (10 : ℚ) ^ k.natAbs = (10 ^ k)⁻¹ := by
      rw [← zpow_natCast, ← zpow_neg]
      congr 1
      omega
    have hquotient : ofInt c / powerOfTen k.natAbs = x := by
      refine div_eq_of_holds hcoefficient hpower hm₁ hm₂ (by omega) hx hm ?_
      rw [hvalue₁, hvalue₂, hplaces, div_inv_eq_mul]
      exact hholds
    rw [if_neg hsign, if_pos (by omega), show (-k).toNat = k.natAbs by omega, hquotient]

theorem written_value (d : Scientific) : d.written.value = d.value := by
  unfold Scientific.written
  split
  · next hwhole =>
    have hplaces : (10 : ℚ) ^ (d.exponent + 1).toNat = 10 ^ d.exponent * 10 := by
      rw [← zpow_natCast, ← zpow_add_one₀ (by norm_num)]
      congr 1
      omega
    rw [Scientific.value, Scientific.value]
    push_cast
    rw [hplaces, zpow_neg_one]
    field_simp
  · rfl

/-- The digits written for `x` and the power of ten they are scaled by are doubles. -/
def hasExactParts (x : Float) : Bool :=
  match decode x with
  | .finite ⟨_, m, e⟩ => decide ((digitsOf m e).written.coefficient < 2 ^ 53) &&
    decide ((digitsOf m e).written.exponent.natAbs < 23)
  | _ => false

theorem digitsOf_holds (hm : 0 < m) (hm53 : m < 2 ^ 53) (e : Int) :
    0 < (digitsOf m e).written.coefficient ∧ (Interval.around m e).Holds
      ((digitsOf m e).written.coefficient * 10 ^ (digitsOf m e).written.exponent) := by
  have hdigits : digitsOf m e = shortest .even m e := if_neg (by omega)
  have hholds := shortest_holds (Nat.ne_of_gt hm) hm53 .even e
  rw [← hdigits, ← written_value] at hholds
  have hcontains := (Interval.contains_iff (Interval.around_denominator_pos m e) _).mpr hholds
  have hne := Interval.coefficient_ne_zero_of_contains (Nat.ne_of_gt hm) hcontains
  exact ⟨Nat.pos_of_ne_zero hne, hholds⟩

theorem scale_digitsOf_zero (e : Int) :
    scale (digitsOf 0 e).written.coefficient (digitsOf 0 e).written.exponent = some (ofInt 0) := by
  have hzero : digitsOf 0 e = ⟨0, 0⟩ := if_pos rfl
  rw [hzero]
  rfl

theorem scale_digitsOf (hx : decode x = .finite ⟨false, m, e⟩)
    (hcoefficient : (digitsOf m e).written.coefficient < 2 ^ 53)
    (hexponent : (digitsOf m e).written.exponent.natAbs < 23) :
    scale (digitsOf m e).written.coefficient (digitsOf m e).written.exponent = some x := by
  obtain ⟨hm53, -, hleading⟩ := (unpack_of_decode hx).1
  simp only at hm53 hleading
  rcases Nat.eq_zero_or_pos m with rfl | hm
  · have hzero : decode (ofInt 0) = .finite ⟨false, 0, -1074⟩ := by decide +kernel
    have he : e = -1074 := by omega
    subst he
    rw [scale_digitsOf_zero, eq_of_decode hzero hx]
  · obtain ⟨hpos, hholds⟩ := digitsOf_holds hm hm53 e
    exact scale_eq_of_holds hpos hcoefficient hexponent hx hm hholds

/-- A real with such parts is read back as itself. -/
theorem rereadReal?_of_hasExactParts (h : hasExactParts x = true) : rereadReal? x = some x := by
  unfold hasExactParts at h
  split at h
  · next negative m e hx =>
    obtain ⟨y, hy, hxy⟩ := exists_decode_positive hx
    obtain ⟨hcoefficient, hexponent⟩ := Bool.and_eq_true_iff.mp h
    have hscale := scale_digitsOf hy (of_decide_eq_true hcoefficient) (of_decide_eq_true hexponent)
    simp only [rereadReal?, rereadReal, hx, real?, hscale, ← hxy]
  · cases h

example : hasExactParts (ofDecimal true 299792458 (-12)) = true := by decide +kernel

/-! ### No finite real is lost -/

/-- The largest doubles are not scaled beyond the doubles. -/
theorem isSome_scale_last {n : Nat} (hn : n < 9) :
    (scale (digitsOf (2 ^ 53 - 1 - n) 971).written.coefficient
      (digitsOf (2 ^ 53 - 1 - n) 971).written.exponent).isSome = true := by
  revert n
  decide +kernel

theorem two_zpow_lt_ten_zpow : (2 : ℚ) ^ (1024 : Int) < 10 ^ (309 : Int) := by
  have hstep : (2 : ℚ) ^ 93 < 10 ^ 28 := by norm_num
  calc (2 : ℚ) ^ (1024 : Int) = 2 * (2 ^ 93) ^ 11 := by
        rw [← pow_mul, ← pow_succ', ← zpow_natCast]
        rfl
    _ < 10 * (10 ^ 28) ^ 11 :=
        mul_lt_mul'' (by norm_num) (pow_lt_pow_left₀ hstep (by positivity) (by decide))
          (by norm_num) (by positivity)
    _ = 10 ^ (309 : Int) := by
        rw [← pow_mul, ← pow_succ', ← zpow_natCast]
        rfl

theorem largest_lt_ten_zpow : largest < 10 ^ (309 : Int) := by
  refine lt_of_le_of_lt ?_ two_zpow_lt_ten_zpow
  rw [largest, show (1024 : Int) = 53 + 971 by rfl, zpow_add₀ (by norm_num)]
  exact mul_le_mul_of_nonneg_right (by norm_num) (by positivity)

/-- Two roundings do not exceed the largest double from some way below it. -/
theorem isSome_scale_of_lt {c : Nat} {k : Int} (hc : 0 < c)
    (hvalue : (c * 10 ^ k * (1 + 1 / 2 ^ 53) ^ 2 : ℚ) < largest) : (scale c k).isSome = true := by
  have hsmall : (c * 10 ^ k : ℚ) < largest :=
    lt_of_le_of_lt (le_mul_of_one_le_right (by positivity) (by norm_num)) hvalue
  have hone : (1 : ℚ) ≤ c := by exact_mod_cast hc
  have hpower : (10 : ℚ) ^ k ≤ c * 10 ^ k := le_mul_of_one_le_left (by positivity) hone
  have hk : k < 309 := (zpow_lt_zpow_iff_right₀ (by norm_num)).mp
    (hpower.trans_lt (hsmall.trans largest_lt_ten_zpow))
  simp only [scale]
  rw [if_neg (by omega), if_neg (by omega)]
  by_cases hsign : 0 ≤ k
  · obtain ⟨n, rfl⟩ : ∃ n : Nat, k = n := ⟨k.toNat, by omega⟩
    have hcoefficient : (c : ℚ) ≤ c * 10 ^ (n : Int) :=
      le_mul_of_one_le_right (by positivity) (one_le_zpow₀ (by norm_num) hsign)
    have hten : ((10 ^ n : Nat) : ℚ) = 10 ^ (n : Int) := by
      rw [zpow_natCast]
      push_cast
      rfl
    have hproduct : isFinite (ofInt c * powerOfTen n) = true := by
      obtain ⟨m₁, e₁, hfirst, hm₁, he₁, hle₁⟩ :=
        exists_decode_ofInt_le hc (hcoefficient.trans_lt hsmall)
      obtain ⟨m₂, e₂, hsecond, hm₂, he₂, hle₂⟩ := exists_decode_ofInt_le (n := 10 ^ n)
        (Nat.pow_pos (by decide)) (hten ▸ hpower.trans_lt hsmall)
      rw [hten] at hle₂
      refine isFinite_mul hfirst hsecond ?_ (by omega) ?_
      · exact hm₁.trans (Nat.le_mul_of_pos_right _ (by omega))
      · calc (m₁ * 2 ^ e₁ * (m₂ * 2 ^ e₂) : ℚ)
            ≤ c * (1 + 1 / 2 ^ 53) * (10 ^ (n : Int) * (1 + 1 / 2 ^ 53)) :=
              mul_le_mul hle₁ hle₂ (by positivity) (by positivity)
          _ = c * 10 ^ (n : Int) * (1 + 1 / 2 ^ 53) ^ 2 := by ring
          _ < largest := hvalue
    rw [if_pos hsign, Int.toNat_natCast, if_pos hproduct]
    rfl
  · rw [if_neg hsign]
    split
    · rfl
    · split <;> rfl

theorem isSome_scale_digitsOf (hx : decode x = .finite ⟨false, m, e⟩) :
    (scale (digitsOf m e).written.coefficient (digitsOf m e).written.exponent).isSome = true := by
  have hm53 := (unpack_of_decode hx).1.significand
  have he : e ≤ 971 := exponent_le_of_decode hx
  simp only at hm53
  rcases Nat.eq_zero_or_pos m with rfl | hm
  · rw [scale_digitsOf_zero]
    rfl
  by_cases hlast : e = 971 ∧ 2 ^ 53 - 9 ≤ m
  · obtain ⟨n, hn, rfl⟩ : ∃ n, n < 9 ∧ m = 2 ^ 53 - 1 - n := ⟨2 ^ 53 - 1 - m, by omega, by omega⟩
    rw [hlast.1]
    exact isSome_scale_last hn
  · obtain ⟨hcoefficient, hholds⟩ := digitsOf_holds hm hm53 e
    have hvalue := (Interval.holds_bounds (Nat.ne_of_gt hm) hholds).2.1
    have hunit : (0 : ℚ) < 2 ^ (970 : Int) := by positivity
    have hplace : (2 : ℚ) ^ (971 : Int) = 2 * 2 ^ (970 : Int) := by
      rw [show (971 : Int) = 1 + 970 by rfl, zpow_add₀ (by norm_num), zpow_one]
    have hless : ((m : ℚ) + 1 / 2) * 2 ^ e ≤ (2 ^ 54 - 18) * 2 ^ (970 : Int) := by
      rcases Int.lt_or_eq_of_le he with hlow | rfl
      · have hm53 : (m : ℚ) + 1 ≤ 2 ^ 53 := by exact_mod_cast hm53
        exact mul_le_mul (by linarith) (zpow_le_zpow_right₀ (by norm_num) (by omega)) (by positivity)
          (by norm_num)
      · have hm53 : (m : ℚ) + 10 ≤ 2 ^ 53 := by exact_mod_cast (by omega : m + 10 ≤ 2 ^ 53)
        rw [hplace, ← mul_assoc]
        exact mul_le_mul_of_nonneg_right (by linarith) hunit.le
    refine isSome_scale_of_lt hcoefficient ?_
    calc ((digitsOf m e).written.coefficient * 10 ^ (digitsOf m e).written.exponent *
          (1 + 1 / 2 ^ 53) ^ 2 : ℚ)
        ≤ (2 ^ 54 - 18) * 2 ^ (970 : Int) * (1 + 1 / 2 ^ 53) ^ 2 :=
          mul_le_mul_of_nonneg_right (hvalue.trans hless) (by positivity)
      _ = (2 ^ 54 - 18) * (1 + 1 / 2 ^ 53) ^ 2 * 2 ^ (970 : Int) := by ring
      _ < (2 ^ 53 - 1) * 2 * 2 ^ (970 : Int) := mul_lt_mul_of_pos_right (by norm_num) hunit
      _ = largest := by rw [largest, hplace, mul_assoc]

/-- A real is read back as a real exactly if it is finite. -/
theorem isSome_rereadReal? (x : Float) : (rereadReal? x).isSome = isFinite x := by
  by_cases hx : isFinite x = true
  · obtain ⟨⟨negative, m, e⟩, hdecode⟩ := isFinite_iff.mp hx
    obtain ⟨y, hy, -⟩ := exists_decode_positive hdecode
    obtain ⟨z, hz⟩ := Option.isSome_iff_exists.mp (isSome_scale_digitsOf hy)
    simp only [hx, rereadReal?, rereadReal, hdecode, real?, hz, Option.isSome_some]
  · rw [rereadReal?_of_not_finite (Bool.eq_false_of_not_eq_true hx), Bool.eq_false_of_not_eq_true hx]
    rfl

end InstrumentControl.Json
