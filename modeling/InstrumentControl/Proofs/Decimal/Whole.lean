import InstrumentControl.Decimal.Layout
import InstrumentControl.Proofs.Decimal.Nearest
import InstrumentControl.Proofs.Decimal.Rounding

/-! The texts of doubles that are integers.  The shortest decimal of an integer below `2^53` is that
integer, since no other one rounds to the double, so the double is written like the integer.  Only
minus zero keeps its sign.  Doubles that are equal are the same one or both zeros. -/

namespace InstrumentControl.Decimal

open Float.Model
open Float.Model.UnpackedFloat (Sign)

variable {x y : Float} {m n : Nat} {e z : Int}

/-! ### The shortest decimal of an integer -/

section

variable (hm : m ≠ 0) (h : Dyadic.Canonical ⟨false, m, e⟩) (hvalue : (m * 2 ^ e : ℚ) = n)
  (hn : n < 2 ^ 53)

include hm h hvalue hn

theorem exponent_le_zero : e ≤ 0 := by
  by_contra hpos
  have hleading := h.leading
  simp only at hleading
  have hm52 : (2 : ℚ) ^ 52 ≤ m := by exact_mod_cast hleading.resolve_left (by omega)
  have htwo : (2 : ℚ) ^ (1 : Int) ≤ 2 ^ e := zpow_le_zpow_right₀ (by norm_num) (by omega)
  have hlarge : (2 : ℚ) ^ 52 * 2 ^ (1 : Int) ≤ m * 2 ^ e :=
    mul_le_mul hm52 htwo (by positivity) (by positivity)
  have hn' : (n : ℚ) < 2 ^ 53 := by exact_mod_cast hn
  rw [hvalue] at hlarge
  norm_num at hlarge hn'
  linarith

/-- The integers that round to the double of an integer below `2^53` are that integer. -/
theorem eq_of_holds {k : Nat} (hk : (Interval.around m e).Holds k) : k = n := by
  obtain ⟨hlow, hhigh, -⟩ := Interval.holds_bounds hm hk
  have hbelow : (Interval.below m e : ℚ) ≤ 2 := by exact_mod_cast Interval.below_le_two m e
  have hunit : (2 : ℚ) ^ e ≤ 1 := zpow_le_one_of_nonpos₀ (by norm_num) (exponent_le_zero hm h hvalue hn)
  have hpos : (0 : ℚ) < 2 ^ e := by positivity
  rw [sub_mul, hvalue] at hlow
  rw [add_mul, hvalue] at hhigh
  have hquarter : (Interval.below m e / 4 * 2 ^ e : ℚ) ≤ 1 / 2 := by nlinarith
  exact Nat.le_antisymm (le_of_cast_lt_add_one (by linarith)) (le_of_cast_lt_add_one (by linarith))

/-- On the grid of the integers lies the number itself, so no grid of more digits is looked at. -/
theorem shortest_whole (tie : Tie) :
    0 ≤ (shortest tie m e).exponent ∧ (shortest tie m e).value = n := by
  obtain ⟨p, hp⟩ : ∃ p, pointOf (Interval.around m e).value (Interval.around m e).denominator = p :=
    ⟨_, rfl⟩
  have hmiddle : (Interval.around m e).middle = n := (Interval.around_middle m e).trans hvalue
  have hplaces : 1 ≤ p := by
    have hhigh := (pointOf_bounds (Interval.around_value_pos hm e)
      (Interval.around_denominator_pos m e)).2
    have hhigh : (n : ℚ) < 10 ^ p := hp ▸ hmiddle.symm.trans_lt hhigh
    by_contra hsmall
    have hone : (10 : ℚ) ^ p ≤ 1 := zpow_le_one_of_nonpos₀ (by norm_num) (by omega)
    have hzero : n = 0 := by
      have : (n : ℚ) < (1 : Nat) := by push_cast; linarith
      exact Nat.lt_one_iff.mp (by exact_mod_cast this)
    rw [hzero, Nat.cast_zero, mul_eq_zero, Nat.cast_eq_zero] at hvalue
    exact hvalue.elim hm (by positivity)
  obtain ⟨k, rfl⟩ : ∃ k : Nat, p = (k + 1 : Nat) := ⟨(p - 1).toNat, by omega⟩
  have hwhole : ∃ d, (Interval.around m e).onGrid? tie 0 = some d := by
    refine Interval.exists_onGrid?_of_contains (.inl ?_)
    refine Interval.contains_of_near hm h.significand ?_
    rw [Interval.floor_eq, hmiddle, zpow_zero, div_one, Nat.floor_natCast, Scientific.value, hvalue]
    simp
  obtain ⟨d, j, -, hd, hfirst, heq⟩ := exists_shortest_eq hm h.significand tie e
  rw [hp] at hd hfirst
  have hj : j ≤ k := by
    by_contra hmore
    have hnone := hfirst k (by omega)
    obtain ⟨d, hd⟩ := hwhole
    rw [Int.sub_self, hd] at hnone
    cases hnone
  obtain ⟨hcontains, hexponent, -⟩ := Interval.onGrid?_eq_some hd
  have hexponent : 0 ≤ d.exponent := by omega
  have hnat : d.value = (d.coefficient * 10 ^ d.exponent.toNat : Nat) := by
    rw [Scientific.value, zpow_eq_pow_toNat hexponent]
    push_cast
    rfl
  have hholds := (Interval.contains_iff (Interval.around_denominator_pos m e) d).mp hcontains
  rw [hnat] at hholds
  rw [heq]
  refine ⟨hexponent.trans d.exponent_le_withoutZeros, ?_⟩
  rw [d.withoutZeros_value, hnat, eq_of_holds hm h hvalue hn hholds]

end

/-! ### Texts -/

theorem toDigits_mul_pow {c : Nat} (hc : 0 < c) (k : Nat) :
    Nat.toDigits 10 (c * 10 ^ k) = Nat.toDigits 10 c ++ List.replicate k '0' := by
  induction k with
  | zero => simp
  | succ k ih =>
    have hpos : 0 < c * 10 ^ k := by positivity
    have hstep := Nat.toDigits_append_toDigits (b := 10) (by decide) hpos (by decide : 0 < 10)
    rw [show 10 * (c * 10 ^ k) + 0 = c * 10 ^ (k + 1) by ring, ih] at hstep
    rw [← hstep, List.append_assoc, List.replicate_succ']
    rfl

/-- A decimal without places after the point is written as its digits and zeros. -/
theorem plain_digits {d : Scientific} (hexponent : 0 ≤ d.exponent) (hc : 0 < d.coefficient) :
    Layout.plain.digits d = Nat.toDigits 10 (d.coefficient * 10 ^ d.exponent.toNat) := by
  have hpos : 0 < (Nat.toDigits 10 d.coefficient).length := Nat.length_toDigits_pos
  have hzeros : ((Nat.toDigits 10 d.coefficient).length : Int) + d.exponent -
      (Nat.toDigits 10 d.coefficient).length = d.exponent := by omega
  simp only [Layout.digits, Layout.plain, positionalText]
  rw [if_neg (by omega), if_pos (by omega), hzeros, zeros, toDigits_mul_pow hc]
  simp

theorem plain_digits_of_whole (hm : m ≠ 0) (h : Dyadic.Canonical ⟨false, m, e⟩)
    (hvalue : (m * 2 ^ e : ℚ) = n) (hn : n < 2 ^ 53) :
    Layout.plain.digits (shortest .up m e) = Nat.toDigits 10 n := by
  obtain ⟨hexponent, hwhole⟩ := shortest_whole hm h hvalue hn .up
  have hcoefficient : 0 < (shortest .up m e).coefficient :=
    Nat.pos_of_ne_zero (shortest_coefficient hm h.significand .up e).1
  rw [Scientific.value, zpow_eq_pow_toNat hexponent] at hwhole
  rw [plain_digits hexponent hcoefficient]
  congr 1
  exact_mod_cast hwhole

theorem eq_zero_of_decode {negative : Bool} (h : decode x = .finite ⟨negative, 0, e⟩) :
    x = ofBits negative 0 := by
  have he : e = -1074 := (unpack_of_decode h).1.leading.resolve_right (by simp)
  rw [he] at h
  refine eq_of_decode h ?_
  cases negative <;> rfl

/-- The double of an integer below `2^53` is written as the integer, except for minus zero. -/
theorem plain_text_of_denotes (h : Denotes x z) (hz : z.natAbs < 2 ^ 53) :
    Layout.plain.text x = intText z ∨ z = 0 ∧ x = ofBits true 0 := by
  obtain ⟨⟨negative, m, e⟩, hdecode, hvalue⟩ := h
  have hmagnitude : (m * 2 ^ e : ℚ) = z.natAbs := by
    have habs := Dyadic.abs_value ⟨negative, m, e⟩
    rw [hvalue, ← Int.cast_abs, ← Int.natCast_natAbs, Int.cast_natCast] at habs
    exact habs.symm
  rcases Nat.eq_zero_or_pos m with rfl | hpos
  · rw [Nat.cast_zero, zero_mul] at hmagnitude
    have hzero : z = 0 := by
      rw [← Int.natAbs_eq_zero]
      exact_mod_cast hmagnitude.symm
    cases negative with
    | true => exact .inr ⟨hzero, eq_zero_of_decode hdecode⟩
    | false =>
      rw [hzero, eq_zero_of_decode hdecode]
      exact .inl rfl
  · left
    have hcanonical : Dyadic.Canonical ⟨false, m, e⟩ :=
      have h := (unpack_of_decode hdecode).1
      ⟨h.significand, h.exponent, h.leading⟩
    have hm : m ≠ 0 := Nat.ne_of_gt hpos
    have hdigits : Layout.plain.digits (shortest Layout.plain.tie m e) = _ :=
      plain_digits_of_whole hm hcanonical hmagnitude hz
    rw [Layout.text, hdecode]
    simp only [if_neg hm, hdigits]
    cases negative with
    | true =>
      have hneg : z < 0 := by
        have := Dyadic.value_neg (a := ⟨true, m, e⟩) hm rfl
        rw [hvalue] at this
        exact_mod_cast this
      rw [intText, if_pos hneg, decimalText, ← String.toList_inj]
      simp
    | false =>
      have hnonneg : ¬ z < 0 := by
        have := Dyadic.value_pos (a := ⟨false, m, e⟩) hm rfl
        rw [hvalue] at this
        have : 0 < z := by exact_mod_cast this
        omega
      rw [intText, if_neg hnonneg, decimalText]
      simp

/-! ### Equal doubles -/

/-- Equal doubles are the same one or zeros. -/
theorem eq_of_beq (h : (x == y) = true) :
    x = y ∨ ∃ negative negative', x = ofBits negative 0 ∧ y = ofBits negative' 0 := by
  have hzero {x : Float} {s : Sign} (hx : x.toModel.unpack = .zero s) :
      ∃ negative, x = ofBits negative 0 := by
    rw [← ofModel_pack hx]
    cases s with
    | positive => exact ⟨false, rfl⟩
    | negative => exact ⟨true, rfl⟩
  rcases eq_of_compare_eq (beq_iff_compare.mp h) with heq | ⟨s, s', hs, hs'⟩
  · left
    rw [← ofModel_pack heq, ofModel_pack rfl]
  · obtain ⟨negative, hx⟩ := hzero hs
    obtain ⟨negative', hy⟩ := hzero hs'
    exact .inr ⟨negative, negative', hx, hy⟩

end InstrumentControl.Decimal
