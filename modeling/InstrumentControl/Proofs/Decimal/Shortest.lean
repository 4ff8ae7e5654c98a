import InstrumentControl.Decimal.Shortest
import Mathlib.Algebra.Order.Field.Power
import Mathlib.Algebra.Order.Floor.Semifield
import Mathlib.Data.Rat.Floor
import Mathlib.Tactic.FieldSimp
import Mathlib.Tactic.Linarith
import Mathlib.Tactic.NormNum
import Mathlib.Tactic.Positivity
import Mathlib.Tactic.Ring

/-! The shortest digits of a double as rational numbers.  `pointOf` gives the power of ten just
above a quotient, so the multiples of a power of ten that `shortest` looks at have at most
seventeen digits. -/

namespace InstrumentControl.Decimal

def Scientific.value (d : Scientific) : ℚ := d.coefficient * 10 ^ d.exponent

section

variable {num den : Nat}

theorem lt_pow_length_toDigits (n : Nat) : n < 10 ^ (Nat.toDigits 10 n).length :=
  (Nat.length_toDigits_le_iff (by decide) Nat.length_toDigits_pos).mp (Nat.le_refl _)

theorem pow_length_toDigits_le {n : Nat} (hn : 0 < n) :
    10 ^ ((Nat.toDigits 10 n).length - 1) ≤ n := by
  by_cases hone : (Nat.toDigits 10 n).length = 1
  · rw [hone]
    exact hn
  · have hpos : 0 < (Nat.toDigits 10 n).length := Nat.length_toDigits_pos
    by_contra hlt
    have hle := (Nat.length_toDigits_le_iff (by decide) (by omega)).mpr (Nat.lt_of_not_le hlt)
    omega

theorem zpow_eq_pow_toNat {k : Int} (hk : 0 ≤ k) (x : ℚ) : x ^ k = x ^ k.toNat := by
  rw [← zpow_natCast, Int.toNat_of_nonneg hk]

theorem zpow_eq_inv_pow_toNat {k : Int} (hk : ¬ 0 ≤ k) (x : ℚ) : x ^ k = (x ^ (-k).toNat)⁻¹ := by
  rw [← zpow_eq_pow_toNat (by omega), zpow_neg, inv_inv]

theorem le_div_iff_reached (num : Nat) (hden : 0 < den) (k : Int) :
    (10 : ℚ) ^ k ≤ num / den ↔ if 0 ≤ k then den * Nat.pow 10 k.toNat ≤ num
      else den ≤ num * Nat.pow 10 (-k).toNat := by
  have hden' : (0 : ℚ) < den := by exact_mod_cast hden
  by_cases hk : 0 ≤ k
  · rw [if_pos hk, zpow_eq_pow_toNat hk, le_div_iff₀ hden', mul_comm]
    exact_mod_cast Iff.rfl
  · rw [if_neg hk, zpow_eq_inv_pow_toNat hk, inv_le_iff_one_le_mul₀ (by positivity),
      div_mul_eq_mul_div, le_div_iff₀ hden', one_mul]
    exact_mod_cast Iff.rfl

theorem natCast_zpow_sub_one {n : Nat} (hn : 0 < n) :
    (10 : ℚ) ^ ((n : Int) - 1) = ((10 ^ (n - 1) : Nat) : ℚ) := by
  rw [zpow_eq_pow_toNat (by omega)]
  have : ((n : Int) - 1).toNat = n - 1 := by omega
  rw [this]
  norm_cast

theorem pointOf_bounds (hnum : 0 < num) (hden : 0 < den) :
    (10 : ℚ) ^ (pointOf num den - 1) ≤ num / den ∧ (num / den : ℚ) < 10 ^ pointOf num den := by
  obtain ⟨a, ha⟩ : ∃ a, (Nat.toDigits 10 num).length = a := ⟨_, rfl⟩
  obtain ⟨b, hb⟩ : ∃ b, (Nat.toDigits 10 den).length = b := ⟨_, rfl⟩
  have hden' : (0 : ℚ) < den := by exact_mod_cast hden
  have hlow : (10 : ℚ) ^ ((a : Int) - 1) ≤ num := by
    rw [natCast_zpow_sub_one (ha ▸ Nat.length_toDigits_pos), ← ha]
    exact_mod_cast pow_length_toDigits_le hnum
  have hhigh : (num : ℚ) < 10 ^ (a : Int) := by
    rw [zpow_natCast, ← ha]
    exact_mod_cast lt_pow_length_toDigits num
  have hlow' : (10 : ℚ) ^ ((b : Int) - 1) ≤ den := by
    rw [natCast_zpow_sub_one (hb ▸ Nat.length_toDigits_pos), ← hb]
    exact_mod_cast pow_length_toDigits_le hden
  have hhigh' : (den : ℚ) < 10 ^ (b : Int) := by
    rw [zpow_natCast, ← hb]
    exact_mod_cast lt_pow_length_toDigits den
  have hupper : (num / den : ℚ) < 10 ^ ((a : Int) - b + 1) := by
    rw [div_lt_iff₀ hden']
    calc (num : ℚ) < 10 ^ (a : Int) := hhigh
      _ = 10 ^ ((a : Int) - b + 1) * 10 ^ ((b : Int) - 1) := by
        rw [← zpow_add₀ (by norm_num)]
        congr 1
        omega
      _ ≤ 10 ^ ((a : Int) - b + 1) * den := by gcongr
  have hlower : (10 : ℚ) ^ ((a : Int) - b - 1) ≤ num / den := by
    rw [le_div_iff₀ hden']
    calc (10 : ℚ) ^ ((a : Int) - b - 1) * den ≤ 10 ^ ((a : Int) - b - 1) * 10 ^ (b : Int) := by
          gcongr
      _ = 10 ^ ((a : Int) - 1) := by
        rw [← zpow_add₀ (by norm_num)]
        congr 1
        omega
      _ ≤ num := hlow
  have hreached := le_div_iff_reached num hden ((a : Int) - b)
  rw [pointOf, ha, hb]
  by_cases h : (10 : ℚ) ^ ((a : Int) - b) ≤ num / den
  · rw [if_pos (hreached.mp h)]
    exact ⟨by simpa using h, hupper⟩
  · rw [if_neg (fun h' => h (hreached.mpr h'))]
    exact ⟨hlower, lt_of_not_ge h⟩

end

/-! ### The decimals of a grid -/

namespace Interval

variable {i : Interval} {e : Int} {tie : Tie} {d : Scientific}

/-- The number in the middle, as it is. -/
def middle (i : Interval) : ℚ := i.value / i.denominator

theorem floor_eq (i : Interval) (e : Int) : (i.floor e).1 = ⌊i.middle / 10 ^ e⌋₊ := by
  by_cases he : 0 ≤ e
  · have hquotient : i.middle / 10 ^ e =
        (i.value : ℚ) / ((i.denominator * Nat.pow 10 e.toNat : Nat) : ℚ) := by
      rw [middle, zpow_eq_pow_toNat he, div_div, Nat.pow_eq]
      push_cast
      rfl
    rw [hquotient, Nat.floor_div_eq_div]
    simp only [floor, he, if_true]
  · have hquotient : i.middle / 10 ^ e =
        ((i.value * Nat.pow 10 (-e).toNat : Nat) : ℚ) / (i.denominator : ℚ) := by
      rw [middle, zpow_eq_inv_pow_toNat he, div_inv_eq_mul, div_mul_eq_mul_div, Nat.pow_eq]
      push_cast
      rfl
    rw [hquotient, Nat.floor_div_eq_div]
    simp only [floor, he, if_false]

theorem floor_bounds (i : Interval) (e : Int) :
    ((i.floor e).1 : ℚ) * 10 ^ e ≤ i.middle ∧ i.middle < ((i.floor e).1 + 1) * 10 ^ e := by
  have hpow : (0 : ℚ) < 10 ^ e := by positivity
  have hmiddle : 0 ≤ i.middle / 10 ^ e := by
    unfold middle
    positivity
  rw [floor_eq, ← le_div_iff₀ hpow, ← div_lt_iff₀ hpow]
  exact ⟨Nat.floor_le hmiddle, Nat.lt_floor_add_one _⟩

theorem onGrid?_eq_some (h : i.onGrid? tie e = some d) : i.contains d = true ∧ d.exponent = e ∧
    (d.coefficient = (i.floor e).1 ∨ d.coefficient = (i.floor e).1 + 1) := by
  unfold onGrid? at h
  dsimp only at h
  split at h
  · next hlower hupper =>
    split at h
    · cases h
      exact ⟨hupper, rfl, .inr rfl⟩
    · cases h
      exact ⟨hlower, rfl, .inl rfl⟩
  · next hlower hupper =>
    cases h
    exact ⟨hlower, rfl, .inl rfl⟩
  · next hlower hupper =>
    cases h
    exact ⟨hupper, rfl, .inr rfl⟩
  · cases h

theorem exists_onGrid?_of_contains (h : i.contains ⟨(i.floor e).1, e⟩ = true ∨
    i.contains ⟨(i.floor e).1 + 1, e⟩ = true) : ∃ d, i.onGrid? tie e = some d := by
  unfold onGrid?
  dsimp only
  split
  · exact ⟨_, rfl⟩
  · exact ⟨_, rfl⟩
  · exact ⟨_, rfl⟩
  · next hlower hupper =>
    rw [hlower, hupper] at h
    simp at h

end Interval

namespace Scientific

theorem withoutZeros_value (d : Scientific) : d.withoutZeros.value = d.value := by
  fun_induction withoutZeros d with
  | case1 d h ih =>
    have hten : d.coefficient = 10 * (d.coefficient / 10) := by omega
    have hcast : (d.coefficient : ℚ) = 10 * ((d.coefficient / 10 : Nat) : ℚ) := by
      exact_mod_cast hten
    rw [ih, value, value, hcast, zpow_add₀ (by norm_num)]
    ring
  | case2 d h => rfl

theorem withoutZeros_coefficient_le (d : Scientific) :
    d.withoutZeros.coefficient ≤ d.coefficient := by
  fun_induction withoutZeros d with
  | case1 d h ih => exact Nat.le_trans ih (Nat.div_le_self _ _)
  | case2 d h => exact Nat.le_refl _

theorem exponent_le_withoutZeros (d : Scientific) : d.exponent ≤ d.withoutZeros.exponent := by
  fun_induction withoutZeros d with
  | case1 d h ih =>
    simp only at ih
    omega
  | case2 d h => exact Int.le_refl _

theorem withoutZeros_coefficient_ne_zero {d : Scientific} (hd : d.coefficient ≠ 0) :
    d.withoutZeros.coefficient ≠ 0 := by
  fun_induction withoutZeros d with
  | case1 d h ih =>
    have hrest : d.coefficient / 10 ≠ 0 := by omega
    exact ih hrest
  | case2 d h => exact hd

end Scientific

/-! ### What rounds to a double -/

namespace Interval

/-- The reals that round to the middle. -/
def Holds (i : Interval) (x : ℚ) : Prop :=
  if i.closed then (i.low / i.denominator : ℚ) ≤ x ∧ x ≤ i.high / i.denominator
  else (i.low / i.denominator : ℚ) < x ∧ x < i.high / i.denominator

theorem contains_iff {i : Interval} (hden : 0 < i.denominator) (d : Scientific) :
    i.contains d = true ↔ i.Holds d.value := by
  have hden' : (0 : ℚ) < i.denominator := by exact_mod_cast hden
  -- the value of the decimal is a quotient of the numbers that are compared
  obtain ⟨num, den, hpos, hnum, hvalue⟩ : ∃ num den : Nat, 0 < den ∧
      (i.contains d = if i.closed then decide (i.low * den ≤ num) && decide (num ≤ i.high * den)
        else decide (i.low * den < num) && decide (num < i.high * den)) ∧
      d.value = (num / den : ℚ) / i.denominator := by
    refine ⟨if 0 ≤ d.exponent then d.coefficient * Nat.pow 10 d.exponent.toNat * i.denominator
      else d.coefficient * i.denominator, if 0 ≤ d.exponent then 1
      else Nat.pow 10 (-d.exponent).toNat, ?_, rfl, ?_⟩
    · split
      · exact Nat.one_pos
      · exact Nat.pow_pos (by decide)
    · by_cases he : 0 ≤ d.exponent
      · rw [if_pos he, if_pos he, Scientific.value, zpow_eq_pow_toNat he, Nat.pow_eq]
        push_cast
        field_simp
      · rw [if_neg he, if_neg he, Scientific.value, zpow_eq_inv_pow_toNat he, Nat.pow_eq]
        push_cast
        field_simp
  have hpos' : (0 : ℚ) < den := by exact_mod_cast hpos
  have hle (a : Nat) : (a / i.denominator : ℚ) ≤ d.value ↔ a * den ≤ num := by
    rw [hvalue, div_le_div_iff_of_pos_right hden', le_div_iff₀ hpos']
    exact_mod_cast Iff.rfl
  have hge (a : Nat) : d.value ≤ (a / i.denominator : ℚ) ↔ num ≤ a * den := by
    rw [hvalue, div_le_div_iff_of_pos_right hden', div_le_iff₀ hpos']
    exact_mod_cast Iff.rfl
  rw [hnum, Holds]
  split
  · rw [hle, hge, Bool.and_eq_true, decide_eq_true_eq, decide_eq_true_eq]
  · rw [Bool.and_eq_true, decide_eq_true_eq, decide_eq_true_eq, ← not_le, ← not_le, ← hge, ← hle,
      not_le, not_le]

variable {m : Nat} {e : Int}

/-- The distance to the next double below, in quarters of the one above. -/
def below (m : Nat) (e : Int) : Nat := if m = Nat.pow 2 52 ∧ -1074 < e then 1 else 2

theorem below_le_two (m : Nat) (e : Int) : below m e ≤ 2 := by
  unfold below
  split <;> omega

theorem around_eq (m : Nat) (e : Int) : ∃ unit : Nat, 0 < unit ∧ 0 < (around m e).denominator ∧
    (unit / (around m e).denominator : ℚ) = 2 ^ e / 4 ∧ (around m e).value = 4 * m * unit ∧
    (around m e).low = (4 * m - below m e) * unit ∧ (around m e).high = (4 * m + 2) * unit := by
  refine ⟨if 0 ≤ e then Nat.pow 2 e.toNat else 1, ?_, ?_, ?_, rfl, rfl, rfl⟩
  · split
    · exact Nat.pow_pos (by decide)
    · exact Nat.one_pos
  · show 0 < if 0 ≤ e then 4 else 4 * Nat.pow 2 (-e).toNat
    split
    · decide
    · exact Nat.mul_pos (by decide) (Nat.pow_pos (by decide))
  · show ((if 0 ≤ e then Nat.pow 2 e.toNat else 1 : Nat) : ℚ) /
      ((if 0 ≤ e then 4 else 4 * Nat.pow 2 (-e).toNat : Nat) : ℚ) = 2 ^ e / 4
    by_cases he : 0 ≤ e
    · rw [if_pos he, if_pos he, zpow_eq_pow_toNat he, Nat.pow_eq]
      push_cast
      rfl
    · rw [if_neg he, if_neg he, zpow_eq_inv_pow_toNat he, Nat.pow_eq]
      push_cast
      field_simp

theorem around_denominator_pos (m : Nat) (e : Int) : 0 < (around m e).denominator := by
  obtain ⟨unit, -, hden, -⟩ := around_eq m e
  exact hden

theorem around_value_pos (hm : m ≠ 0) (e : Int) : 0 < (around m e).value := by
  obtain ⟨unit, hunit, -, -, hvalue, -⟩ := around_eq m e
  have : 0 < 4 * m := by omega
  rw [hvalue]
  positivity

theorem around_middle (m : Nat) (e : Int) : (around m e).middle = m * 2 ^ e := by
  obtain ⟨unit, -, -, hscale, hvalue, -⟩ := around_eq m e
  have hquarter : (2 : ℚ) ^ e = 4 * (unit / (around m e).denominator) := by
    rw [hscale]
    ring
  rw [middle, hvalue, hquarter]
  push_cast
  ring

theorem around_holds (hm : m ≠ 0) (e : Int) (x : ℚ) : (around m e).Holds x ↔
    if m % 2 = 0 then ((m : ℚ) - below m e / 4) * 2 ^ e ≤ x ∧ x ≤ (m + 1 / 2) * 2 ^ e
    else ((m : ℚ) - below m e / 4) * 2 ^ e < x ∧ x < (m + 1 / 2) * 2 ^ e := by
  obtain ⟨unit, -, -, hscale, -, hlow, hhigh⟩ := around_eq m e
  have hquarter : (2 : ℚ) ^ e = 4 * (unit / (around m e).denominator) := by
    rw [hscale]
    ring
  have hbelow : below m e ≤ 4 * m := (below_le_two m e).trans (by omega)
  have hlow' : ((around m e).low / (around m e).denominator : ℚ) =
      ((m : ℚ) - below m e / 4) * 2 ^ e := by
    rw [hlow, hquarter]
    push_cast [hbelow]
    ring
  have hhigh' : ((around m e).high / (around m e).denominator : ℚ) = (m + 1 / 2) * 2 ^ e := by
    rw [hhigh, hquarter]
    push_cast
    ring
  have hclosed : (around m e).closed = true ↔ m % 2 = 0 := decide_eq_true_iff
  rw [Holds, hlow', hhigh']
  simp only [hclosed]

/-- Zero rounds to no other double. -/
theorem coefficient_ne_zero_of_contains (hm : m ≠ 0) {d : Scientific}
    (h : (around m e).contains d = true) : d.coefficient ≠ 0 := by
  intro hd
  have hm' : (1 : ℚ) ≤ m := by exact_mod_cast Nat.one_le_iff_ne_zero.mpr hm
  have hbelow : (below m e : ℚ) ≤ 2 := by exact_mod_cast below_le_two m e
  have hpos : 0 < ((m : ℚ) - below m e / 4) * 2 ^ e :=
    mul_pos (by linarith) (by positivity)
  have hzero : d.value = 0 := by simp [Scientific.value, hd]
  rw [contains_iff (around_denominator_pos m e), around_holds hm, hzero] at h
  split at h
  · exact absurd h.1 (not_le.mpr hpos)
  · exact absurd h.1 (not_lt.mpr hpos.le)

end Interval

/-! ### Seventeen digits -/

namespace Interval

variable {i : Interval}

/-- What is cut off `n` places below the first digit has `n` digits. -/
theorem floor_bounds_of_places (hvalue : 0 < i.value) (hden : 0 < i.denominator) (n : Nat) :
    (10 : ℚ) ^ ((n : Int) - 1) < (i.floor (pointOf i.value i.denominator - n)).1 + 1 ∧
      (i.floor (pointOf i.value i.denominator - n)).1 < 10 ^ n := by
  obtain ⟨p, hp⟩ : ∃ p, pointOf i.value i.denominator = p := ⟨_, rfl⟩
  obtain ⟨hlow, hhigh⟩ := i.floor_bounds (p - n)
  obtain ⟨hlow', hhigh'⟩ := pointOf_bounds hvalue hden
  rw [hp] at hlow' hhigh' ⊢
  have hpow : (0 : ℚ) < 10 ^ (p - n) := by positivity
  have hfirst : (10 : ℚ) ^ (p - 1) = 10 ^ ((n : Int) - 1) * 10 ^ (p - n) := by
    rw [← zpow_add₀ (by norm_num)]
    congr 1
    omega
  have hpoint : (10 : ℚ) ^ p = 10 ^ n * 10 ^ (p - n) := by
    rw [← zpow_natCast, ← zpow_add₀ (by norm_num)]
    congr 1
    omega
  constructor
  · refine lt_of_mul_lt_mul_right ?_ hpow.le
    rw [← hfirst]
    exact lt_of_le_of_lt hlow' hhigh
  · have hlt : ((i.floor (p - n)).1 : ℚ) < 10 ^ n := by
      refine lt_of_mul_lt_mul_right ?_ hpow.le
      rw [← hpoint]
      exact lt_of_le_of_lt hlow hhigh'
    exact_mod_cast hlt

end Interval

namespace Interval

variable {m : Nat} {e : Int}

/-- A decimal that is near enough to a double rounds to it. -/
theorem contains_of_near (hm : m ≠ 0) (hm53 : m < 2 ^ 53) {d : Scientific}
    (h : |d.value - m * 2 ^ e| * 2 * 10 ^ 16 ≤ m * 2 ^ e) : (around m e).contains d = true := by
  have hpow : (0 : ℚ) < 2 ^ e := by positivity
  have hm' : (m : ℚ) < 2 ^ 53 := by exact_mod_cast hm53
  have hbelow : (m : ℚ) * 2 < below m e * 10 ^ 16 := by
    unfold below
    split
    · next hfirst =>
      rw [hfirst.1]
      norm_num
    · push_cast
      linarith
  rw [contains_iff (around_denominator_pos m e), around_holds hm]
  have hbelow' : (m : ℚ) * 2 * 2 ^ e < below m e * 10 ^ 16 * 2 ^ e :=
    mul_lt_mul_of_pos_right hbelow hpow
  have hm53' : (m : ℚ) * 2 ^ e < 2 ^ 53 * 2 ^ e := mul_lt_mul_of_pos_right hm' hpow
  obtain ⟨hlow, hhigh⟩ := abs_le.mp (show |d.value - m * 2 ^ e| ≤ m * 2 ^ e / (2 * 10 ^ 16) by
    rw [le_div_iff₀ (by norm_num), ← mul_assoc]
    exact h)
  have hleft : ((m : ℚ) - below m e / 4) * 2 ^ e < d.value := by linarith
  have hright : d.value < (m + 1 / 2) * 2 ^ e := by linarith
  split
  · exact ⟨hleft.le, hright.le⟩
  · exact ⟨hleft, hright⟩

theorem exists_onGrid? (hm : m ≠ 0) (hm53 : m < 2 ^ 53) (tie : Tie) :
    ∃ d, (around m e).onGrid? tie
      (pointOf (around m e).value (around m e).denominator - (16 + 1 : Nat)) = some d := by
  obtain ⟨i, hi⟩ : ∃ i, around m e = i := ⟨_, rfl⟩
  have hmiddle : i.middle = m * 2 ^ e := hi ▸ around_middle m e
  have hpoint := (pointOf_bounds (hi ▸ around_value_pos hm e) (hi ▸ around_denominator_pos m e) :
    (10 : ℚ) ^ (pointOf i.value i.denominator - 1) ≤ i.middle ∧ _).1
  rw [hi]
  obtain ⟨g, hg⟩ : ∃ g, pointOf i.value i.denominator - (16 + 1 : Nat) = g := ⟨_, rfl⟩
  have hgrid : (10 : ℚ) ^ g * 10 ^ 16 ≤ i.middle := by
    refine Eq.trans_le ?_ hpoint
    rw [← zpow_natCast, ← zpow_add₀ (by norm_num)]
    congr 1
    omega
  obtain ⟨hlow, hhigh⟩ := i.floor_bounds g
  -- the nearer of the two neighbours is at most half a step away
  have hcontains : i.contains ⟨(i.floor g).1, g⟩ = true ∨
      i.contains ⟨(i.floor g).1 + 1, g⟩ = true := by
    by_cases hhalf : 2 * (i.middle - (i.floor g).1 * 10 ^ g) ≤ 10 ^ g
    · left
      rw [← hi]
      refine contains_of_near hm hm53 ?_
      rw [← hmiddle, abs_sub_comm, hi, Scientific.value, abs_of_nonneg (by linarith)]
      linarith
    · right
      rw [← hi]
      refine contains_of_near hm hm53 ?_
      rw [← hmiddle, hi, Scientific.value, abs_of_nonneg (by push_cast; linarith)]
      push_cast
      linarith
  rw [hg]
  exact exists_onGrid?_of_contains hcontains

end Interval

/-- The first of some numbers from zero on with a result. -/
theorem findSome?_range_eq_some {α : Type} {f : Nat → Option α} {count : Nat} {a : α}
    (h : (List.range count).findSome? f = some a) :
    ∃ n, n < count ∧ f n = some a ∧ ∀ k < n, f k = none := by
  obtain ⟨before, n, after, hrange, hfound, hnone⟩ := List.findSome?_eq_some_iff.mp h
  rw [List.range_eq_range'] at hrange
  obtain ⟨place, hplace, rfl, hafter⟩ := List.range'_eq_append_iff.mp hrange
  obtain ⟨rest, hrest⟩ : ∃ rest, count - place = rest := ⟨_, rfl⟩
  rw [hrest] at hafter
  cases rest with
  | zero => cases hafter
  | succ rest =>
    rw [List.range'_succ, List.cons.injEq] at hafter
    obtain ⟨hn, -⟩ := hafter
    refine ⟨n, by omega, hfound, fun k hk => hnone k ?_⟩
    exact List.mem_range'_1.mpr ⟨Nat.zero_le k, by omega⟩

/-- The shortest decimal is on a grid of up to seventeen digits, and on none of fewer digits lies
another one. -/
theorem exists_shortest_eq {m : Nat} (hm : m ≠ 0) (hm53 : m < 2 ^ 53) (tie : Tie) (e : Int) :
    ∃ d n, n < 17 ∧ (Interval.around m e).onGrid? tie
        (pointOf (Interval.around m e).value (Interval.around m e).denominator - (n + 1 : Nat)) =
          some d ∧
      (∀ k < n, (Interval.around m e).onGrid? tie
        (pointOf (Interval.around m e).value (Interval.around m e).denominator - (k + 1 : Nat)) =
          none) ∧
      shortest tie m e = d.withoutZeros := by
  obtain ⟨d, hd⟩ := Interval.exists_onGrid? (e := e) hm hm53 tie
  cases hfound : (List.range 17).findSome? fun (n : Nat) => (Interval.around m e).onGrid? tie
      (pointOf (Interval.around m e).value (Interval.around m e).denominator - (n + 1 : Nat)) with
  | none =>
    rw [List.findSome?_eq_none_iff] at hfound
    have hnone := hfound 16 (by decide)
    rw [hd] at hnone
    cases hnone
  | some found =>
    obtain ⟨n, hn, hgrid, hnone⟩ := findSome?_range_eq_some hfound
    refine ⟨found, n, hn, hgrid, hnone, ?_⟩
    exact congrArg (fun o : Option Scientific => (o.getD _).withoutZeros) hfound

theorem shortest_coefficient {m : Nat} (hm : m ≠ 0) (hm53 : m < 2 ^ 53) (tie : Tie) (e : Int) :
    (shortest tie m e).coefficient ≠ 0 ∧ (shortest tie m e).coefficient ≤ 10 ^ 17 := by
  obtain ⟨d, n, hn, hd, -, heq⟩ := exists_shortest_eq hm hm53 tie e
  obtain ⟨hcontains, -, hfloor⟩ := Interval.onGrid?_eq_some hd
  have hlt := (Interval.floor_bounds_of_places (Interval.around_value_pos hm e)
    (Interval.around_denominator_pos m e) (n + 1)).2
  have hten : 10 ^ (n + 1) ≤ 10 ^ 17 := Nat.pow_le_pow_right (by decide) (by omega)
  rw [heq]
  refine ⟨d.withoutZeros_coefficient_ne_zero (Interval.coefficient_ne_zero_of_contains hm hcontains),
    Nat.le_trans d.withoutZeros_coefficient_le ?_⟩
  omega

/-- The shortest decimal rounds to the double. -/
theorem shortest_holds {m : Nat} (hm : m ≠ 0) (hm53 : m < 2 ^ 53) (tie : Tie) (e : Int) :
    (Interval.around m e).Holds (shortest tie m e).value := by
  obtain ⟨d, n, hn, hd, -, heq⟩ := exists_shortest_eq hm hm53 tie e
  rw [heq, Scientific.withoutZeros_value,
    ← Interval.contains_iff (Interval.around_denominator_pos m e)]
  exact (Interval.onGrid?_eq_some hd).1

end InstrumentControl.Decimal
