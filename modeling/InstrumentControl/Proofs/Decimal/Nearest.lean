import InstrumentControl.Decimal.Literal
import InstrumentControl.Proofs.Decimal.Binary64

/-! Doubles as numbers.  `Denotes` says which number a double is, and `Rounds` that a number was
rounded to it: no double is nearer, and beyond the largest doubles there is infinity.  Quotients and
decimals are rounded so.  An integer keeps 53 bits, hence all of them below `2^53`. -/

namespace InstrumentControl.Decimal

variable {x y : Float} {q r : ℚ} {d : Dyadic}

/-! ### The number that a double is -/

/-- The double is the number `q`. -/
def Denotes (x : Float) (q : ℚ) : Prop := ∃ d, decode x = .finite d ∧ d.value = q

theorem denotes_iff (h : decode x = .finite d) : Denotes x q ↔ d.value = q := by
  constructor
  · rintro ⟨d', hd', hvalue⟩
    rw [h] at hd'
    cases hd'
    exact hvalue
  · exact fun hvalue => ⟨d, h, hvalue⟩

theorem Denotes.unique (hq : Denotes x q) (hr : Denotes x r) : q = r := by
  obtain ⟨d, hd, rfl⟩ := hq
  exact (denotes_iff hd).mp hr

theorem Denotes.isFinite (h : Denotes x q) : Decimal.isFinite x = true := by
  obtain ⟨d, hd, -⟩ := h
  exact isFinite_iff.mpr ⟨d, hd⟩

/-- Doubles equal the one that is `q` exactly if they are `q` themselves. -/
theorem Denotes.beq_iff (hx : Denotes x q) : (x == y) = true ↔ Denotes y q := by
  constructor
  · intro heq
    obtain ⟨b, hb⟩ := isFinite_iff.mp (isFinite_of_beq hx.isFinite heq)
    obtain ⟨a, ha, rfl⟩ := hx
    exact ⟨b, hb, ((beq_iff_value_eq ha hb).mp heq).symm⟩
  · rintro ⟨b, hb, rfl⟩
    obtain ⟨a, ha, hvalue⟩ := hx
    exact (beq_iff_value_eq ha hb).mpr hvalue

theorem not_denotes_of_infinite {negative : Bool} (h : decode x = .infinite negative) :
    ¬ Denotes x q := by
  rintro ⟨d, hd, -⟩
  rw [h] at hd
  cases hd

/-- `v` with a sign. -/
def signed (negative : Bool) (v : ℚ) : ℚ := if negative then -v else v

theorem signed_eq_mul (negative : Bool) (v : ℚ) :
    signed negative v = ((if negative then -1 else 1 : Int) : ℚ) * v := by
  cases negative <;> simp [signed]

@[simp] theorem abs_signed (negative : Bool) (v : ℚ) : |signed negative v| = |v| := by
  cases negative <;> simp [signed]

theorem abs_signed_sub_signed (negative : Bool) (v w : ℚ) :
    |signed negative v - signed negative w| = |v - w| := by
  cases negative with
  | false => rfl
  | true =>
    rw [show signed true v - signed true w = -(v - w) by simp only [signed, if_true]; ring, abs_neg]

theorem Dyadic.value_eq_signed (d : Dyadic) : d.value = signed d.negative d.magnitude := rfl

theorem Dyadic.magnitude_nonneg (d : Dyadic) : 0 ≤ d.magnitude := by
  unfold magnitude
  positivity

theorem Dyadic.abs_value (d : Dyadic) : |d.value| = d.magnitude := by
  rw [value_eq_signed, abs_signed, abs_of_nonneg d.magnitude_nonneg]

/-- A quotient is an integer if nothing remains. -/
theorem div_eq_int_iff {sign z : Int} (hsign : sign * sign = 1) {m unit : Nat} (hunit : unit ≠ 0) :
    (sign * (m / unit) : ℚ) = z ↔ m % unit = 0 ∧ sign * (m / unit : Nat) = z := by
  have hunit' : (unit : ℚ) ≠ 0 := by exact_mod_cast hunit
  constructor
  · intro hvalue
    have hwhole : m % unit = 0 := by
      have hone : (sign : ℚ) * sign = 1 := by exact_mod_cast hsign
      have hmultiple : (m : ℚ) = (sign * z * unit : Int) := by
        push_cast
        rw [← hvalue, ← mul_assoc, hone, one_mul, div_mul_cancel₀ _ hunit']
      have hmultiple : (m : Int) = sign * z * unit := by exact_mod_cast hmultiple
      exact Nat.mod_eq_zero_of_dvd
        (Int.natCast_dvd_natCast.mp ⟨sign * z, hmultiple.trans (mul_comm _ _)⟩)
    rw [← Nat.cast_div (Nat.dvd_of_mod_eq_zero hwhole) hunit', ← Int.cast_natCast] at hvalue
    exact ⟨hwhole, by exact_mod_cast hvalue⟩
  · rintro ⟨hwhole, hvalue⟩
    rw [← Nat.cast_div (Nat.dvd_of_mod_eq_zero hwhole) hunit', ← Int.cast_natCast, ← Int.cast_mul,
      hvalue]

/-- `toInt?` gives the integer that a double is. -/
theorem toInt?_eq_some {z : Int} : toInt? x = some z ↔ Denotes x z := by
  cases hdecode : decode x with
  | nan => simp [toInt?, Denotes, hdecode]
  | infinite negative => simp [toInt?, Denotes, hdecode]
  | finite d =>
    obtain ⟨negative, m, e⟩ := d
    obtain ⟨sign, hsign⟩ : ∃ sign : Int, (if negative then -1 else 1) = sign := ⟨_, rfl⟩
    have hsquare : sign * sign = 1 := by
      rw [← hsign]
      cases negative <;> rfl
    rw [denotes_iff hdecode, Dyadic.value_eq_signed, signed_eq_mul]
    simp only [toInt?, hdecode, Dyadic.magnitude, hsign, Nat.pow_eq]
    by_cases he : 0 ≤ e
    · rw [if_pos he, Option.some.injEq, zpow_eq_pow_toNat he]
      exact_mod_cast Iff.rfl
    · have hscale : (m * 2 ^ e : ℚ) = m / (2 ^ (-e).toNat : Nat) := by
        rw [zpow_eq_inv_pow_toNat he, ← div_eq_mul_inv]
        push_cast
        rfl
      rw [if_neg he, hscale, div_eq_int_iff hsquare (by positivity)]
      by_cases hwhole : m % 2 ^ (-e).toNat = 0
      · rw [if_pos hwhole, Option.some.injEq]
        exact ⟨fun h => ⟨hwhole, h⟩, fun h => h.2⟩
      · rw [if_neg hwhole]
        exact iff_of_false (Option.some_ne_none z).symm fun h => hwhole h.1

/-! ### Nearest doubles -/

/-- The double that `q` is rounded to. -/
inductive Rounds (x : Float) (q : ℚ) : Prop
  /-- No double is nearer. -/
  | nearest {r : ℚ} (hr : Denotes x r)
      (hnearest : ∀ {y : Float} {s : ℚ}, Denotes y s → |q - r| ≤ |q - s|) (hq : |q| < overflow)
  /-- Too large for a double. -/
  | infinite (hx : ∀ r, ¬ Denotes x r) (hq : overflow ≤ |q|)

/-- The nearest double is the number itself if that is one. -/
theorem Rounds.denotes (h : Rounds x q) (hq : |q| < overflow) (hy : Denotes y q) : Denotes x q := by
  cases h with
  | infinite hx hlarge => exact absurd hlarge (not_le.mpr hq)
  | @nearest r hr hnearest hsmall =>
    have hzero : |q - r| ≤ 0 := by simpa using hnearest hy
    rwa [sub_eq_zero.mp (abs_nonpos_iff.mp hzero)]

/-- Distances measured in a unit. -/
theorem abs_sub_mul_unit (v w : ℚ) {unit : ℚ} (hunit : 0 < unit) :
    |v - w * unit| = |v / unit - w| * unit := by
  rw [← abs_of_pos hunit, ← abs_mul, abs_of_pos hunit, sub_mul, div_mul_cancel₀ _ hunit.ne']

/-- Of the multiples of a unit the nearest is at most half a unit away. -/
theorem abs_sub_le_of_multiple {v unit : ℚ} (hunit : 0 < unit) {k : Int}
    (h : |v / unit - k| ≤ 1 / 2) (j : Int) : |v - k * unit| ≤ |v - j * unit| := by
  rw [abs_sub_mul_unit v k hunit, abs_sub_mul_unit v j hunit]
  refine mul_le_mul_of_nonneg_right ?_ hunit.le
  by_cases hsame : k = j
  · rw [hsame]
  · have hapart : (1 : ℚ) ≤ |(k : ℚ) - j| := by
      exact_mod_cast Int.one_le_abs (sub_ne_zero.mpr hsame)
    have hsum : |(k : ℚ) - j| ≤ |(k : ℚ) - v / unit| + |v / unit - j| := abs_sub_le _ _ _
    rw [abs_sub_comm (k : ℚ) (v / unit)] at hsum
    linarith

/-- The multiple of `2^t` next to a number of 53 bits before that place is nearer than every double:
the doubles that are no multiples lie below. -/
theorem abs_sub_le_magnitude {v : ℚ} {t : Int} {k : Nat} (h : |v / 2 ^ t - k| ≤ 1 / 2)
    (hleading : t = -1074 ∨ 2 ^ 52 ≤ v / 2 ^ t) (hd : d.Canonical) :
    |v - k * 2 ^ t| ≤ |v - d.magnitude| := by
  have hunit : (0 : ℚ) < 2 ^ t := by positivity
  have hmultiple := abs_sub_le_of_multiple hunit (k := k) (by exact_mod_cast h)
  rw [Int.cast_natCast] at hmultiple
  rcases lt_or_ge d.exponent t with hless | hmore
  · have hleading := hleading.resolve_left (by have := hd.exponent; omega)
    rw [le_div_iff₀ hunit] at hleading
    have hbelow : d.magnitude < 2 ^ 52 * 2 ^ t := by
      have hsignificand : (d.significand : ℚ) < 2 ^ 53 := by exact_mod_cast hd.significand
      have hscale : (2 : ℚ) ^ (d.exponent + 1) ≤ 2 ^ t :=
        zpow_le_zpow_right₀ (by norm_num) (by omega)
      calc d.magnitude < 2 ^ 53 * 2 ^ d.exponent :=
            mul_lt_mul_of_pos_right hsignificand (by positivity)
        _ = 2 ^ 52 * 2 ^ (d.exponent + 1) := by
          rw [zpow_add_one₀ (by norm_num)]
          ring
        _ ≤ 2 ^ 52 * 2 ^ t := mul_le_mul_of_nonneg_left hscale (by positivity)
    have hfirst := hmultiple (2 ^ 52 : Nat)
    rw [Int.cast_natCast, Nat.cast_pow, Nat.cast_ofNat] at hfirst
    rw [abs_of_nonneg (sub_nonneg.mpr hleading)] at hfirst
    rw [abs_of_nonneg (by linarith : 0 ≤ v - d.magnitude)]
    linarith
  · have hshift : d.magnitude = (d.significand * 2 ^ (d.exponent - t).toNat : Nat) * 2 ^ t := by
      rw [Dyadic.magnitude]
      push_cast
      rw [mul_assoc, ← zpow_natCast (2 : ℚ) (d.exponent - t).toNat, ← zpow_add₀ (by norm_num)]
      congr 2
      omega
    rw [hshift]
    exact_mod_cast hmultiple (d.significand * 2 ^ (d.exponent - t).toNat : Nat)

section

variable {num den : Nat}

/-- A quotient is rounded to a double next to it, at a distance of one part in `2^53` at most if it is
not too small. -/
theorem ofQuotient_cases (negative : Bool) (hnum : 0 < num) (hden : 0 < den) :
    (∃ d, decode (ofQuotient negative num den) = .finite d ∧ d.negative = negative ∧
      (num / den : ℚ) < overflow ∧
      (∀ d' : Dyadic, d'.Canonical → |(num / den : ℚ) - d.magnitude| ≤ |num / den - d'.magnitude|) ∧
      ((2 : ℚ) ^ (-1022 : Int) ≤ num / den →
        |(num / den : ℚ) - d.magnitude| ≤ num / den / 2 ^ 53)) ∨
    decode (ofQuotient negative num den) = .infinite negative ∧ overflow ≤ (num / den : ℚ) := by
  obtain ⟨t, ht⟩ : ∃ t, exponentFor num den = t := ⟨_, rfl⟩
  obtain ⟨k, hk⟩ : ∃ k, significandFor num den = k := ⟨_, rfl⟩
  obtain ⟨v, hv⟩ : ∃ v : ℚ, (num / den : ℚ) = v := ⟨_, rfl⟩
  have hunit : (0 : ℚ) < 2 ^ t := by positivity
  have hleading := (exponentFor_bounds hnum hden ht).2.2
  have hbounds := significandFor_bounds hden ht
  rw [hk, hv] at hbounds
  have hnear : |v / 2 ^ t - k| ≤ 1 / 2 := abs_le.mpr ⟨by linarith, by linarith⟩
  refine (decode_ofQuotient negative hnum hden ht hk).imp_left ?_
  rintro ⟨m, e, hdecode, -, -, hvalue, hsmall⟩
  have hmagnitude : (Dyadic.mk negative m e).magnitude = k * 2 ^ t := hvalue
  rw [hv] at hleading hsmall
  refine ⟨_, hdecode, rfl, hv ▸ hsmall, fun d' hd' => ?_, fun hlow => ?_⟩
  · rw [hv, hmagnitude]
    exact abs_sub_le_magnitude hnear hleading hd'
  · rw [hv] at hlow
    have hleading : 2 ^ 52 ≤ v / 2 ^ t := by
      rcases hleading with rfl | hleading
      · rw [le_div_iff₀ hunit, ← zpow_natCast, ← zpow_add₀ (by norm_num)]
        exact hlow
      · exact hleading
    rw [le_div_iff₀ hunit] at hleading
    rw [hv, hmagnitude, abs_sub_mul_unit v k hunit, le_div_iff₀ (by positivity)]
    have hhalf := mul_le_mul_of_nonneg_right hnear hunit.le
    linarith

theorem abs_signed_sub_value_ge {negative : Bool} {v : ℚ} (hv : 0 ≤ v) (d : Dyadic) :
    |v - d.magnitude| ≤ |signed negative v - d.value| := by
  have h := abs_abs_sub_abs_le (signed negative v) d.value
  rwa [abs_signed, d.abs_value, abs_of_nonneg hv] at h

theorem rounds_of_magnitudes {negative : Bool} {v : ℚ} (hv : 0 ≤ v) (hsmall : v < overflow)
    (hdecode : decode x = .finite d) (hsign : d.negative = negative)
    (h : ∀ d' : Dyadic, d'.Canonical → |v - d.magnitude| ≤ |v - d'.magnitude|) :
    Rounds x (signed negative v) := by
  refine .nearest ⟨d, hdecode, rfl⟩ (fun {y s} hy => ?_) ?_
  · obtain ⟨d', hd', rfl⟩ := hy
    rw [d.value_eq_signed, hsign, abs_signed_sub_signed]
    exact (h d' (unpack_of_decode hd').1).trans (abs_signed_sub_value_ge hv d')
  · rw [abs_signed, abs_of_nonneg hv]
    exact hsmall

theorem rounds_of_infinite {negative sign : Bool} {v : ℚ} (hv : overflow ≤ v)
    (hdecode : decode x = .infinite sign) : Rounds x (signed negative v) :=
  .infinite (fun _ => not_denotes_of_infinite hdecode)
    (hv.trans (by rw [abs_signed]; exact le_abs_self v))

theorem rounds_ofQuotient (negative : Bool) (hnum : 0 < num) (hden : 0 < den) :
    Rounds (ofQuotient negative num den) (signed negative (num / den)) := by
  have hv : (0 : ℚ) ≤ num / den := by positivity
  rcases ofQuotient_cases negative hnum hden with
    ⟨d, hdecode, hsign, hsmall, hnearest, -⟩ | ⟨hinfinite, hlarge⟩
  · exact rounds_of_magnitudes hv hsmall hdecode hsign hnearest
  · exact rounds_of_infinite hlarge hinfinite

end

/-- Numbers that are neither too large nor too small have a double at a distance of one part in
`2^53`. -/
theorem exists_near (hlow : (2 : ℚ) ^ (-1022 : Int) ≤ |q|) (hhigh : |q| < overflow) :
    ∃ y s, Denotes y s ∧ |q - s| ≤ |q| / 2 ^ 53 := by
  have hpos : 0 < |q| := lt_of_lt_of_le (by positivity) hlow
  have hnum : 0 < q.num.natAbs :=
    Int.natAbs_pos.mpr (Rat.num_ne_zero.mpr (abs_pos.mp hpos))
  have habs : (q.num.natAbs / q.den : ℚ) = |q| := by
    rw [Nat.cast_natAbs, Int.cast_abs, ← abs_of_pos (Nat.cast_pos.mpr q.den_pos : (0 : ℚ) < q.den),
      ← abs_div, Rat.num_div_den]
  have hsign : q = signed (decide (q < 0)) |q| := by
    by_cases hneg : q < 0
    · simp [signed, hneg, abs_of_neg hneg]
    · simp [signed, hneg, abs_of_nonneg (not_lt.mp hneg)]
  rcases ofQuotient_cases (decide (q < 0)) hnum q.den_pos with
    ⟨d, hdecode, hnegative, -, -, herror⟩ | ⟨-, hlarge⟩
  · refine ⟨_, d.value, ⟨d, hdecode, rfl⟩, ?_⟩
    rw [habs] at herror
    have herror := herror hlow
    rw [← abs_signed_sub_signed (decide (q < 0)), ← hsign, ← hnegative,
      ← d.value_eq_signed] at herror
    exact herror
  · rw [habs] at hlarge
    exact absurd hlarge (not_le.mpr hhigh)

/-- Rounding changes a number that is not too small by one part in `2^53` at most. -/
theorem Rounds.error (h : Rounds x q) (hr : Denotes x r) (hlow : (2 : ℚ) ^ (-1022 : Int) ≤ |q|) :
    |q - r| ≤ |q| / 2 ^ 53 := by
  cases h with
  | infinite hx _ => exact absurd hr (hx r)
  | nearest hr' hnearest hsmall =>
    obtain ⟨y, s, hy, hs⟩ := exists_near hlow hsmall
    rw [hr.unique hr']
    exact (hnearest hy).trans hs

/-! ### Decimals -/

theorem two_zpow_lt_overflow {k : Int} (hk : k ≤ 1023) : (2 : ℚ) ^ k < overflow := by
  calc (2 : ℚ) ^ k ≤ 2 ^ ((52 : Int) + 971) := zpow_le_zpow_right₀ (by norm_num) hk
    _ = 2 ^ (52 : Int) * 2 ^ (971 : Int) := zpow_add₀ (by norm_num) _ _
    _ < overflow := mul_lt_mul_of_pos_right (by norm_num) (by positivity)

theorem two_zpow_le_ten_zpow {a b : Int} (hb : 0 ≤ b) (h : a ≤ 3 * b) : (2 : ℚ) ^ a ≤ 10 ^ b := by
  calc (2 : ℚ) ^ a ≤ 2 ^ (3 * b) := zpow_le_zpow_right₀ (by norm_num) h
    _ = (2 ^ (3 : Int)) ^ b := zpow_mul 2 3 b
    _ ≤ 10 ^ b := zpow_le_zpow_left₀ hb (by norm_num) (by norm_num)

theorem overflow_le_ten_zpow : overflow ≤ 10 ^ (400 : Int) := by
  calc overflow ≤ 2 ^ (53 : Int) * 2 ^ (971 : Int) :=
        mul_le_mul_of_nonneg_right (by norm_num) (by positivity)
    _ = 2 ^ ((53 : Int) + 971) := (zpow_add₀ (by norm_num) _ _).symm
    _ ≤ 10 ^ (400 : Int) := two_zpow_le_ten_zpow (by norm_num) (by norm_num)

/-- Zero is nearest to a number that is at most half of the least double. -/
theorem abs_le_abs_sub_magnitude {v : ℚ} (hv : 0 ≤ v) (hsmall : 2 * v ≤ 2 ^ (-1074 : Int))
    (hd : d.Canonical) : |v - 0| ≤ |v - d.magnitude| := by
  rw [sub_zero, abs_of_nonneg hv]
  rcases Nat.eq_zero_or_pos d.significand with hzero | hpos
  · rw [Dyadic.magnitude, hzero, Nat.cast_zero, zero_mul, sub_zero]
    exact le_abs_self v
  · have hleast : (2 : ℚ) ^ (-1074 : Int) ≤ d.magnitude := by
      have hone : (1 : ℚ) ≤ d.significand := by exact_mod_cast hpos
      calc (2 : ℚ) ^ (-1074 : Int) ≤ 2 ^ d.exponent :=
            zpow_le_zpow_right₀ (by norm_num) hd.exponent
        _ ≤ d.magnitude := le_mul_of_one_le_left (by positivity) hone
    rw [abs_sub_comm]
    exact (by linarith : v ≤ d.magnitude - v).trans (le_abs_self _)

theorem decode_ofBits_zero (negative : Bool) :
    decode (ofBits negative 0) = .finite ⟨negative, 0, -1074⟩ := by
  cases negative <;> rfl

theorem rounds_zero (negative : Bool) {v : ℚ} (hv : 0 ≤ v)
    (hsmall : 2 * v ≤ 2 ^ (-1074 : Int)) : Rounds (ofBits negative 0) (signed negative v) := by
  have hmagnitude : (Dyadic.mk negative 0 (-1074)).magnitude = 0 := by simp [Dyadic.magnitude]
  have hover := two_zpow_lt_overflow (k := -1074) (by norm_num)
  refine rounds_of_magnitudes hv (by linarith) (decode_ofBits_zero negative) rfl fun d' hd' => ?_
  rw [hmagnitude]
  exact abs_le_abs_sub_magnitude hv hsmall hd'

theorem decimal_bounds {c : Nat} (hc : 0 < c) (e : Int) :
    (10 : ℚ) ^ ((digitCount c : Int) + e - 1) ≤ c * 10 ^ e ∧
      (c * 10 ^ e : ℚ) < 10 ^ ((digitCount c : Int) + e) := by
  have hcount : digitCount c = (Nat.toDigits 10 c).length := if_neg (Nat.ne_of_gt hc)
  have hpos : 0 < (Nat.toDigits 10 c).length := Nat.length_toDigits_pos
  have hscale : (0 : ℚ) < 10 ^ e := by positivity
  rw [hcount]
  constructor
  · rw [show ((Nat.toDigits 10 c).length : Int) + e - 1 = ((Nat.toDigits 10 c).length - 1) + e by ring,
      zpow_add₀ (by norm_num), natCast_zpow_sub_one hpos]
    exact mul_le_mul_of_nonneg_right (by exact_mod_cast pow_length_toDigits_le hc) hscale.le
  · rw [zpow_add₀ (by norm_num), zpow_natCast]
    exact mul_lt_mul_of_pos_right (by exact_mod_cast lt_pow_length_toDigits c) hscale

/-- A decimal is zero or infinity if it is that small or that large, and else a rounded quotient. -/
theorem ofDecimal_cases (negative : Bool) (c : Nat) (e : Int) :
    ofDecimal negative c e = ofBits negative 0 ∧ 2 * (c * 10 ^ e : ℚ) < 2 ^ (-1074 : Int) ∨
    ofDecimal negative c e = infinity negative ∧ overflow ≤ (c * 10 ^ e : ℚ) ∨
    ∃ num den : Nat, 0 < num ∧ 0 < den ∧ (c * 10 ^ e : ℚ) = num / den ∧
      ofDecimal negative c e = ofQuotient negative num den := by
  obtain ⟨p, hp⟩ : ∃ p, (digitCount c : Int) + e = p := ⟨_, rfl⟩
  simp only [ofDecimal, hp, Nat.pow_eq]
  by_cases hsmall : c = 0 ∨ p < -400
  · left
    rw [if_pos (by simpa using hsmall)]
    refine ⟨rfl, ?_⟩
    rcases Nat.eq_zero_or_pos c with rfl | hc
    · simp only [Nat.cast_zero, zero_mul, mul_zero]
      positivity
    · have hless : p < -400 := hsmall.resolve_left (by omega)
      have hhigh := (decimal_bounds hc e).2
      rw [hp] at hhigh
      have hten : (10 : ℚ) ^ p ≤ (10 ^ (401 : Int))⁻¹ := by
        rw [← zpow_neg]
        exact zpow_le_zpow_right₀ (by norm_num) (by omega)
      have htwo : ((10 : ℚ) ^ (401 : Int))⁻¹ ≤ (2 ^ (1075 : Int))⁻¹ :=
        inv_anti₀ (by positivity) (two_zpow_le_ten_zpow (by norm_num) (by norm_num))
      have hhalf : 2 * ((2 : ℚ) ^ (1075 : Int))⁻¹ = 2 ^ (-1074 : Int) := by
        rw [← zpow_neg, show (-1074 : Int) = -1075 + 1 by rfl, zpow_add_one₀ (by norm_num)]
        ring
      linarith
  · right
    obtain ⟨hc, hmore⟩ := not_or.mp hsmall
    have hc : 0 < c := Nat.pos_of_ne_zero hc
    rw [if_neg (by simpa using hsmall)]
    by_cases hlarge : 400 < p
    · left
      rw [if_pos hlarge]
      refine ⟨rfl, ?_⟩
      have hlow := (decimal_bounds hc e).1
      rw [hp] at hlow
      have hten : (10 : ℚ) ^ (400 : Int) ≤ 10 ^ (p - 1) :=
        zpow_le_zpow_right₀ (by norm_num) (by omega)
      exact overflow_le_ten_zpow.trans (hten.trans hlow)
    · right
      rw [if_neg hlarge]
      by_cases he : 0 ≤ e
      · rw [if_pos he]
        refine ⟨c * 10 ^ e.toNat, 1, by positivity, Nat.one_pos, ?_, rfl⟩
        rw [zpow_eq_pow_toNat he]
        push_cast
        rw [div_one]
      · rw [if_neg he]
        refine ⟨c, 10 ^ (-e).toNat, hc, by positivity, ?_, rfl⟩
        rw [zpow_eq_inv_pow_toNat he, div_eq_mul_inv]
        push_cast
        rfl

/-- A decimal is rounded to a nearest double. -/
theorem rounds_ofDecimal (negative : Bool) (c : Nat) (e : Int) :
    Rounds (ofDecimal negative c e) (signed negative (c * 10 ^ e)) := by
  rcases ofDecimal_cases negative c e with
    ⟨hzero, hsmall⟩ | ⟨hinfinity, hlarge⟩ | ⟨num, den, hnum, hden, hvalue, hquotient⟩
  · rw [hzero]
    exact rounds_zero negative (by positivity) hsmall.le
  · rw [hinfinity]
    exact rounds_of_infinite hlarge (decode_infinityBits negative)
  · rw [hquotient, hvalue]
    exact rounds_ofQuotient negative hnum hden

/-- A decimal that is too large becomes the infinity of its sign. -/
theorem decode_ofDecimal_of_overflow (negative : Bool) {c : Nat} {e : Int}
    (h : overflow ≤ (c * 10 ^ e : ℚ)) : decode (ofDecimal negative c e) = .infinite negative := by
  have hnone {d : Dyadic} : decode (ofDecimal negative c e) ≠ .finite d := by
    intro hdecode
    cases rounds_ofDecimal negative c e with
    | infinite hx _ => exact hx d.value ⟨d, hdecode, rfl⟩
    | nearest _ _ hsmall =>
      rw [abs_signed] at hsmall
      exact absurd (hsmall.trans_le h) (not_lt.mpr (le_abs_self _))
  rcases ofDecimal_cases negative c e with
    ⟨hx, -⟩ | ⟨hx, -⟩ | ⟨num, den, hnum, hden, -, hx⟩
  · rw [hx] at hnone
    exact absurd (decode_ofBits_zero negative) hnone
  · rw [hx]
    exact decode_infinityBits negative
  · rw [hx] at hnone ⊢
    rcases ofQuotient_cases negative hnum hden with ⟨d, hdecode, -⟩ | ⟨hinfinite, -⟩
    · exact absurd hdecode hnone
    · exact hinfinite

/-! ### Integers -/

/-- The integer rounded to 53 bits, half-way to the even one. -/
def rounded (i : Int) : Int :=
  let unit := 2 ^ (i.natAbs.log2 - 52)
  i.sign * (roundHalfEven i.natAbs unit * unit : Nat)

theorem roundHalfEven_one (n : Nat) : roundHalfEven n 1 = n := by
  simp [roundHalfEven, Nat.mod_one]

/-- An integer of at most 53 bits is not changed. -/
theorem rounded_eq_self {i : Int} (h : i.natAbs < 2 ^ 53) : rounded i = i := by
  have hlog : i.natAbs.log2 - 52 = 0 := by
    rcases Nat.eq_zero_or_pos i.natAbs with hzero | hpos
    · rw [hzero]
      rfl
    · have hlt : i.natAbs.log2 < 53 := (Nat.log2_lt (by omega)).mpr h
      omega
  rw [rounded, hlog, pow_zero, roundHalfEven_one, Nat.mul_one, Int.sign_mul_natAbs]

theorem le_roundHalfEven (num den : Nat) : num / den ≤ roundHalfEven num den := by
  simp only [roundHalfEven]
  split
  · exact Nat.le_refl _
  · split <;> exact Nat.le_add_right _ _

/-- Larger integers stay as large. -/
theorem le_natAbs_rounded {i : Int} (h : 2 ^ 53 ≤ i.natAbs) : 2 ^ 53 ≤ (rounded i).natAbs := by
  have hi : i ≠ 0 := by
    rintro rfl
    simp at h
  obtain ⟨n, hn⟩ : ∃ n, i.natAbs = n := ⟨_, rfl⟩
  rw [hn] at h
  have hlog : 53 ≤ n.log2 := (Nat.le_log2 (by omega)).mpr h
  obtain ⟨unit, hunit⟩ : ∃ unit, 2 ^ (n.log2 - 52) = unit := ⟨_, rfl⟩
  have hsplit : 2 ^ n.log2 = 2 ^ 52 * unit := by
    rw [← hunit, ← pow_add]
    congr 1
    omega
  have hfloor : 2 ^ 52 ≤ n / unit := by
    rw [Nat.le_div_iff_mul_le (hunit ▸ Nat.two_pow_pos _), ← hsplit]
    exact Nat.log2_self_le (by omega)
  rw [rounded, Int.natAbs_mul, Int.natAbs_sign_of_ne_zero hi, Nat.one_mul, Int.natAbs_natCast, hn,
    hunit]
  calc 2 ^ 53 ≤ 2 ^ n.log2 := Nat.pow_le_pow_right (by decide) hlog
    _ = 2 ^ 52 * unit := hsplit
    _ ≤ roundHalfEven n unit * unit :=
      Nat.mul_le_mul_right unit (Nat.le_trans hfloor (le_roundHalfEven n unit))

/-- An integer of at most 53 bits is rounded apart from every other one. -/
theorem rounded_eq_iff {i j : Int} (h : i.natAbs < 2 ^ 53 ∨ j.natAbs < 2 ^ 53) :
    rounded i = rounded j ↔ i = j := by
  have hsmall {i j : Int} (h : i.natAbs < 2 ^ 53) (heq : rounded i = rounded j) : i = j := by
    rw [rounded_eq_self h] at heq
    have hj : j.natAbs < 2 ^ 53 := by
      by_contra hlarge
      have := le_natAbs_rounded (Nat.le_of_not_lt hlarge)
      rw [← heq] at this
      omega
    rwa [rounded_eq_self hj] at heq
  refine ⟨fun heq => ?_, fun heq => by rw [heq]⟩
  rcases h with h | h
  · exact hsmall h heq
  · exact (hsmall h heq.symm).symm

theorem significandFor_one {n : Nat} (hn : 0 < n) :
    (significandFor n 1 * 2 ^ ((n.log2 : Int) - 52) : ℚ) =
      (roundHalfEven n (2 ^ (n.log2 - 52)) * 2 ^ (n.log2 - 52) : Nat) := by
  rw [significandFor, exponentFor_one hn, scaleBy]
  by_cases hlog : 0 ≤ (n.log2 : Int) - 52
  · have hplaces : ((n.log2 : Int) - 52).toNat = n.log2 - 52 := by omega
    rw [if_pos hlog, zpow_eq_pow_toNat hlog, hplaces, Nat.one_mul, Nat.pow_eq]
    push_cast
    rfl
  · have hplaces : n.log2 - 52 = 0 := by omega
    rw [if_neg hlog, zpow_eq_inv_pow_toNat hlog, hplaces, roundHalfEven_one, pow_zero,
      roundHalfEven_one, Nat.mul_one, Nat.pow_eq]
    push_cast
    exact mul_inv_cancel_right₀ (by positivity) _

/-- The double of an integer is the integer rounded to 53 bits. -/
theorem denotes_ofInt {i : Int} (h : (i.natAbs : ℚ) < largest) : Denotes (ofInt i) (rounded i) := by
  obtain ⟨n, hn⟩ : ∃ n, i.natAbs = n := ⟨_, rfl⟩
  rcases Nat.eq_zero_or_pos n with rfl | hpos
  · rw [Int.natAbs_eq_zero.mp hn]
    exact ⟨⟨false, 0, -1074⟩, rfl, by simp [Dyadic.value, Dyadic.magnitude, rounded]⟩
  · obtain ⟨t, ht⟩ : ∃ t, (n.log2 : Int) - 52 = t := ⟨_, rfl⟩
    have hexponent : exponentFor n 1 = t := (exponentFor_one hpos).trans ht
    rw [hn] at h
    rw [ofInt, hn]
    rcases decode_ofQuotient (decide (i < 0)) hpos Nat.one_pos hexponent rfl with
      ⟨m, e, hdecode, -, -, hvalue, -⟩ | ⟨-, hlarge⟩
    · refine ⟨_, hdecode, ?_⟩
      have hsign : (if decide (i < 0) then -1 else 1 : Int) = i.sign := by
        by_cases hneg : i < 0
        · rw [Int.sign_eq_neg_one_of_neg hneg]
          simp [hneg]
        · rw [Int.sign_eq_one_of_pos (by omega)]
          simp [hneg]
      have hmagnitude : (Dyadic.mk (decide (i < 0)) m e).magnitude =
          (roundHalfEven n (2 ^ (n.log2 - 52)) * 2 ^ (n.log2 - 52) : Nat) := by
        rw [← significandFor_one hpos, ht]
        exact hvalue
      rw [Dyadic.value_eq_signed, signed_eq_mul, hmagnitude, hsign, rounded, hn]
      push_cast
      rfl
    · rw [Nat.cast_one, div_one] at hlarge
      exact absurd hlarge (not_le.mpr (h.trans largest_lt_overflow))

theorem natAbs_toInt_le (a : Int64) : (a.toInt.natAbs : ℚ) ≤ 2 ^ 63 := by
  have hlow := a.le_toInt
  have hhigh := a.toInt_lt
  have hbits : a.toInt.natAbs ≤ 2 ^ 63 := by omega
  exact_mod_cast hbits

/-- Every 64-bit integer lies below the largest double. -/
theorem denotes_ofInt_toInt (a : Int64) : Denotes (ofInt a.toInt) (rounded a.toInt) := by
  refine denotes_ofInt ?_
  have hscale : (2 : ℚ) ^ (11 : Int) ≤ 2 ^ (971 : Int) :=
    zpow_le_zpow_right₀ (by norm_num) (by norm_num)
  have hlargest : ((2 : ℚ) ^ 53 - 1) * 2 ^ (11 : Int) ≤ largest :=
    mul_le_mul_of_nonneg_left hscale (by norm_num)
  refine lt_of_le_of_lt (natAbs_toInt_le a) (lt_of_lt_of_le ?_ hlargest)
  norm_num

end InstrumentControl.Decimal
