import InstrumentControl.Decimal.Binary64
import Mathlib

/-! The order of double precision numbers.  Comparing finite doubles is comparing the exact values
that `decode` gives, so on them the order is total and transitive.  With the infinities it is still
total. -/

namespace InstrumentControl.Decimal

open Float.Model
open Float.Model.UnpackedFloat (Sign)

namespace Dyadic

/-- The value without the sign. -/
def magnitude (d : Dyadic) : ℚ := d.significand * 2 ^ d.exponent

def value (d : Dyadic) : ℚ := if d.negative then -d.magnitude else d.magnitude

/-- The parts are those of a double: only at the least exponent the significand has less than 53
bits. -/
structure Canonical (d : Dyadic) : Prop where
  significand : d.significand < 2 ^ 53
  exponent : -1074 ≤ d.exponent
  leading : d.exponent = -1074 ∨ 2 ^ 52 ≤ d.significand

def sign (d : Dyadic) : Sign := if d.negative then .negative else .positive

/-- The parts as arithmetic on doubles takes them. -/
def unpacked (d : Dyadic) : UnpackedFloat :=
  if h : d.significand = 0 then .zero d.sign
  else .finite d.sign d.significand d.exponent (Nat.pos_of_ne_zero h)

theorem unpacked_zero {d : Dyadic} (h : d.significand = 0) : d.unpacked = .zero d.sign := dif_pos h

theorem unpacked_finite {d : Dyadic} {s : Sign} {m : Nat} {e : Int} (hm : 0 < m) (hs : s = d.sign)
    (hsignificand : m = d.significand) (he : e = d.exponent) :
    UnpackedFloat.finite s m e hm = d.unpacked := by
  subst hs hsignificand he
  rw [unpacked, dif_neg (Nat.ne_of_gt hm)]

theorem unpacked_ne_notANumber (d : Dyadic) : d.unpacked ≠ .notANumber := by
  intro h
  rw [unpacked] at h
  split at h <;> cases h

theorem unpacked_ne_infinity (d : Dyadic) {s : Sign} : d.unpacked ≠ .infinity s := by
  intro h
  rw [unpacked] at h
  split at h <;> cases h

variable {a b : Dyadic}

theorem magnitude_pos (h : a.significand ≠ 0) : 0 < a.magnitude := by
  have : (0 : ℚ) < a.significand := by exact_mod_cast Nat.pos_of_ne_zero h
  unfold magnitude
  positivity

theorem magnitude_lt_of_exponent_lt (ha : a.Canonical) (hb : b.Canonical)
    (h : a.exponent < b.exponent) : a.magnitude < b.magnitude := by
  have hleading : (2 : ℚ) ^ 52 ≤ b.significand := by
    have hle := ha.exponent
    have : 2 ^ 52 ≤ b.significand := hb.leading.resolve_left (by omega)
    exact_mod_cast this
  have hsignificand : (a.significand : ℚ) < 2 ^ 53 := by exact_mod_cast ha.significand
  have hstep : (2 : ℚ) ^ (a.exponent + 1) ≤ 2 ^ b.exponent :=
    zpow_le_zpow_right₀ (by norm_num) (by omega)
  calc a.magnitude < 2 ^ 53 * 2 ^ a.exponent := mul_lt_mul_of_pos_right hsignificand (by positivity)
    _ = 2 ^ 52 * 2 ^ (a.exponent + 1) := by rw [zpow_add_one₀ (by norm_num)]; ring
    _ ≤ 2 ^ 52 * 2 ^ b.exponent := mul_le_mul_of_nonneg_left hstep (by positivity)
    _ ≤ b.magnitude := mul_le_mul_of_nonneg_right hleading (by positivity)

theorem magnitude_lt_of_significand_lt (he : a.exponent = b.exponent)
    (h : a.significand < b.significand) : a.magnitude < b.magnitude := by
  have hlt : (a.significand : ℚ) < b.significand := by exact_mod_cast h
  unfold magnitude
  rw [he]
  exact mul_lt_mul_of_pos_right hlt (by positivity)

/-- Magnitudes compare by the exponents, and by the significands where those are equal. -/
theorem compare_magnitude (ha : a.Canonical) (hb : b.Canonical) :
    (compare a.exponent b.exponent).then (compare a.significand b.significand) =
      compare a.magnitude b.magnitude := by
  rcases Int.lt_trichotomy a.exponent b.exponent with hlt | heq | hgt
  · rw [compare_lt_iff_lt.mpr hlt, compare_lt_iff_lt.mpr (magnitude_lt_of_exponent_lt ha hb hlt)]
    rfl
  · rw [compare_eq_iff_eq.mpr heq]
    rcases Nat.lt_trichotomy a.significand b.significand with hlt | hsame | hgt
    · rw [compare_lt_iff_lt.mpr hlt,
        compare_lt_iff_lt.mpr (magnitude_lt_of_significand_lt heq hlt)]
      rfl
    · have hmagnitude : a.magnitude = b.magnitude := by rw [magnitude, magnitude, heq, hsame]
      rw [compare_eq_iff_eq.mpr hsame, compare_eq_iff_eq.mpr hmagnitude]
      rfl
    · rw [compare_gt_iff_gt.mpr hgt,
        compare_gt_iff_gt.mpr (magnitude_lt_of_significand_lt heq.symm hgt)]
      rfl
  · rw [compare_gt_iff_gt.mpr hgt, compare_gt_iff_gt.mpr (magnitude_lt_of_exponent_lt hb ha hgt)]
    rfl

theorem compare_neg_neg (x y : ℚ) : compare (-x) (-y) = (compare x y).swap := by
  rcases lt_trichotomy x y with hlt | rfl | hgt
  · rw [compare_lt_iff_lt.mpr hlt, compare_gt_iff_gt.mpr (neg_lt_neg hlt)]
    rfl
  · rw [compare_eq_iff_eq.mpr rfl, compare_eq_iff_eq.mpr rfl]
    rfl
  · rw [compare_gt_iff_gt.mpr hgt, compare_lt_iff_lt.mpr (neg_lt_neg hgt)]
    rfl

theorem value_of_negative (h : a.negative = true) : a.value = -a.magnitude := if_pos h

theorem value_of_positive (h : a.negative = false) : a.value = a.magnitude :=
  if_neg (by rw [h]; exact Bool.false_ne_true)

theorem value_of_zero (h : a.significand = 0) : a.value = 0 := by simp [value, magnitude, h]

theorem value_neg (h : a.significand ≠ 0) (hsign : a.negative = true) : a.value < 0 := by
  rw [value_of_negative hsign]
  exact neg_lt_zero.mpr (magnitude_pos h)

theorem value_pos (h : a.significand ≠ 0) (hsign : a.negative = false) : 0 < a.value := by
  rw [value_of_positive hsign]
  exact magnitude_pos h

/-- Parts compare as their exact values do. -/
theorem compare_unpacked (ha : a.Canonical) (hb : b.Canonical) :
    a.unpacked.compare b.unpacked = some (compare a.value b.value) := by
  have hmagnitude := compare_magnitude ha hb
  by_cases hza : a.significand = 0 <;> by_cases hzb : b.significand = 0
  · rw [value_of_zero hza, value_of_zero hzb, unpacked, unpacked, dif_pos hza, dif_pos hzb]
    rfl
  · rw [value_of_zero hza, unpacked, unpacked, dif_pos hza, dif_neg hzb, sign, sign]
    cases hsign : b.negative with
    | true =>
      rw [compare_gt_iff_gt.mpr (value_neg hzb hsign)]
      rfl
    | false =>
      rw [compare_lt_iff_lt.mpr (value_pos hzb hsign)]
      rfl
  · rw [value_of_zero hzb, unpacked, unpacked, dif_neg hza, dif_pos hzb, sign, sign]
    cases hsign : a.negative with
    | true =>
      rw [compare_lt_iff_lt.mpr (value_neg hza hsign)]
      rfl
    | false =>
      rw [compare_gt_iff_gt.mpr (value_pos hza hsign)]
      rfl
  · rw [unpacked, unpacked, dif_neg hza, dif_neg hzb, sign, sign]
    cases hsigna : a.negative <;> cases hsignb : b.negative
    · rw [value_of_positive hsigna, value_of_positive hsignb, ← hmagnitude]
      rfl
    · rw [compare_gt_iff_gt.mpr ((value_neg hzb hsignb).trans (value_pos hza hsigna))]
      rfl
    · rw [compare_lt_iff_lt.mpr ((value_neg hza hsigna).trans (value_pos hzb hsignb))]
      rfl
    · rw [value_of_negative hsigna, value_of_negative hsignb, compare_neg_neg, ← hmagnitude]
      rfl

end Dyadic

theorem toNat_one_append {w : Nat} (v : BitVec w) : (1#1 ++ v).toNat = v.toNat + 2 ^ w := by
  rw [BitVec.toNat_append, ← Nat.shiftLeft_add_eq_or_of_lt v.isLt]
  simp [Nat.shiftLeft_eq, Nat.add_comm]

theorem unpackMantissa_toNat (b : BitVec Format.binary64.numBits) :
    (UnpackedFloat.unpackMantissa b).toNat = b.toNat % 2 ^ 52 := by
  simp [UnpackedFloat.unpackMantissa]

theorem unpackExponent_toNat (b : BitVec Format.binary64.numBits) :
    (UnpackedFloat.unpackExponent b).toNat = b.toNat / 2 ^ 52 % 2 ^ 11 := by
  simp [UnpackedFloat.unpackExponent, Nat.shiftRight_eq_div_pow]

theorem ofBitVec_unpackSign (b : BitVec Format.binary64.numBits) :
    Sign.ofBitVec (UnpackedFloat.unpackSign b) =
      if decide (Nat.pow 2 63 ≤ b.toNat) = true then .negative else .positive := by
  have hlt : b.toNat < 2 ^ 64 := b.isLt
  have hsign : (UnpackedFloat.unpackSign b).toNat = b.toNat / 2 ^ 63 := by
    delta UnpackedFloat.unpackSign
    simp [Nat.shiftRight_eq_div_pow]
    omega
  rw [Sign.ofBitVec]
  simp only [Nat.pow_eq, decide_eq_true_eq]
  by_cases hhigh : 2 ^ 63 ≤ b.toNat
  · have hne : UnpackedFloat.unpackSign b ≠ 0#1 := by
      intro heq
      rw [heq, BitVec.toNat_zero] at hsign
      omega
    rw [if_neg hne, if_pos hhigh]
  · have hzero : UnpackedFloat.unpackSign b = 0#1 := by
      apply BitVec.eq_of_toNat_eq
      rw [hsign, BitVec.toNat_zero]
      omega
    rw [if_pos hzero, if_neg hhigh]

/-- The parts of `decode` are those that comparisons take. -/
theorem unpack_of_decode {x : Float} {d : Dyadic} (h : decode x = .finite d) :
    d.Canonical ∧ x.toModel.unpack = d.unpacked := by
  have hx : x.toModel.unpack = UnpackedFloat.unpack Format.binary64 x.toBits.toBitVec := rfl
  rw [hx]
  simp only [decode, ← UInt64.toNat_toBitVec] at h
  obtain ⟨b, hb⟩ : ∃ b : BitVec Format.binary64.numBits, x.toBits.toBitVec = b := ⟨_, rfl⟩
  rw [hb] at h ⊢
  have hmantissa := unpackMantissa_toNat b
  have hexponent := unpackExponent_toNat b
  have hsign := ofBitVec_unpackSign b
  split at h
  · -- the greatest exponent field is that of infinities and of no number
    split at h <;> cases h
  next hspecial =>
  have hnotOnes : UnpackedFloat.unpackExponent b ≠ -1#_ := by
    intro hones
    rw [hones] at hexponent
    exact hspecial hexponent.symm
  delta UnpackedFloat.unpack
  dsimp only
  rw [if_neg hnotOnes]
  split at h
  · next hfield =>
    -- without a leading bit: a zero or a subnormal number
    cases h
    have hzero : UnpackedFloat.unpackExponent b = 0#_ := by
      apply BitVec.eq_of_toNat_eq
      rw [hexponent]
      exact hfield
    have hfraction : UnpackedFloat.unpackMantissa b = 0#_ ↔ b.toNat % 2 ^ 52 = 0 := by
      rw [← hmantissa, BitVec.toNat_eq, BitVec.toNat_zero]
    refine ⟨⟨?_, Int.le_refl _, .inl rfl⟩, ?_⟩
    · show b.toNat % 2 ^ 52 < 2 ^ 53
      omega
    · rw [if_pos hzero]
      by_cases hnone : UnpackedFloat.unpackMantissa b = 0#_
      · rw [dif_pos hnone, Dyadic.unpacked_zero (hfraction.mp hnone), hsign]
        rfl
      · rw [dif_neg hnone]
        refine Dyadic.unpacked_finite _ hsign hmantissa ?_
        rw [hexponent, show b.toNat / 2 ^ 52 % 2 ^ 11 = 0 from hfield]
        rfl
  · next hfield =>
    -- the leading bit is implied
    cases h
    have hnotZero : UnpackedFloat.unpackExponent b ≠ 0#_ := by
      intro hzero
      rw [hzero] at hexponent
      exact hfield hexponent.symm
    refine ⟨⟨?_, ?_, .inr ?_⟩, ?_⟩
    · show b.toNat % 2 ^ 52 + 2 ^ 52 < 2 ^ 53
      omega
    · show -1074 ≤ ((b.toNat / 2 ^ 52 % 2 ^ 11 : Nat) : Int) - 1075
      have hpos : b.toNat / 2 ^ 52 % 2 ^ 11 ≠ 0 := hfield
      omega
    · show 2 ^ 52 ≤ b.toNat % 2 ^ 52 + 2 ^ 52
      omega
    · rw [if_neg hnotZero]
      refine Dyadic.unpacked_finite _ hsign ?_ ?_
      · rw [toNat_one_append, hmantissa]
        rfl
      · rw [hexponent]
        rfl

/-- The greatest exponent field is that of infinities and of no number. -/
theorem unpack_of_not_isFinite {x : Float} (h : isFinite x = false) :
    x.toModel.unpack = .notANumber ∨ ∃ s, x.toModel.unpack = .infinity s := by
  have hx : x.toModel.unpack = UnpackedFloat.unpack Format.binary64 x.toBits.toBitVec := rfl
  rw [hx]
  simp only [isFinite, decode, ← UInt64.toNat_toBitVec] at h
  obtain ⟨b, hb⟩ : ∃ b : BitVec Format.binary64.numBits, x.toBits.toBitVec = b := ⟨_, rfl⟩
  rw [hb] at h ⊢
  have hexponent := unpackExponent_toNat b
  have hones : UnpackedFloat.unpackExponent b = -1#_ := by
    apply BitVec.eq_of_toNat_eq
    rw [hexponent]
    by_contra hfield
    rw [if_neg (fun h => hfield (h.trans rfl))] at h
    by_cases hleading : b.toNat / Nat.pow 2 52 % Nat.pow 2 11 = 0
    · rw [if_pos hleading] at h
      cases h
    · rw [if_neg hleading] at h
      cases h
  delta UnpackedFloat.unpack
  dsimp only
  rw [if_pos hones]
  split
  · exact .inr ⟨_, rfl⟩
  · exact .inl rfl

variable {x y z : Float}

theorem isFinite_iff : isFinite x = true ↔ ∃ d, decode x = .finite d := by
  unfold isFinite
  cases decode x <;> simp

theorem compare_eq_compare_value {a b : Dyadic} (hx : decode x = .finite a)
    (hy : decode y = .finite b) :
    x.toModel.unpack.compare y.toModel.unpack = some (compare a.value b.value) := by
  obtain ⟨ha, hxa⟩ := unpack_of_decode hx
  obtain ⟨hb, hyb⟩ := unpack_of_decode hy
  rw [hxa, hyb, Dyadic.compare_unpacked ha hb]

theorem lt_iff_compare : x < y ↔ x.toModel.unpack.compare y.toModel.unpack = some .lt := by
  rw [← beq_iff_eq]
  show (decide (x.toModel < y.toModel)) = true ↔ _
  rw [decide_eq_true_iff]
  rfl

theorem le_iff_compare :
    x ≤ y ↔ (x.toModel.unpack.compare y.toModel.unpack).any (·.isLE) = true := by
  show (decide (x.toModel ≤ y.toModel)) = true ↔ _
  rw [decide_eq_true_iff]
  rfl

theorem le_iff_value_le {a b : Dyadic} (hx : decode x = .finite a) (hy : decode y = .finite b) :
    x ≤ y ↔ a.value ≤ b.value := by
  rw [le_iff_compare, compare_eq_compare_value hx hy, Option.any_some, Ordering.isLE_iff_ne_gt,
    compare_gt_iff_gt, not_lt]

theorem beq_iff_compare : (x == y) = true ↔
    x.toModel.unpack.compare y.toModel.unpack = some .eq := by
  have hbeq : (x == y) = true ↔
      (x.toModel.unpack.compare y.toModel.unpack == some .eq) = true := Iff.rfl
  rw [hbeq, beq_iff_eq]

theorem beq_iff_value_eq {a b : Dyadic} (hx : decode x = .finite a) (hy : decode y = .finite b) :
    (x == y) = true ↔ a.value = b.value := by
  rw [beq_iff_compare, compare_eq_compare_value hx hy, Option.some.injEq, compare_eq_iff_eq]

/-- Equal parts are the same ones or those of zeros. -/
theorem eq_of_compare_eq {u v : UnpackedFloat} (h : u.compare v = some .eq) :
    u = v ∨ ∃ s s', u = .zero s ∧ v = .zero s' := by
  cases u with
  | notANumber => cases v <;> cases h
  | infinity s =>
    cases v with
    | infinity s' => cases s <;> cases s' <;> first | exact .inl rfl | cases h
    | _ => cases s <;> cases h
  | zero s =>
    cases v with
    | zero s' => exact .inr ⟨s, s', rfl, rfl⟩
    | finite s' => cases s' <;> cases h
    | infinity s' => cases s' <;> cases h
    | notANumber => cases h
  | finite s m e hm =>
    cases v with
    | finite s' m' e' hm' =>
      have hsame (h : (compare e e').then (compare m m') = .eq) : m = m' ∧ e = e' := by
        rw [Ordering.then_eq_eq, compare_eq_iff_eq, compare_eq_iff_eq] at h
        exact h.symm
      cases s with
      | positive =>
        cases s' with
        | positive =>
          obtain ⟨rfl, rfl⟩ := hsame (Option.some.inj h)
          exact .inl rfl
        | negative => cases h
      | negative =>
        cases s' with
        | positive => cases h
        | negative =>
          obtain ⟨rfl, rfl⟩ := hsame (Ordering.swap_eq_eq.mp (Option.some.inj h))
          exact .inl rfl
    | infinity s' => cases s <;> cases s' <;> cases h
    | zero s' => cases s <;> cases h
    | notANumber => cases s <;> cases h

theorem compare_eq_of_compare_eq {u v : UnpackedFloat} (h : u.compare v = some .eq) :
    v.compare u = some .eq := by
  rcases eq_of_compare_eq h with rfl | ⟨s, s', rfl, rfl⟩
  · exact h
  · rfl

theorem beq_comm : (x == y) = (y == x) := by
  rw [Bool.eq_iff_iff, beq_iff_compare, beq_iff_compare]
  exact ⟨compare_eq_of_compare_eq, compare_eq_of_compare_eq⟩

/-- A finite double equals finite ones only. -/
theorem isFinite_of_beq (hx : isFinite x = true) (h : (x == y) = true) : isFinite y = true := by
  obtain ⟨a, ha⟩ := isFinite_iff.mp hx
  by_contra hy
  rw [beq_iff_compare, (unpack_of_decode ha).2] at h
  rcases unpack_of_not_isFinite (Bool.eq_false_of_not_eq_true hy) with hnan | ⟨s, hinfinite⟩
  · rw [hnan] at h
    rcases eq_of_compare_eq h with heq | ⟨_, _, -, heq⟩
    · exact a.unpacked_ne_notANumber heq
    · cases heq
  · rw [hinfinite] at h
    rcases eq_of_compare_eq h with heq | ⟨_, _, -, heq⟩
    · exact a.unpacked_ne_infinity heq
    · cases heq

theorem le_trans (hx : isFinite x = true) (hy : isFinite y = true) (hz : isFinite z = true)
    (hxy : x ≤ y) (hyz : y ≤ z) : x ≤ z := by
  obtain ⟨a, ha⟩ := isFinite_iff.mp hx
  obtain ⟨b, hb⟩ := isFinite_iff.mp hy
  obtain ⟨c, hc⟩ := isFinite_iff.mp hz
  rw [le_iff_value_le ha hb] at hxy
  rw [le_iff_value_le hb hc] at hyz
  rw [le_iff_value_le ha hc]
  exact hxy.trans hyz

/-! ### Infinities -/

/-- Numbers compare one way or the other. -/
theorem exists_compare {u v : UnpackedFloat} (hu : u ≠ .notANumber) (hv : v ≠ .notANumber) :
    ∃ o : Ordering, u.compare v = some o ∧ v.compare u = some o.swap := by
  have hswap (e e' : Int) (m m' : Nat) : (compare e' e).then (compare m' m) =
      ((compare e e').then (compare m m')).swap := by
    rw [Ordering.swap_then, ← Std.OrientedOrd.eq_swap, ← Std.OrientedOrd.eq_swap]
  cases u with
  | notANumber => exact absurd rfl hu
  | infinity s =>
    cases v with
    | notANumber => exact absurd rfl hv
    | infinity s' => cases s <;> cases s' <;> exact ⟨_, rfl, rfl⟩
    | zero s' => cases s <;> exact ⟨_, rfl, rfl⟩
    | finite s' => cases s <;> exact ⟨_, rfl, rfl⟩
  | zero s =>
    cases v with
    | notANumber => exact absurd rfl hv
    | infinity s' => cases s' <;> exact ⟨_, rfl, rfl⟩
    | zero s' => exact ⟨_, rfl, rfl⟩
    | finite s' => cases s' <;> exact ⟨_, rfl, rfl⟩
  | finite s m e hm =>
    cases v with
    | notANumber => exact absurd rfl hv
    | infinity s' => cases s' <;> cases s <;> exact ⟨_, rfl, rfl⟩
    | zero s' => cases s <;> exact ⟨_, rfl, rfl⟩
    | finite s' m' e' hm' =>
      cases s with
      | positive =>
        cases s' with
        | positive => exact ⟨_, rfl, congrArg some (hswap e e' m m')⟩
        | negative => exact ⟨_, rfl, rfl⟩
      | negative =>
        cases s' with
        | positive => exact ⟨_, rfl, rfl⟩
        | negative => exact ⟨_, rfl, congrArg some (congrArg Ordering.swap (hswap e e' m m'))⟩

theorem isNaN_eq : x.isNaN = x.toModel.unpack.isNaN := rfl

theorem unpack_ne_notANumber (h : x.isNaN = false) : x.toModel.unpack ≠ .notANumber := by
  intro hunpack
  rw [isNaN_eq, hunpack] at h
  cases h

theorem isNaN_of_isFinite (h : isFinite x = true) : x.isNaN = false := by
  obtain ⟨d, hd⟩ := isFinite_iff.mp h
  rw [isNaN_eq, (unpack_of_decode hd).2, Dyadic.unpacked]
  split <;> rfl

/-- But for NaN the order is total. -/
theorem not_lt_iff_le (hx : x.isNaN = false) (hy : y.isNaN = false) : ¬ x < y ↔ y ≤ x := by
  obtain ⟨o, hxy, hyx⟩ := exists_compare (unpack_ne_notANumber hx) (unpack_ne_notANumber hy)
  rw [lt_iff_compare, le_iff_compare, hxy, hyx]
  cases o <;> decide

end InstrumentControl.Decimal
