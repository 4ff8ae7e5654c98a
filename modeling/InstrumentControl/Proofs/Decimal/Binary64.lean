import InstrumentControl.Proofs.Decimal.Order
import InstrumentControl.Proofs.Decimal.Shortest
import Mathlib

/-! Doubles from their parts, from quotients and from integers.  The bits that are built of a
significand and an exponent stand for the double with these parts.  A quotient is rounded to a
significand of 53 bits, and an integer becomes a double next to it, which is the integer itself below
`2^53`. -/

namespace InstrumentControl.Decimal

open Float.Model
open Float.Model.UnpackedFloat

/-! ### Bits -/

variable {x y : Float} {m n : Nat} {e : Int}

/-- A double is what its parts are packed to. -/
theorem ofModel_pack {u : UnpackedFloat} (h : x.toModel.unpack = u) :
    Float.ofModel (Float.Model.pack u) = x := by
  rw [← h, ← Float.toBits_inj, ← UInt64.toBitVec_inj]
  exact pack_unpack_of_valid x.toModel.valid

theorem eq_of_decode {d : Dyadic} (hx : decode x = .finite d) (hy : decode y = .finite d) :
    x = y := by
  rw [← ofModel_pack (unpack_of_decode hx).2, ← ofModel_pack (unpack_of_decode hy).2]

/-- A word whose exponent field is not the greatest one is the bits of a double. -/
theorem toNat_toBits_ofWord {word : Nat} (h : word < 2 ^ 64)
    (hfield : word / 2 ^ 52 % 2 ^ 11 < 2047) :
    (Float.ofBits (UInt64.ofNat word)).toBits.toNat = word := by
  obtain ⟨b, hb⟩ : ∃ b : BitVec Format.binary64.numBits, (UInt64.ofNat word).toBitVec = b :=
    ⟨_, rfl⟩
  have hnat : b.toNat = word := by
    rw [← hb]
    simpa using Nat.mod_eq_of_lt h
  have hnumber : isNaNBits b = false := by
    have hexponent := unpackExponent_toNat b
    have hnotOnes : unpackExponent b ≠ -1#_ := by
      intro hones
      have hgreatest : (unpackExponent b).toNat = 2047 := by
        rw [hones]
        rfl
      omega
    rw [isNaNBits, decide_eq_false_iff_not]
    exact fun h => hnotOnes h.1
  have htoBits : (Float.ofBits (UInt64.ofNat word)).toBits = UInt64.ofBitVec
      (UnpackedFloat.pack Format.binary64 (UnpackedFloat.unpack Format.binary64 b)) := by
    rw [← hb]
    rfl
  rw [htoBits, pack_unpack b, hnumber, if_neg Bool.false_ne_true]
  exact hnat

theorem toNat_toBits_ofBits (negative : Bool) {bits : Nat} (h : bits < infinityBits) :
    (ofBits negative bits).toBits.toNat = if negative then 2 ^ 63 + bits else bits := by
  have hbits : bits < 2047 * 2 ^ 52 := h
  rw [ofBits, Nat.pow_eq]
  cases negative with
  | false =>
    rw [if_neg Bool.false_ne_true]
    exact toNat_toBits_ofWord (by omega) (by omega)
  | true =>
    rw [if_pos rfl]
    exact toNat_toBits_ofWord (by omega) (by omega)

/-- The parts of a double are those of its bits. -/
theorem decode_ofBits {negative : Bool} (h : Dyadic.Canonical ⟨negative, m, e⟩) (he : e ≤ 971) :
    decode (ofBits negative ((e + 1074).toNat * Nat.pow 2 52 + m)) = .finite ⟨negative, m, e⟩ := by
  obtain ⟨hm, hlow, hleading⟩ := h
  simp only at hm hlow hleading
  obtain ⟨k, rfl⟩ : ∃ k : Nat, e = (k : Int) - 1074 := ⟨(e + 1074).toNat, by omega⟩
  rw [show ((k : Int) - 1074 + 1074).toNat = k by omega]
  have hbits : k * Nat.pow 2 52 + m < infinityBits := by
    simp only [infinityBits, Nat.pow_eq]
    omega
  obtain ⟨word, hword⟩ : ∃ word, (if negative then 2 ^ 63 + (k * 2 ^ 52 + m)
      else k * 2 ^ 52 + m) = word := ⟨_, rfl⟩
  obtain ⟨hsign, hfield, hfraction⟩ : decide (2 ^ 63 ≤ word) = negative ∧
      word / 2 ^ 52 % 2 ^ 11 = (k * 2 ^ 52 + m) / 2 ^ 52 ∧ word % 2 ^ 52 = m % 2 ^ 52 := by
    simp only [infinityBits, Nat.pow_eq] at hbits
    rw [← hword]
    cases negative with
    | false =>
      rw [decide_eq_false_iff_not]
      simp only [Bool.false_eq_true, if_false]
      omega
    | true =>
      rw [decide_eq_true_eq]
      simp only [if_true]
      omega
  simp only [decode, toNat_toBits_ofBits negative hbits, Nat.pow_eq, hword, hsign, hfield,
    hfraction]
  by_cases hsmall : m < 2 ^ 52
  · have hk : k = 0 := by omega
    rw [if_neg (by omega), if_pos (by omega), Nat.mod_eq_of_lt hsmall, hk]
    rfl
  · have hplace : (k * 2 ^ 52 + m) / 2 ^ 52 = k + 1 := by omega
    have hleft : m % 2 ^ 52 + 2 ^ 52 = m := by omega
    rw [hplace, hleft, if_neg (by omega), if_neg (by omega)]
    congr 2
    omega

theorem exponent_le_of_decode {d : Dyadic} (h : decode x = .finite d) : d.exponent ≤ 971 := by
  simp only [decode, Nat.pow_eq] at h
  split at h
  · split at h <;> cases h
  next hspecial =>
  split at h <;> cases h
  · exact (by decide : (-1074 : Int) ≤ 971)
  · show ((x.toBits.toNat / 2 ^ 52 % 2 ^ 11 : Nat) : Int) - 1075 ≤ 971
    omega

/-- A finite double or its negation has no sign. -/
theorem exists_decode_positive {negative : Bool} (h : decode x = .finite ⟨negative, m, e⟩) :
    ∃ y, decode y = .finite ⟨false, m, e⟩ ∧ x = if negative then -y else y := by
  obtain ⟨⟨hm, hlow, hleading⟩, hx⟩ := unpack_of_decode h
  obtain ⟨y, hy⟩ : ∃ y, ofBits false ((e + 1074).toNat * Nat.pow 2 52 + m) = y := ⟨_, rfl⟩
  have hdecode : decode y = .finite ⟨false, m, e⟩ :=
    hy ▸ decode_ofBits ⟨hm, hlow, hleading⟩ (exponent_le_of_decode h)
  refine ⟨y, hdecode, ?_⟩
  cases negative with
  | false => exact eq_of_decode h hdecode
  | true =>
    have hneg : y.toModel.unpack.neg = (Dyadic.mk true m e).unpacked := by
      rw [(unpack_of_decode hdecode).2, Dyadic.unpacked, Dyadic.unpacked]
      by_cases hzero : m = 0
      · rw [dif_pos hzero, dif_pos hzero]
        rfl
      · rw [dif_neg hzero, dif_neg hzero]
        rfl
    rw [if_pos rfl, ← ofModel_pack (hx.trans hneg.symm)]
    rfl

/-! ### Quotients -/

theorem le_of_cast_lt_add_one {k n : Nat} (h : (k : ℚ) < n + 1) : k ≤ n :=
  Nat.lt_succ_iff.mp (by exact_mod_cast h)

theorem scaleBy_quotient (num den : Nat) (e : Int) (hden : 0 < den) :
    0 < (scaleBy num den e).2 ∧
      ((scaleBy num den e).1 / (scaleBy num den e).2 : ℚ) = num / den / 2 ^ e := by
  unfold scaleBy
  split
  · next he =>
    refine ⟨Nat.mul_pos hden (Nat.pow_pos (by decide)), ?_⟩
    rw [zpow_eq_pow_toNat he, div_div, Nat.pow_eq]
    push_cast
    rfl
  · next he =>
    refine ⟨hden, ?_⟩
    rw [zpow_eq_inv_pow_toNat he, div_inv_eq_mul, div_mul_eq_mul_div, Nat.pow_eq]
    push_cast
    rfl

theorem roundHalfEven_bounds (num : Nat) {den : Nat} (hden : 0 < den) :
    (num / den : ℚ) - 1 / 2 ≤ roundHalfEven num den ∧
      (roundHalfEven num den : ℚ) ≤ num / den + 1 / 2 := by
  have hden' : (0 : ℚ) < den := by exact_mod_cast hden
  have hparts := Nat.div_add_mod num den
  have hlow : 2 * num ≤ 2 * (den * roundHalfEven num den) + den ∧
      2 * (den * roundHalfEven num den) ≤ 2 * num + den := by
    have hrest := Nat.mod_lt num hden
    simp only [roundHalfEven]
    split
    · omega
    · split
      · rw [Nat.mul_add]
        omega
      · rcases Nat.mod_two_eq_zero_or_one (num / den) with heven | hodd
        · rw [heven, Nat.mul_add]
          omega
        · rw [hodd, Nat.mul_add]
          omega
  obtain ⟨hlow, hhigh⟩ := hlow
  have hlow' : (2 * num : ℚ) ≤ 2 * (den * roundHalfEven num den) + den := by exact_mod_cast hlow
  have hhigh' : (2 * (den * roundHalfEven num den) : ℚ) ≤ 2 * num + den := by exact_mod_cast hhigh
  constructor
  · rw [sub_le_iff_le_add, div_le_iff₀ hden']
    linarith
  · rw [← sub_le_iff_le_add, le_div_iff₀ hden']
    linarith

/-- Half-way lies no number that is rounded down to an odd one. -/
theorem lt_roundHalfEven_add_half {num den : Nat} (hden : 0 < den)
    (hodd : roundHalfEven num den % 2 = 1) : (num / den : ℚ) < roundHalfEven num den + 1 / 2 := by
  have hden' : (0 : ℚ) < den := by exact_mod_cast hden
  have hparts := Nat.div_add_mod num den
  have hrest := Nat.mod_lt num hden
  have hlt : 2 * num < 2 * (den * roundHalfEven num den) + den := by
    simp only [roundHalfEven] at hodd ⊢
    split at hodd
    · next hless =>
      rw [if_pos hless]
      omega
    · next hless =>
      rw [if_neg hless]
      split at hodd
      · next hmore =>
        rw [if_pos hmore, Nat.mul_add]
        omega
      · omega
  have hlt' : (2 * num : ℚ) < 2 * (den * roundHalfEven num den) + den := by exact_mod_cast hlt
  rw [div_lt_iff₀ hden']
  linarith

/-- A quotient is rounded to the nearest number, and halfway to the even one. -/
theorem roundHalfEven_eq {num den : Nat} (hden : 0 < den) (hlow : (n : ℚ) - 1 / 2 ≤ num / den)
    (hhigh : (num / den : ℚ) ≤ n + 1 / 2)
    (htie : n % 2 = 0 ∨ (n : ℚ) - 1 / 2 < num / den ∧ (num / den : ℚ) < n + 1 / 2) :
    roundHalfEven num den = n := by
  have hden' : (0 : ℚ) < den := by exact_mod_cast hden
  have hlow' : 2 * (den * n) ≤ 2 * num + den := by
    rw [sub_le_iff_le_add, ← sub_le_iff_le_add, le_div_iff₀ hden'] at hlow
    have : (2 * (den * n) : ℚ) ≤ 2 * num + den := by linarith
    exact_mod_cast this
  have hhigh' : 2 * num ≤ 2 * (den * n) + den := by
    rw [div_le_iff₀ hden'] at hhigh
    have : (2 * num : ℚ) ≤ 2 * (den * n) + den := by linarith
    exact_mod_cast this
  have htie' : n % 2 = 0 ∨ 2 * (den * n) < 2 * num + den ∧ 2 * num < 2 * (den * n) + den := by
    refine htie.imp_right fun h => ?_
    rw [lt_div_iff₀ hden', div_lt_iff₀ hden'] at h
    have hleft : (2 * (den * n) : ℚ) < 2 * num + den := by linarith
    have hright : (2 * num : ℚ) < 2 * (den * n) + den := by linarith
    exact ⟨by exact_mod_cast hleft, by exact_mod_cast hright⟩
  have hparts := Nat.div_add_mod num den
  have hrest := Nat.mod_lt num hden
  have hnext : n = num / den ∨ n = num / den + 1 := by
    have hle : num / den ≤ n := by
      by_contra hless
      have := Nat.mul_le_mul_left den (Nat.succ_le_of_lt (Nat.lt_of_not_le hless))
      rw [Nat.mul_succ] at this
      omega
    have hge : n ≤ num / den + 1 := by
      by_contra hmore
      have := Nat.mul_le_mul_left den (Nat.succ_le_of_lt (Nat.lt_of_not_le hmore))
      rw [Nat.mul_succ, Nat.mul_succ] at this
      omega
    omega
  simp only [roundHalfEven]
  rcases hnext with rfl | rfl
  · split
    · rfl
    · split <;> omega
  · rw [Nat.mul_succ] at hlow' hhigh' htie'
    split
    · omega
    · split <;> omega

theorem log2_bounds (hn : 0 < n) :
    (2 : ℚ) ^ (n.log2 : Int) ≤ n ∧ (n : ℚ) < 2 ^ ((n.log2 : Int) + 1) := by
  have hlow : ((2 ^ n.log2 : Nat) : ℚ) ≤ n := by exact_mod_cast Nat.log2_self_le (by omega)
  have hhigh : (n : ℚ) < (2 ^ (n.log2 + 1) : Nat) := by exact_mod_cast Nat.lt_log2_self
  rw [zpow_natCast]
  refine ⟨by exact_mod_cast hlow, ?_⟩
  rw [show (n.log2 : Int) + 1 = (n.log2 + 1 : Nat) by push_cast; rfl, zpow_natCast]
  exact_mod_cast hhigh

/-- A number between two powers of two has 53 bits before the place of its last one. -/
theorem leading_bounds {v : ℚ} {l t : Int} (hlow : (2 : ℚ) ^ l ≤ v) (hhigh : v < 2 ^ (l + 1))
    (ht : l - 52 = t) : 2 ^ 52 ≤ v / 2 ^ t ∧ v / 2 ^ t < 2 ^ 53 := by
  have hunit : (0 : ℚ) < 2 ^ t := by positivity
  have hscale (k : Nat) : (2 : ℚ) ^ (t + k) = 2 ^ k * 2 ^ t := by
    rw [zpow_add₀ (by norm_num), zpow_natCast, mul_comm]
  constructor
  · rw [le_div_iff₀ hunit, ← hscale, show t + (52 : Nat) = l by omega]
    exact hlow
  · rw [div_lt_iff₀ hunit, ← hscale, show t + (53 : Nat) = l + 1 by omega]
    exact hhigh

/-- The largest double. -/
def largest : ℚ := (2 ^ 53 - 1) * 2 ^ (971 : Int)

/-- Half-way from the largest double to the next power of two: what lies here or beyond is rounded to
infinity. -/
def overflow : ℚ := (2 ^ 53 - 1 / 2) * 2 ^ (971 : Int)

theorem largest_lt_overflow : largest < overflow :=
  mul_lt_mul_of_pos_right (by norm_num) (by positivity)

/-- Below the largest double the last place is that of a double. -/
theorem place_le {v : ℚ} {l : Int} (hlow : (2 : ℚ) ^ l ≤ v) (hv : v < largest) : l ≤ 1023 := by
  have hlt : (2 : ℚ) ^ l < 2 ^ (1024 : Int) := by
    refine hlow.trans_lt (hv.trans ?_)
    rw [show (1024 : Int) = 53 + 971 by rfl, zpow_add₀ (by norm_num)]
    exact mul_lt_mul_of_pos_right (by norm_num) (by positivity)
  have hl := (zpow_lt_zpow_iff_right₀ (by norm_num)).mp hlt
  omega

variable {num den : Nat}

/-- The significand that a quotient is rounded to has at most 53 bits before the point, and 53 unless
the exponent is the least one. -/
theorem exponentFor_bounds (hnum : 0 < num) (hden : 0 < den) {t : Int}
    (ht : exponentFor num den = t) : -1074 ≤ t ∧ (num / den / 2 ^ t : ℚ) < 2 ^ 53 ∧
      (t = -1074 ∨ (2 : ℚ) ^ 52 ≤ num / den / 2 ^ t) := by
  have hden' : (0 : ℚ) < den := by exact_mod_cast hden
  obtain ⟨hnumLow, hnumHigh⟩ := log2_bounds hnum
  obtain ⟨hdenLow, hdenHigh⟩ := log2_bounds hden
  obtain ⟨l, hl⟩ : ∃ l, (num.log2 : Int) - den.log2 = l := ⟨_, rfl⟩
  have hlow : (2 : ℚ) ^ (l - 1) < num / den := by
    rw [lt_div_iff₀ hden']
    calc (2 : ℚ) ^ (l - 1) * den < 2 ^ (l - 1) * 2 ^ ((den.log2 : Int) + 1) :=
          mul_lt_mul_of_pos_left hdenHigh (by positivity)
      _ = 2 ^ (num.log2 : Int) := by
        rw [← zpow_add₀ (by norm_num)]
        congr 1
        omega
      _ ≤ num := hnumLow
  have hhigh : (num / den : ℚ) < 2 ^ (l + 1) := by
    rw [div_lt_iff₀ hden']
    calc (num : ℚ) < 2 ^ ((num.log2 : Int) + 1) := hnumHigh
      _ = 2 ^ (l + 1) * 2 ^ (den.log2 : Int) := by
        rw [← zpow_add₀ (by norm_num)]
        congr 1
        omega
      _ ≤ 2 ^ (l + 1) * den := mul_le_mul_of_nonneg_left hdenLow (by positivity)
  have hmono {i j : Int} (hij : i ≤ j) : (2 : ℚ) ^ i ≤ 2 ^ j :=
    zpow_le_zpow_right₀ (by norm_num) hij
  have hscale (k : Nat) (i : Int) : (2 : ℚ) ^ ((k : Int) + i) = 2 ^ k * 2 ^ i := by
    rw [zpow_add₀ (by norm_num), zpow_natCast]
  obtain ⟨g, hg⟩ : ∃ g, max (l - 53) (-1074) = g := ⟨_, rfl⟩
  have hg' : -1074 ≤ g ∧ l - 53 ≤ g ∧ (g = -1074 ∨ g = l - 53) := by omega
  obtain ⟨hscaled, hquotient⟩ := scaleBy_quotient num den g hden
  have hfits : (scaleBy num den g).1 / (scaleBy num den g).2 < 2 ^ 53 ↔
      (num / den / 2 ^ g : ℚ) < 2 ^ 53 := by
    have hscaled' : (0 : ℚ) < (scaleBy num den g).2 := by exact_mod_cast hscaled
    rw [Nat.div_lt_iff_lt_mul hscaled, ← hquotient, div_lt_iff₀ hscaled']
    exact_mod_cast Iff.rfl
  have hexponent : exponentFor num den =
      if (scaleBy num den g).1 / (scaleBy num den g).2 < 2 ^ 53 then g else g + 1 := by
    rw [← hg, ← hl]
    rfl
  rw [hexponent] at ht
  split at ht
  · next hless =>
    subst ht
    refine ⟨hg'.1, hfits.mp hless, hg'.2.2.imp_right ?_⟩
    rintro rfl
    rw [le_div_iff₀ (by positivity), ← hscale]
    exact (hmono (by push_cast; omega)).trans hlow.le
  · next hmore =>
    have hmore := not_lt.mp (hfits.not.mp hmore)
    subst ht
    refine ⟨by omega, ?_, .inr ?_⟩
    · rw [div_lt_iff₀ (by positivity), ← hscale]
      exact hhigh.trans_le (hmono (by push_cast; omega))
    · rw [le_div_iff₀ (by positivity)] at hmore ⊢
      refine Eq.trans_le ?_ hmore
      rw [← hscale, ← hscale]
      congr 1
      push_cast
      omega

/-- The significand that `num / den` is rounded to. -/
def significandFor (num den : Nat) : Nat :=
  roundHalfEven (scaleBy num den (exponentFor num den)).1 (scaleBy num den (exponentFor num den)).2

theorem significandFor_bounds (hden : 0 < den) {t : Int} (ht : exponentFor num den = t) :
    (num / den / 2 ^ t : ℚ) - 1 / 2 ≤ significandFor num den ∧
      (significandFor num den : ℚ) ≤ num / den / 2 ^ t + 1 / 2 := by
  obtain ⟨hscaled, hquotient⟩ := scaleBy_quotient num den t hden
  rw [significandFor, ht, ← hquotient]
  exact roundHalfEven_bounds _ hscaled

/-- What has a significand of 53 bits at the exponent of the largest double lies below the overflow:
the number half-way is rounded up. -/
theorem lt_overflow (hden : 0 < den) {t : Int} (ht : exponentFor num den = t)
    (hhigh : (num / den / 2 ^ t : ℚ) < 2 ^ 53) (hlast : t ≤ 971)
    (hsignificand : t = 971 → significandFor num den < 2 ^ 53) : (num / den : ℚ) < overflow := by
  have hunit : (0 : ℚ) < 2 ^ t := by positivity
  rcases Int.lt_or_eq_of_le hlast with hless | rfl
  · rw [div_lt_iff₀ hunit] at hhigh
    have hscale : (2 : ℚ) ^ t ≤ 2 ^ (970 : Int) := zpow_le_zpow_right₀ (by norm_num) (by omega)
    calc (num / den : ℚ) < 2 ^ 53 * 2 ^ t := hhigh
      _ ≤ 2 ^ 53 * 2 ^ (970 : Int) := mul_le_mul_of_nonneg_left hscale (by positivity)
      _ = 2 ^ 52 * 2 ^ (971 : Int) := by
        rw [show (971 : Int) = 970 + 1 by rfl, zpow_add_one₀ (by norm_num)]
        ring
      _ ≤ overflow := mul_le_mul_of_nonneg_right (by norm_num) (by positivity)
  · rw [overflow, ← div_lt_iff₀ hunit]
    have hsignificand := hsignificand rfl
    obtain ⟨hscaled, hquotient⟩ := scaleBy_quotient num den 971 hden
    by_cases hgreatest : significandFor num den = 2 ^ 53 - 1
    · have hodd : roundHalfEven (scaleBy num den 971).1 (scaleBy num den 971).2 = 2 ^ 53 - 1 := by
        rw [← hgreatest, significandFor, ht]
      have hlt := lt_roundHalfEven_add_half hscaled (by rw [hodd]; decide)
      rw [hquotient, hodd] at hlt
      refine hlt.trans_eq ?_
      norm_num
    · have hle : (significandFor num den : ℚ) + 1 ≤ 2 ^ 53 - 1 := by
        rw [le_sub_iff_add_le]
        exact_mod_cast (by omega : significandFor num den + 1 + 1 ≤ 2 ^ 53)
      have hbelow := (significandFor_bounds hden ht).1
      linarith

/-- A significand that is rounded up to `2^53` carries into the exponent. -/
theorem exists_carried {q : Nat} {t : Int} (hlow : 2 ^ 52 ≤ q) (hhigh : q ≤ 2 ^ 53) (ht : -1074 ≤ t)
    (hlast : t < 971 ∨ t = 971 ∧ q < 2 ^ 53) :
    ∃ m e, Dyadic.Canonical ⟨false, m, e⟩ ∧ 2 ^ 52 ≤ m ∧ t ≤ e ∧ e ≤ 971 ∧
      (m * 2 ^ e : ℚ) = q * 2 ^ t ∧
      (t + 1074).toNat * Nat.pow 2 52 + q = (e + 1074).toNat * Nat.pow 2 52 + m := by
  rcases Nat.lt_or_eq_of_le hhigh with hless | rfl
  · exact ⟨q, t, ⟨hless, ht, .inr hlow⟩, hlow, Int.le_refl t, by omega, rfl, rfl⟩
  · refine ⟨2 ^ 52, t + 1, ⟨by simp only; norm_num, by simp only; omega, .inr (Nat.le_refl _)⟩,
      Nat.le_refl _, by omega, by omega, ?_, ?_⟩
    · rw [zpow_add_one₀ (by norm_num)]
      push_cast
      ring
    · simp only [Nat.pow_eq]
      omega

theorem decode_infinityBits (negative : Bool) :
    decode (ofBits negative infinityBits) = .infinite negative := by
  cases negative <;> rfl

/-- A quotient is rounded to its significand, and to infinity if that lies beyond the largest
double. -/
theorem decode_ofQuotient (negative : Bool) (hnum : 0 < num) (hden : 0 < den) {t : Int} {q : Nat}
    (ht : exponentFor num den = t) (hq : significandFor num den = q) :
    (∃ m e, decode (ofQuotient negative num den) = .finite ⟨negative, m, e⟩ ∧ t ≤ e ∧
      (2 ^ 52 ≤ q → 2 ^ 52 ≤ m) ∧ (m * 2 ^ e : ℚ) = q * 2 ^ t ∧ (num / den : ℚ) < overflow) ∨
    decode (ofQuotient negative num den) = .infinite negative ∧
      overflow ≤ (num / den : ℚ) := by
  obtain ⟨hmin, hhigh, hlow⟩ := exponentFor_bounds hnum hden ht
  obtain ⟨hbelow, habove⟩ := significandFor_bounds hden ht
  rw [hq] at hbelow habove
  have hq53 : q ≤ 2 ^ 53 := le_of_cast_lt_add_one (by push_cast; linarith)
  have hq52 : t = -1074 ∨ 2 ^ 52 ≤ q :=
    hlow.imp_right fun hlow => le_of_cast_lt_add_one (by push_cast; linarith)
  have hbits : ofQuotient negative num den =
      ofBits negative (min infinityBits ((t + 1074).toNat * Nat.pow 2 52 + q)) := by
    rw [ofQuotient, nearestBits, if_neg (Nat.ne_of_gt hnum), ← hq, ← ht]
    rfl
  have hfinite {m : Nat} {e : Int} (h : Dyadic.Canonical ⟨negative, m, e⟩) (he : e ≤ 971)
      (hsame : (t + 1074).toNat * Nat.pow 2 52 + q = (e + 1074).toNat * Nat.pow 2 52 + m) :
      decode (ofQuotient negative num den) = .finite ⟨negative, m, e⟩ := by
    have hless : (e + 1074).toNat * Nat.pow 2 52 + m ≤ infinityBits := by
      have hm := h.significand
      have he := h.exponent
      simp only at hm he
      simp only [infinityBits, Nat.pow_eq]
      omega
    rw [hbits, hsame, Nat.min_eq_right hless]
    exact decode_ofBits h he
  by_cases hover : 971 < t ∨ t = 971 ∧ q = 2 ^ 53
  · right
    have hmore : infinityBits ≤ (t + 1074).toNat * Nat.pow 2 52 + q := by
      simp only [infinityBits, Nat.pow_eq]
      omega
    rw [hbits, Nat.min_eq_left hmore]
    refine ⟨decode_infinityBits negative, ?_⟩
    rw [overflow]
    rcases hover with hover | ⟨rfl, rfl⟩
    · have hlow := hlow.resolve_left (by omega)
      rw [le_div_iff₀ (by positivity)] at hlow
      calc ((2 : ℚ) ^ 53 - 1 / 2) * 2 ^ (971 : Int) ≤ 2 ^ 53 * 2 ^ (971 : Int) :=
            mul_le_mul_of_nonneg_right (by norm_num) (by positivity)
        _ = 2 ^ 52 * 2 ^ ((971 : Int) + 1) := by
          rw [zpow_add_one₀ (by norm_num)]
          ring
        _ ≤ 2 ^ 52 * 2 ^ t := mul_le_mul_of_nonneg_left
          (zpow_le_zpow_right₀ (by norm_num) (by omega)) (by positivity)
        _ ≤ num / den := hlow
    · rw [← le_div_iff₀ (by positivity), sub_le_iff_le_add]
      exact_mod_cast habove
  · left
    have hsmall : (num / den : ℚ) < overflow :=
      lt_overflow hden ht hhigh (by omega) fun hlast => by omega
    by_cases hnormal : 2 ^ 52 ≤ q
    · obtain ⟨m, e, h, hm, he, hlast, hvalue, hsame⟩ :=
        exists_carried (t := t) hnormal hq53 hmin (by omega)
      exact ⟨m, e, hfinite ⟨h.significand, h.exponent, h.leading⟩ hlast hsame, he, fun _ => hm,
        hvalue, hsmall⟩
    · have ht : t = -1074 := hq52.resolve_right hnormal
      have h : Dyadic.Canonical ⟨negative, q, t⟩ := ⟨by simp only; omega, hmin, .inl ht⟩
      exact ⟨q, t, hfinite h (by omega) rfl, Int.le_refl t, fun h => absurd h hnormal, rfl, hsmall⟩

/-! ### Integers -/

theorem exponentFor_one (hn : 0 < n) : exponentFor n 1 = (n.log2 : Int) - 52 := by
  have hguess : max ((n.log2 : Int) - (Nat.log2 1 : Nat) - 53) (-1074) = (n.log2 : Int) - 53 := by
    rw [show Nat.log2 1 = 0 by decide]
    omega
  obtain ⟨hden, hquotient⟩ := scaleBy_quotient n 1 ((n.log2 : Int) - 53) Nat.one_pos
  have hfirst : 2 ^ 53 ≤
      (scaleBy n 1 ((n.log2 : Int) - 53)).1 / (scaleBy n 1 ((n.log2 : Int) - 53)).2 := by
    rw [← Nat.floor_div_eq_div (K := ℚ), hquotient]
    refine Nat.le_floor ?_
    rw [Nat.cast_one, div_one, le_div_iff₀ (by positivity)]
    refine le_of_eq_of_le ?_ (log2_bounds hn).1
    rw [show (n.log2 : Int) = 53 + ((n.log2 : Int) - 53) by omega, zpow_add₀ (by norm_num)]
    push_cast
    norm_num
  simp only [exponentFor, hguess, Nat.pow_eq]
  rw [if_neg (Nat.not_lt.mpr hfirst)]
  omega

/-- An integer is rounded to 53 bits. -/
theorem exists_decode_ofInt (hn : 0 < n) (hsmall : (n : ℚ) < largest) :
    ∃ m e, decode (ofInt n) = .finite ⟨false, m, e⟩ ∧ 2 ^ 52 ≤ m ∧ -52 ≤ e ∧
      ∃ q : Nat, (m * 2 ^ e : ℚ) = q * 2 ^ ((n.log2 : Int) - 52) ∧
        (n : ℚ) / 2 ^ ((n.log2 : Int) - 52) - 1 / 2 ≤ q ∧
        (q : ℚ) ≤ n / 2 ^ ((n.log2 : Int) - 52) + 1 / 2 := by
  obtain ⟨t, ht⟩ : ∃ t, (n.log2 : Int) - 52 = t := ⟨_, rfl⟩
  have hexponent : exponentFor n 1 = t := (exponentFor_one hn).trans ht
  obtain ⟨hbelow, habove⟩ := significandFor_bounds Nat.one_pos hexponent
  have hlow := (exponentFor_bounds hn Nat.one_pos hexponent).2.2.resolve_left (by omega)
  have hquotient := decode_ofQuotient (decide ((n : Int) < 0)) hn Nat.one_pos hexponent rfl
  rw [decide_eq_false (by omega)] at hquotient
  simp only [Nat.cast_one, div_one] at hbelow habove hlow hquotient
  have hq52 : 2 ^ 52 ≤ significandFor n 1 := le_of_cast_lt_add_one (by push_cast; linarith)
  rcases hquotient with ⟨m, e, hdecode, he, hm, hvalue, -⟩ | ⟨-, hlarge⟩
  · rw [ht]
    exact ⟨m, e, hdecode, hm hq52, by omega, _, hvalue, hbelow, habove⟩
  · exact absurd hlarge (not_le.mpr (hsmall.trans largest_lt_overflow))

theorem lt_largest {v : ℚ} (h : v < 2 ^ 53) : v < largest := by
  have hlast : (2 : ℚ) ^ (1 : Int) ≤ 2 ^ (971 : Int) :=
    zpow_le_zpow_right₀ (by norm_num) (by norm_num)
  have hlargest := mul_le_mul_of_nonneg_left hlast (by norm_num : (0 : ℚ) ≤ 2 ^ 53 - 1)
  rw [zpow_one] at hlargest
  exact lt_of_lt_of_le (h.trans (by norm_num)) hlargest

/-- An integer below `2^53` is a double. -/
theorem exists_decode_ofInt_eq (hn : 0 < n) (hsmall : n < 2 ^ 53) :
    ∃ m e, decode (ofInt n) = .finite ⟨false, m, e⟩ ∧ 2 ^ 52 ≤ m ∧ -52 ≤ e ∧
      (m * 2 ^ e : ℚ) = n := by
  have hlog : n.log2 < 53 := (Nat.log2_lt (by omega)).mpr hsmall
  obtain ⟨m, e, hdecode, hm, he, q, hvalue, hlow, hhigh⟩ :=
    exists_decode_ofInt hn (lt_largest (by exact_mod_cast hsmall))
  obtain ⟨unit, hunit⟩ : ∃ unit : Nat, 2 ^ (52 - n.log2) = unit := ⟨_, rfl⟩
  have hinv : (2 : ℚ) ^ ((n.log2 : Int) - 52) = (unit : ℚ)⁻¹ := by
    rw [← hunit, Nat.cast_pow, ← zpow_natCast, ← zpow_neg]
    congr 1
    omega
  have hpos : (unit : ℚ) ≠ 0 := by
    rw [← hunit]
    positivity
  rw [hinv] at hvalue
  rw [hinv, div_inv_eq_mul] at hlow hhigh
  -- what lies nearest to a whole number is that number
  have hq : q = n * unit := Nat.le_antisymm (le_of_cast_lt_add_one (by push_cast; linarith))
    (le_of_cast_lt_add_one (by push_cast; linarith))
  refine ⟨m, e, hdecode, hm, he, ?_⟩
  rw [hvalue, hq]
  push_cast
  field_simp

/-- Rounding raises an integer by one part in `2^53` at most. -/
theorem exists_decode_ofInt_le (hn : 0 < n) (hsmall : (n : ℚ) < largest) :
    ∃ m e, decode (ofInt n) = .finite ⟨false, m, e⟩ ∧ 2 ^ 52 ≤ m ∧ -52 ≤ e ∧
      (m * 2 ^ e : ℚ) ≤ n * (1 + 1 / 2 ^ 53) := by
  obtain ⟨m, e, hdecode, hm, he, q, hvalue, -, hhigh⟩ := exists_decode_ofInt hn hsmall
  obtain ⟨t, ht⟩ : ∃ t, (n.log2 : Int) - 52 = t := ⟨_, rfl⟩
  have hunit : (0 : ℚ) < 2 ^ t := by positivity
  obtain ⟨hlow, hless⟩ := log2_bounds hn
  have hlow := (leading_bounds hlow hless ht).1
  rw [ht] at hvalue hhigh
  rw [← sub_le_iff_le_add, le_div_iff₀ hunit] at hhigh
  rw [le_div_iff₀ hunit] at hlow
  exact ⟨m, e, hdecode, hm, he, by linarith⟩

end InstrumentControl.Decimal
