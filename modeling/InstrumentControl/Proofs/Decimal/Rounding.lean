import InstrumentControl.Proofs.Decimal.Binary64

/-! Products and quotients of doubles are rounded correctly.  Where the exact result is one of the
reals that round to a double, the operation gives that double. -/

namespace InstrumentControl.Decimal

open Float.Model
open Float.Model.UnpackedFloat

variable {x : Float} {m n : Nat} {e : Int}

/-! ### The bits that are shifted out -/

/-- The number lies where the mantissa and the two bits after it say. -/
def Locates (em : ExtendedMantissa) (r : ℚ) : Prop :=
  if em.stickyBit then
    em.mantissa + (if em.roundBit then 1 / 2 else 0) < r ∧
      r < em.mantissa + (if em.roundBit then 1 / 2 else 0) + 1 / 2
  else r = em.mantissa + (if em.roundBit then 1 / 2 else 0)

variable {em : ExtendedMantissa} {r : ℚ}

theorem locates_exact (n : Nat) : Locates (ExtendedMantissa.ofMantissaAndAccuracy n .exact) n := by
  simp [Locates, ExtendedMantissa.ofMantissaAndAccuracy]

theorem locates_quotient (num : Nat) {den : Nat} (hden : 0 < den) :
    Locates (ExtendedMantissa.ofMantissaAndAccuracy (num / den)
      (accuracyOfFraction (num % den) den)) (num / den) := by
  have hden' : (0 : ℚ) < den := by exact_mod_cast hden
  have hparts : (num / den : ℚ) = (num / den : Nat) + (num % den : Nat) / den := by
    have hnat : (num : ℚ) = den * (num / den : Nat) + (num % den : Nat) := by
      exact_mod_cast (Nat.div_add_mod num den).symm
    rw [hnat]
    field_simp
  obtain ⟨q, hq⟩ : ∃ q, num / den = q := ⟨_, rfl⟩
  obtain ⟨rest, hrest⟩ : ∃ rest, num % den = rest := ⟨_, rfl⟩
  have hsmall : (rest : ℚ) < den := by exact_mod_cast hrest ▸ Nat.mod_lt num hden
  rw [hparts, hq, hrest, accuracyOfFraction]
  by_cases hnone : rest = 0
  · rw [if_pos hnone, hnone]
    simpa using locates_exact q
  · have hpos : (0 : ℚ) < rest := by exact_mod_cast Nat.pos_of_ne_zero hnone
    have hpart : 0 < (rest / den : ℚ) ∧ (rest / den : ℚ) < 1 :=
      ⟨div_pos hpos hden', (div_lt_one hden').mpr hsmall⟩
    rw [if_neg hnone]
    rcases Nat.lt_trichotomy (2 * rest) den with hless | heq | hmore
    · have hhalf : (rest / den : ℚ) < 1 / 2 := by
        have : (2 * rest : ℚ) < den := by exact_mod_cast hless
        rw [div_lt_iff₀ hden']
        linarith
      rw [compare_lt_iff_lt.mpr hless]
      simp [Locates, ExtendedMantissa.ofMantissaAndAccuracy]
      exact ⟨hpart.1, by linarith⟩
    · have hhalf : (rest / den : ℚ) = 1 / 2 := by
        have : (2 * rest : ℚ) = den := by exact_mod_cast heq
        rw [div_eq_iff hden'.ne']
        linarith
      rw [compare_eq_iff_eq.mpr heq]
      simp [Locates, ExtendedMantissa.ofMantissaAndAccuracy, hhalf]
    · have hhalf : 1 / 2 < (rest / den : ℚ) := by
        have : (den : ℚ) < 2 * rest := by exact_mod_cast hmore
        rw [lt_div_iff₀ hden']
        linarith
      rw [compare_gt_iff_gt.mpr hmore]
      simp [Locates, ExtendedMantissa.ofMantissaAndAccuracy]
      constructor <;> linarith

theorem Locates.bounds (h : Locates em r) : (em.mantissa : ℚ) ≤ r ∧ r < em.mantissa + 1 := by
  obtain ⟨mantissa, roundBit, stickyBit⟩ := em
  cases roundBit <;> cases stickyBit <;> simp [Locates] at h ⊢ <;> constructor <;> linarith

theorem Locates.shiftRightOne (h : Locates em r) : Locates em.shiftRightOne (r / 2) := by
  obtain ⟨mantissa, roundBit, stickyBit⟩ := em
  have hparity : (mantissa : ℚ) = 2 * (mantissa / 2 : Nat) + (mantissa % 2 : Nat) := by
    exact_mod_cast (Nat.div_add_mod mantissa 2).symm
  rcases Nat.mod_two_eq_zero_or_one mantissa with heven | hodd
  · rw [heven] at hparity
    cases roundBit <;> cases stickyBit <;>
      simp [Locates, ExtendedMantissa.shiftRightOne, heven] at h hparity ⊢ <;>
      first | (constructor <;> linarith) | linarith
  · rw [hodd] at hparity
    cases roundBit <;> cases stickyBit <;>
      simp [Locates, ExtendedMantissa.shiftRightOne, hodd] at h hparity ⊢ <;>
      first | (constructor <;> linarith) | linarith

theorem Locates.shiftRight (h : Locates em r) (n : Nat) : Locates (em >>> n) (r / 2 ^ n) := by
  show Locates (n.repeat ExtendedMantissa.shiftRightOne em) (r / 2 ^ n)
  induction n with
  | zero => simpa [Nat.repeat] using h
  | succ n ih =>
    rw [Nat.repeat, pow_succ, ← div_div]
    exact ih.shiftRightOne

/-- A number is rounded to the nearest one, and halfway to the even one. -/
theorem Locates.roundedMantissa_eq (h : Locates em r) (hlow : (n : ℚ) - 1 / 2 ≤ r)
    (hhigh : r ≤ n + 1 / 2) (htie : n % 2 = 0 ∨ (n : ℚ) - 1 / 2 < r ∧ r < n + 1 / 2) :
    em.roundedMantissa = n := by
  obtain ⟨hfloor, hceil⟩ := h.bounds
  obtain ⟨mantissa, roundBit, stickyBit⟩ := em
  have hle : mantissa ≤ n := le_of_cast_lt_add_one (by linarith)
  have hge : n ≤ mantissa + 1 := le_of_cast_lt_add_one (by push_cast; linarith)
  have hnext : n = mantissa ∨ n = mantissa + 1 := by omega
  simp only [Locates, ExtendedMantissa.roundedMantissa] at h hfloor hceil ⊢
  rcases hnext with rfl | rfl
  · cases roundBit <;> cases stickyBit <;>
      simp [ExtendedMantissa.accuracy, Accuracy.roundToNearestEven] at h ⊢
    · rcases htie with heven | ⟨-, hless⟩
      · exact heven
      · linarith
    · linarith
  · push_cast at hlow hhigh htie
    cases roundBit <;> cases stickyBit <;>
      simp [ExtendedMantissa.accuracy, Accuracy.roundToNearestEven] at h ⊢
    · linarith
    · linarith
    · rcases htie with heven | ⟨hmore, -⟩
      · omega
      · linarith

/-! ### Rounding -/

theorem targetExponent_eq (m : Nat) (e : Int) :
    Format.binary64.targetExponent (totalExponent m e) = max ((m.log2 : Int) + e - 52) (-1074) := by
  simp only [Format.targetExponent, totalExponent, Format.mantissaBits, Format.minExponent]
  norm_num
  omega

theorem shiftToTargetExponent_eq {a : Accuracy} {t : Int}
    (ht : max ((m.log2 : Int) + e - 52) (-1074) = t) (he : e ≤ t) :
    shiftToTargetExponent Format.binary64 m e a =
      (ExtendedMantissa.ofMantissaAndAccuracy m a >>> (t - e).toNat, t) := by
  have hend : e + (t - e).toNat = t := by omega
  rw [shiftToTargetExponent, targetExponent_eq, ht, shiftToExponent, hend]

theorem shiftToTargetExponent_self (h : Dyadic.Canonical ⟨false, m, e⟩) :
    shiftToTargetExponent Format.binary64 m e .exact = (⟨m, false, false⟩, e) := by
  obtain ⟨hm, he, hleading⟩ := h
  simp only at hm he hleading
  have htarget : max ((m.log2 : Int) + e - 52) (-1074) = e := by
    rcases Nat.eq_zero_or_pos m with rfl | hpos
    · rw [Nat.log2_zero]
      omega
    · have hhigh : m.log2 < 53 := (Nat.log2_lt (by omega)).mpr hm
      rcases hleading with rfl | hlow
      · omega
      · have hlow : 52 ≤ m.log2 := (Nat.le_log2 (by omega)).mpr hlow
        omega
  rw [shiftToTargetExponent_eq htarget (Int.le_refl e), Int.sub_self]
  rfl

theorem shiftToTargetExponent_carry (he : -1074 ≤ e) :
    shiftToTargetExponent Format.binary64 (2 ^ 53) e .exact = (⟨2 ^ 52, false, false⟩, e + 1) := by
  have htarget : max (((2 ^ 53).log2 : Nat) + e - 52) (-1074) = e + 1 := by
    rw [Nat.log2_two_pow]
    omega
  rw [shiftToTargetExponent_eq htarget (by omega), show e + 1 - e = 1 by omega]
  rfl

section

variable {v : ℚ} {t : Int} {M : Nat} {E : Int} {accuracy : Accuracy}

theorem Interval.holds_bounds (hm : m ≠ 0) (h : (around m e).Holds v) :
    ((m : ℚ) - below m e / 4) * 2 ^ e ≤ v ∧ v ≤ (m + 1 / 2) * 2 ^ e ∧
      (m % 2 = 0 ∨ ((m : ℚ) - below m e / 4) * 2 ^ e < v ∧ v < (m + 1 / 2) * 2 ^ e) := by
  rw [around_holds hm] at h
  split at h
  · next heven => exact ⟨h.1, h.2, .inl heven⟩
  · exact ⟨h.1.le, h.2.le, .inr h⟩

/-- What rounds to a double is rounded at its last place.  Only just below a power of two the last
place is the next one. -/
theorem place_of_holds (hm : m ≠ 0) (hcanonical : Dyadic.Canonical ⟨false, m, e⟩)
    (h : (Interval.around m e).Holds v) {l : Int} (hlow : (2 : ℚ) ^ l ≤ v)
    (hhigh : v < 2 ^ (l + 1)) (ht : max (l - 52) (-1074) = t) :
    t = e ∨ t + 1 = e ∧ m = 2 ^ 52 ∧ -1074 < e ∧ v < 2 ^ 53 * 2 ^ t := by
  obtain ⟨hleft, hright, -⟩ := Interval.holds_bounds hm h
  obtain ⟨hm53, he, hleading⟩ := hcanonical
  simp only at hm53 he hleading
  have hunit : (0 : ℚ) < 2 ^ e := by positivity
  have hscale (k : Nat) (i : Int) : (2 : ℚ) ^ (i + k) = 2 ^ k * 2 ^ i := by
    rw [zpow_add₀ (by norm_num), zpow_natCast, mul_comm]
  have hmono {i j : Int} (hij : i ≤ j) : (2 : ℚ) ^ i ≤ 2 ^ j :=
    zpow_le_zpow_right₀ (by norm_num) hij
  rcases lt_trichotomy t e with hless | heq | hmore
  · right
    have hbelow : (Interval.below m e : ℚ) ≤ 2 := by exact_mod_cast Interval.below_le_two m e
    have hleading : (2 : ℚ) ^ 52 ≤ m := by exact_mod_cast hleading.resolve_left (by omega)
    have hv : v < 2 ^ 53 * 2 ^ t := hhigh.trans_le (hscale 53 t ▸ hmono (by push_cast; omega))
    have hv' : v < 2 ^ 52 * 2 ^ e := hhigh.trans_le (hscale 52 e ▸ hmono (by push_cast; omega))
    have hm52 : m = 2 ^ 52 := by
      have hlt : (m : ℚ) - Interval.below m e / 4 < 2 ^ 52 :=
        lt_of_mul_lt_mul_right (hleft.trans_lt hv') hunit.le
      have hle : m ≤ 2 ^ 52 := le_of_cast_lt_add_one (by push_cast; linarith)
      have hge : 2 ^ 52 ≤ m := by exact_mod_cast hleading
      omega
    refine ⟨?_, hm52, by omega, hv⟩
    have hhalf : (2 : ℚ) ^ (e + (51 : Nat)) < 2 ^ (l + 1) := by
      refine lt_of_le_of_lt ?_ hhigh
      rw [hscale]
      refine (mul_le_mul_of_nonneg_right ?_ hunit.le).trans hleft
      linarith
    have hl := (zpow_lt_zpow_iff_right₀ (by norm_num)).mp hhalf
    push_cast at hl
    omega
  · exact .inl heq
  · exfalso
    have hv : 2 ^ 53 * 2 ^ e ≤ v := (hscale 53 e ▸ hmono (by push_cast; omega) : _ ≤ _).trans hlow
    have hm53 : (m : ℚ) + 1 ≤ 2 ^ 53 := by exact_mod_cast hm53
    have hover : (2 : ℚ) ^ 53 ≤ m + 1 / 2 := le_of_mul_le_mul_right (hv.trans hright) hunit
    linarith

/-- What rounds to a double lies within half a place of it, and halfway only if the double is even
in that place. -/
theorem exists_multiple_of_holds (hm : m ≠ 0) (hcanonical : Dyadic.Canonical ⟨false, m, e⟩)
    (h : (Interval.around m e).Holds v) {l : Int} (hlow : (2 : ℚ) ^ l ≤ v)
    (hhigh : v < 2 ^ (l + 1)) (ht : max (l - 52) (-1074) = t) :
    ∃ q : Nat, (q : ℚ) - 1 / 2 ≤ v / 2 ^ t ∧ v / 2 ^ t ≤ q + 1 / 2 ∧
      (q % 2 = 0 ∨ (q : ℚ) - 1 / 2 < v / 2 ^ t ∧ v / 2 ^ t < q + 1 / 2) ∧
      (t = e ∧ q = m ∨ t + 1 = e ∧ q = 2 ^ 53 ∧ m = 2 ^ 52) := by
  have hunit : (0 : ℚ) < 2 ^ t := by positivity
  obtain ⟨hleft, hright, htie⟩ := Interval.holds_bounds hm h
  rcases place_of_holds hm hcanonical h hlow hhigh ht with rfl | ⟨rfl, rfl, hnormal, hv⟩
  · have hbelow : (Interval.below m t : ℚ) ≤ 2 := by exact_mod_cast Interval.below_le_two m t
    have hhalf : ((m : ℚ) - 1 / 2) * 2 ^ t ≤ ((m : ℚ) - Interval.below m t / 4) * 2 ^ t :=
      mul_le_mul_of_nonneg_right (by linarith) hunit.le
    refine ⟨m, ?_, ?_, htie.imp_right fun h => ⟨?_, ?_⟩, .inl ⟨rfl, rfl⟩⟩
    · rw [le_div_iff₀ hunit]
      exact hhalf.trans hleft
    · rw [div_le_iff₀ hunit]
      exact hright
    · rw [lt_div_iff₀ hunit]
      exact hhalf.trans_lt h.1
    · rw [div_lt_iff₀ hunit]
      exact h.2
  · have hbelow : Interval.below (2 ^ 52) (t + 1) = 1 := if_pos ⟨rfl, hnormal⟩
    rw [hbelow, zpow_add_one₀ (by norm_num)] at hleft
    push_cast at hleft
    refine ⟨2 ^ 53, ?_, ?_, .inl (by decide), .inr ⟨rfl, rfl, rfl⟩⟩
    · rw [le_div_iff₀ hunit]
      push_cast
      linarith
    · rw [div_le_iff₀ hunit]
      push_cast
      linarith

theorem two_zpow_bounds (hM : 0 < M)
    (hlocates : Locates (ExtendedMantissa.ofMantissaAndAccuracy M accuracy) (v / 2 ^ E)) :
    (2 : ℚ) ^ ((M.log2 : Int) + E) ≤ v ∧ v < 2 ^ ((M.log2 : Int) + E + 1) := by
  have hmantissa : (ExtendedMantissa.ofMantissaAndAccuracy M accuracy).mantissa = M := by
    cases accuracy with
    | exact => rfl
    | inexact o => cases o <;> rfl
  obtain ⟨hfloor, hceil⟩ := hlocates.bounds
  rw [hmantissa] at hfloor hceil
  have hunit : (0 : ℚ) < 2 ^ E := by positivity
  have hlow := (log2_bounds hM).1
  have hhigh : (M : ℚ) + 1 ≤ 2 ^ (M.log2 + 1) := by exact_mod_cast Nat.lt_log2_self
  have hnext : (M.log2 : Int) + E + 1 = (M.log2 + 1 : Nat) + E := by push_cast; ring
  rw [hnext, zpow_add₀ (by norm_num), zpow_add₀ (by norm_num), zpow_natCast _ (M.log2 + 1),
    ← le_div_iff₀ hunit, ← div_lt_iff₀ hunit]
  exact ⟨hlow.trans hfloor, hceil.trans_le hhigh⟩

theorem roundWithAccuracy_of_shifts (s : Sign) (hm : 0 < m)
    (hfirst : shiftToTargetExponent Format.binary64 M E accuracy = (em, t))
    (hsecond : shiftToTargetExponent Format.binary64 em.roundedMantissa t .exact =
      (⟨m, false, false⟩, e)) :
    roundWithAccuracy Format.binary64 s M E accuracy = .finite s m e hm := by
  simp only [roundWithAccuracy, hfirst, hsecond]
  exact dif_neg (Nat.ne_of_gt hm)

/-- The first shift leaves the bits of a double. -/
theorem exists_first_shift
    (hlocates : Locates (ExtendedMantissa.ofMantissaAndAccuracy M accuracy) (v / 2 ^ E))
    (hbits : 52 ≤ M.log2 ∨ E ≤ -1074) :
    ∃ em t, shiftToTargetExponent Format.binary64 M E accuracy = (em, t) ∧
      max ((M.log2 : Int) + E - 52) (-1074) = t ∧ Locates em (v / 2 ^ t) := by
  obtain ⟨t, ht⟩ : ∃ t, max ((M.log2 : Int) + E - 52) (-1074) = t := ⟨_, rfl⟩
  have hE : E ≤ t := by omega
  have hshift : (2 : ℚ) ^ t = 2 ^ E * 2 ^ (t - E).toNat := by
    rw [← zpow_natCast, ← zpow_add₀ (by norm_num)]
    congr 1
    omega
  refine ⟨_, t, shiftToTargetExponent_eq ht hE, ht, ?_⟩
  rw [hshift, ← div_div]
  exact hlocates.shiftRight _

/-- What rounds to a double is rounded to it. -/
theorem roundWithAccuracy_eq (s : Sign) (hM : 0 < M)
    (hlocates : Locates (ExtendedMantissa.ofMantissaAndAccuracy M accuracy) (v / 2 ^ E))
    (hbits : 52 ≤ M.log2 ∨ E ≤ -1074) (hm : 0 < m) (hcanonical : Dyadic.Canonical ⟨false, m, e⟩)
    (hholds : (Interval.around m e).Holds v) :
    roundWithAccuracy Format.binary64 s M E accuracy = .finite s m e hm := by
  obtain ⟨em, t, hfirst, ht, hplaced⟩ := exists_first_shift hlocates hbits
  obtain ⟨hlow, hhigh⟩ := two_zpow_bounds hM hlocates
  obtain ⟨q, hleft, hright, htie, hq⟩ :=
    exists_multiple_of_holds (Nat.ne_of_gt hm) hcanonical hholds hlow hhigh ht
  have hrounded : em.roundedMantissa = q := hplaced.roundedMantissa_eq hleft hright htie
  refine roundWithAccuracy_of_shifts s hm hfirst ?_
  rw [hrounded]
  rcases hq with ⟨rfl, rfl⟩ | ⟨rfl, rfl, rfl⟩
  · exact shiftToTargetExponent_self hcanonical
  · have hleast := hcanonical.exponent
    have : -1074 ≤ t := by omega
    exact shiftToTargetExponent_carry this

theorem roundedMantissa_bounds (em : ExtendedMantissa) :
    em.mantissa ≤ em.roundedMantissa ∧ em.roundedMantissa ≤ em.mantissa + 1 := by
  obtain ⟨mantissa, roundBit, stickyBit⟩ := em
  cases roundBit <;> cases stickyBit <;>
    simp [ExtendedMantissa.roundedMantissa, ExtendedMantissa.accuracy, Accuracy.roundToNearestEven]
  omega

/-- Below the largest double nothing is rounded to infinity. -/
theorem exists_roundWithAccuracy (s : Sign)
    (hlocates : Locates (ExtendedMantissa.ofMantissaAndAccuracy M accuracy) (v / 2 ^ E))
    (hbits : 52 ≤ M.log2) (hE : -1074 ≤ E) (hv : v < largest) :
    ∃ m e, ∃ hm : 0 < m, roundWithAccuracy Format.binary64 s M E accuracy = .finite s m e hm ∧
      Dyadic.Canonical ⟨false, m, e⟩ ∧ e ≤ 971 := by
  have hM : 0 < M := Nat.pos_of_ne_zero fun h => by simp [h] at hbits
  obtain ⟨em, t, hfirst, ht, hplaced⟩ := exists_first_shift hlocates (.inl hbits)
  obtain ⟨hlow, hhigh⟩ := two_zpow_bounds hM hlocates
  have hplace := place_le hlow hv
  obtain ⟨hlow, hhigh⟩ := leading_bounds hlow hhigh (t := t) (by omega)
  obtain ⟨hfloor, hceil⟩ := hplaced.bounds
  obtain ⟨hless, hmore⟩ := roundedMantissa_bounds em
  obtain ⟨q, hq⟩ : ∃ q, em.roundedMantissa = q := ⟨_, rfl⟩
  have hmantissa : 2 ^ 52 ≤ em.mantissa := le_of_cast_lt_add_one (by push_cast; linarith)
  have hmantissa' : em.mantissa < 2 ^ 53 := by
    have : (em.mantissa : ℚ) < (2 ^ 53 : Nat) := by push_cast; linarith
    exact_mod_cast this
  have hlast : t = 971 → em.mantissa + 1 < 2 ^ 53 := by
    rintro rfl
    rw [largest, ← div_lt_iff₀ (by positivity)] at hv
    have : (em.mantissa : ℚ) + 1 < (2 ^ 53 : Nat) := by push_cast; linarith
    exact_mod_cast this
  rw [hq] at hless hmore
  rcases Nat.lt_or_ge q (2 ^ 53) with hsmall | hcarry
  · have hcanonical : Dyadic.Canonical ⟨false, q, t⟩ :=
      ⟨hsmall, by simp only; omega, .inr (by simp only; omega)⟩
    refine ⟨q, t, by omega, roundWithAccuracy_of_shifts s _ hfirst ?_, hcanonical, by omega⟩
    rw [hq]
    exact shiftToTargetExponent_self hcanonical
  · have hq : em.roundedMantissa = 2 ^ 53 := by omega
    refine ⟨2 ^ 52, t + 1, by norm_num, roundWithAccuracy_of_shifts s _ hfirst ?_,
      ⟨by simp only; norm_num, by simp only; omega, .inr (by simp only; norm_num)⟩, by omega⟩
    rw [hq]
    exact shiftToTargetExponent_carry (by omega)

end

/-! ### Products and quotients -/

variable {a b : Float} {m₁ m₂ : Nat} {e₁ e₂ : Int}

theorem unpack_of_decode_positive (h : decode x = .finite ⟨false, m, e⟩) (hm : 0 < m) :
    x.toModel.unpack = .finite .positive m e hm := by
  rw [(unpack_of_decode h).2]
  exact (Dyadic.unpacked_finite hm rfl rfl rfl).symm

theorem mul_eq_round (ha : decode a = .finite ⟨false, m₁, e₁⟩)
    (hb : decode b = .finite ⟨false, m₂, e₂⟩) (hproduct : 0 < m₁ * m₂) :
    a * b = Float.ofModel (Float.Model.pack (roundWithAccuracy Format.binary64 .positive (m₁ * m₂)
      (e₁ + e₂) .exact)) := by
  have ha := unpack_of_decode_positive ha (Nat.pos_of_mul_pos_right hproduct)
  have hb := unpack_of_decode_positive hb (Nat.pos_of_mul_pos_left hproduct)
  show Float.ofModel (Float.Model.pack (UnpackedFloat.mul Format.binary64 a.toModel.unpack
    b.toModel.unpack)) = _
  rw [ha, hb]
  rfl

theorem locates_product (m₁ m₂ : Nat) (e₁ e₂ : Int) :
    Locates (ExtendedMantissa.ofMantissaAndAccuracy (m₁ * m₂) .exact)
      (m₁ * 2 ^ e₁ * (m₂ * 2 ^ e₂) / 2 ^ (e₁ + e₂)) := by
  have hexact : (m₁ * 2 ^ e₁ * (m₂ * 2 ^ e₂) / 2 ^ (e₁ + e₂) : ℚ) = (m₁ * m₂ : Nat) := by
    rw [zpow_add₀ (by norm_num)]
    push_cast
    field_simp
  rw [hexact]
  exact locates_exact _

theorem mul_eq_of_holds (ha : decode a = .finite ⟨false, m₁, e₁⟩)
    (hb : decode b = .finite ⟨false, m₂, e₂⟩) (hbits : 2 ^ 52 ≤ m₁ * m₂)
    (hx : decode x = .finite ⟨false, m, e⟩) (hm : 0 < m)
    (h : (Interval.around m e).Holds (m₁ * 2 ^ e₁ * (m₂ * 2 ^ e₂))) : a * b = x := by
  have hround := roundWithAccuracy_eq .positive (by omega) (locates_product m₁ m₂ e₁ e₂)
    (.inl ((Nat.le_log2 (by omega)).mpr hbits)) hm (unpack_of_decode hx).1 h
  rw [mul_eq_round ha hb (by omega), hround]
  exact ofModel_pack (unpack_of_decode_positive hx hm)

theorem isFinite_mul (ha : decode a = .finite ⟨false, m₁, e₁⟩)
    (hb : decode b = .finite ⟨false, m₂, e₂⟩) (hbits : 2 ^ 52 ≤ m₁ * m₂) (he : -1074 ≤ e₁ + e₂)
    (h : (m₁ * 2 ^ e₁ * (m₂ * 2 ^ e₂) : ℚ) < largest) :
    isFinite (a * b) = true := by
  obtain ⟨m, e, hm, hround, hcanonical, hlast⟩ := exists_roundWithAccuracy .positive
    (locates_product m₁ m₂ e₁ e₂) ((Nat.le_log2 (by omega)).mpr hbits) he h
  have hdecode := decode_ofBits hcanonical hlast
  rw [mul_eq_round ha hb (by omega), hround, ofModel_pack (unpack_of_decode_positive hdecode hm)]
  exact isFinite_iff.mpr ⟨_, hdecode⟩

theorem divCore_eq (hm₁ : m₁.log2 = 52) (hm₂ : m₂.log2 = 52) (he : -1021 ≤ e₁ - e₂) :
    divCore Format.binary64 m₁ e₁ m₂ e₂ = (m₁ * 2 ^ 53 / m₂, e₁ - e₂ - 53,
      accuracyOfFraction (m₁ * 2 ^ 53 % m₂) m₂) := by
  have htarget : min (e₁ - e₂) (Format.binary64.targetExponent
      (totalExponent m₁ e₁ - totalExponent m₂ e₂)) = e₁ - e₂ - 53 := by
    simp only [Format.targetExponent, totalExponent, Format.mantissaBits, Format.minExponent, hm₁,
      hm₂]
    norm_num
    omega
  rw [divCore, htarget, show (e₁ - e₂ - (e₁ - e₂ - 53)).toNat = 53 by omega]
  simp only [Nat.shiftLeft_eq]

theorem div_eq_of_holds (ha : decode a = .finite ⟨false, m₁, e₁⟩)
    (hb : decode b = .finite ⟨false, m₂, e₂⟩) (hm₁ : 2 ^ 52 ≤ m₁) (hm₂ : 2 ^ 52 ≤ m₂)
    (he : -1021 ≤ e₁ - e₂) (hx : decode x = .finite ⟨false, m, e⟩) (hm : 0 < m)
    (h : (Interval.around m e).Holds (m₁ * 2 ^ e₁ / (m₂ * 2 ^ e₂))) : a / b = x := by
  obtain ⟨hfirst, -, -⟩ := (unpack_of_decode ha).1
  obtain ⟨hsecond, -, -⟩ := (unpack_of_decode hb).1
  simp only at hfirst hsecond
  have hlog₁ : m₁.log2 = 52 := (Nat.log2_eq_iff (by omega)).mpr ⟨hm₁, hfirst⟩
  have hlog₂ : m₂.log2 = 52 := (Nat.log2_eq_iff (by omega)).mpr ⟨hm₂, hsecond⟩
  have ha := unpack_of_decode_positive ha (by omega)
  have hb := unpack_of_decode_positive hb (by omega)
  have hquotient := divCore_eq hlog₁ hlog₂ he
  show Float.ofModel (Float.Model.pack (UnpackedFloat.div Format.binary64 a.toModel.unpack
    b.toModel.unpack)) = x
  rw [ha, hb]
  refine ofModel_pack ((unpack_of_decode_positive hx hm).trans (Eq.symm ?_))
  simp only [UnpackedFloat.div, hquotient]
  have hbits : 2 ^ 52 ≤ m₁ * 2 ^ 53 / m₂ := by
    rw [Nat.le_div_iff_mul_le (by omega)]
    omega
  refine roundWithAccuracy_eq _ (by omega) ?_ (.inl ?_) hm (unpack_of_decode hx).1 h
  · have hscaled : (m₁ * 2 ^ e₁ / (m₂ * 2 ^ e₂) / 2 ^ (e₁ - e₂ - 53) : ℚ) =
        (m₁ * 2 ^ 53 : Nat) / m₂ := by
      rw [zpow_sub₀ (by norm_num), zpow_sub₀ (by norm_num)]
      push_cast
      field_simp
    rw [hscaled]
    exact locates_quotient _ (by omega)
  · exact (Nat.le_log2 (by omega)).mpr hbits

end InstrumentControl.Decimal
