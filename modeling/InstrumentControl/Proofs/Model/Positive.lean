import InstrumentControl.Proofs.Domain.Leaves
import InstrumentControl.Proofs.Inference
import InstrumentControl.Proofs.Model.Known

/-! Declarations that take positive numbers only.  Whether one does is read off its bounds and its
listed values.  Then it takes no number that is written with a minus sign, since rounding moves no
number over zero. -/

namespace InstrumentControl

namespace Decimal

variable {x y : Float} {q r : ℚ}

/-- The double is finite and above zero. -/
def isPositive (x : Float) : Bool :=
  match decode x with
  | .finite d => !d.negative && decide (d.significand ≠ 0)
  | _ => false

theorem exists_denotes_of_isPositive (h : isPositive x = true) : ∃ q, Denotes x q ∧ 0 < q := by
  rw [isPositive] at h
  split at h
  · next d hd =>
    rw [Bool.and_eq_true, Bool.not_eq_true', decide_eq_true_eq] at h
    exact ⟨d.value, ⟨d, hd, rfl⟩, Dyadic.value_pos h.2 h.1⟩
  · cases h

theorem Denotes.lt_iff (hx : Denotes x q) (hy : Denotes y r) : x < y ↔ q < r := by
  obtain ⟨a, ha, rfl⟩ := hx
  obtain ⟨b, hb, rfl⟩ := hy
  rw [lt_iff_compare, compare_eq_compare_value ha hb, Option.some.injEq, compare_lt_iff_lt]

/-- Zero is nearer to a number that is not positive than what lies above zero. -/
theorem Rounds.nonpos (h : Rounds x q) (hq : q ≤ 0) (hx : Denotes x r) : r ≤ 0 := by
  cases h with
  | infinite hnone => exact absurd hx (hnone r)
  | @nearest s hs hnearest =>
    obtain rfl := hs.unique hx
    have hzero : Denotes (ofBits false 0) 0 :=
      ⟨_, decode_ofBits_zero false, Dyadic.value_of_zero rfl⟩
    have hnear := hnearest hzero
    rw [sub_zero, abs_of_nonpos hq] at hnear
    have := (abs_le.mp hnear).1
    linarith

end Decimal

open Decimal

namespace Value

variable {v choice : Value} {input : String} {q : ℚ}

/-- Positive, if it is a number. -/
def isPositive (v : Value) : Bool := v.number?.all Decimal.isPositive

/-- A number that is not above zero. -/
def NotPositive : Value → Prop
  | int i => i.toInt ≤ 0
  | float x => ∀ q, Denotes x q → q ≤ 0
  | _ => False

/-- As a double it is not above zero either. -/
theorem NotPositive.exists_number (h : v.NotPositive) :
    ∃ x, v.number? = some x ∧ ∀ q, Denotes x q → q ≤ 0 := by
  cases v with
  | float x => exact ⟨x, rfl, h⟩
  | int i =>
    refine ⟨_, rfl, fun q hq => ?_⟩
    rw [hq.unique (denotes_ofInt_toInt i)]
    exact_mod_cast mul_nonpos_of_nonpos_of_nonneg (Int.sign_nonpos_iff.mpr h) (Int.natCast_nonneg _)
  | bool b => exact h.elim
  | text s => exact h.elim

theorem NotPositive.not_agrees (h : v.NotPositive) (hchoice : choice.isPositive = true) :
    choice.agrees v = false := by
  obtain ⟨y, hy, hnonpos⟩ := h.exists_number
  rw [Bool.eq_false_iff]
  intro hagrees
  cases hx : choice.number? with
  | some x =>
    rw [isPositive, hx] at hchoice
    obtain ⟨q, hq, hpos⟩ := exists_denotes_of_isPositive hchoice
    simp only [agrees, hx, hy] at hagrees
    exact absurd hpos (not_lt.mpr (hnonpos q (hq.beq_iff.mp hagrees)))
  | none => cases choice <;> cases v <;> cases hx <;> cases hy <;> cases hagrees

/-- What is not positive is inferred as such. -/
theorem notPositive_infer (h : Writes (Text.trim input.toList) q) (hq : q ≤ 0) :
    (infer input).NotPositive := by
  by_cases hinteger : ∃ n : Int64, IsInteger (Text.trim input.toList) n.toInt
  · obtain ⟨n, hn⟩ := hinteger
    rw [infer_of_isInteger hn]
    rw [h.unique hn.writes] at hq
    exact_mod_cast hq
  · obtain ⟨x, hx, hrounds, -⟩ := infer_of_writes h (not_exists.mp hinteger)
    rw [hx]
    exact fun r hr => hrounds.nonpos hq hr

end Value

namespace Domain

variable {d : Domain} {v : Value}

mutual

/-- The domain takes no number but positive ones. -/
def isPositive : Domain → Bool
  | numbers min _ => Decimal.isPositive min
  | ints min _ => decide (0 < min)
  | oneOf choices => choices.all Value.isPositive
  | bool => true
  | anyOf members => areAllPositive members

def areAllPositive : List Domain → Bool
  | [] => true
  | d :: ds => isPositive d && areAllPositive ds

end

theorem isPositive_of_mem {members : List Domain} (h : areAllPositive members = true) :
    ∀ m ∈ members, m.isPositive = true := by
  induction members with
  | nil => nofun
  | cons m members ih =>
    rw [areAllPositive, Bool.and_eq_true] at h
    exact List.forall_mem_cons.mpr ⟨h.1, ih h.2⟩

theorem not_check_of_isPositive (hv : v.NotPositive) :
    (d : Domain) → d.isPositive = true → d.check v ≠ .ok ()
  | numbers min max, h, hcheck => by
    obtain ⟨x, hx, hfinite, hlow, -⟩ := check_numbers.mp hcheck
    obtain ⟨q, hq, hpos⟩ := exists_denotes_of_isPositive h
    obtain ⟨y, hy, hnonpos⟩ := hv.exists_number
    obtain rfl := Option.some.inj (hx.symm.trans hy)
    obtain ⟨a, ha⟩ := isFinite_iff.mp hfinite
    have hx : Denotes x a.value := ⟨a, ha, rfl⟩
    exact hlow ((hx.lt_iff hq).mpr ((hnonpos _ hx).trans_lt hpos))
  | ints min max, h, hcheck => by
    obtain ⟨i, rfl, hlow, -⟩ := check_ints.mp hcheck
    have hpos := Int64.lt_iff_toInt_lt.mp (of_decide_eq_true h : 0 < min)
    have hlow := Int64.le_iff_toInt_le.mp hlow
    have hv : i.toInt ≤ 0 := hv
    rw [Int64.toInt_zero] at hpos
    omega
  | oneOf choices, h, hcheck => by
    obtain ⟨choice, hchoice, hagrees⟩ := check_oneOf.mp hcheck
    rw [hv.not_agrees (List.all_eq_true.mp h choice hchoice)] at hagrees
    cases hagrees
  | bool, h, hcheck => by
    obtain ⟨b, rfl⟩ := check_bool.mp hcheck
    exact hv
  | anyOf members, h, hcheck => by
    obtain ⟨m, hm, htakes⟩ := check_anyOf.mp hcheck
    exact not_check_of_isPositive hv m (isPositive_of_mem h m hm) htakes

end Domain

namespace Parameter

variable {p : Parameter} {v : Value} {token : String}

/-- The parameter takes no number but positive ones. -/
def isPositive (p : Parameter) : Bool :=
  match p.mapping with
  | some m => m.values.all Value.isPositive
  | none => p.domain.any Domain.isPositive

theorem not_accepts_of_isPositive (h : p.isPositive = true) (hv : v.NotPositive) :
    ¬ p.Accepts v token := by
  rintro (⟨hmapping, hpairs, hkey, -⟩ | ⟨hmapping, hdomain⟩)
  · simp only [isPositive, hmapping, Mapping.values, hpairs] at h
    rw [hv.not_agrees (List.all_eq_true.mp h _ (by simp))] at hkey
    cases hkey
  · simp only [isPositive, hmapping] at h
    cases hd : p.domain with
    | none =>
      rw [hd] at h
      cases h
    | some d =>
      rw [hd] at h
      exact Domain.not_check_of_isPositive hv d h (hdomain d hd)

end Parameter

namespace Catalogue

/-- The arguments of all functions of the known models are positive. -/
theorem isPositive_of_known : ∀ m ∈ known.models, ∀ f ∈ m.functions, ∀ d ∈ f.arguments,
    d.isPositive = true := by
  have hall : known.models.all fun m =>
      m.functions.all fun f => f.arguments.all Domain.isPositive := by decide +kernel
  simpa only [List.all_eq_true] using hall

end Catalogue

end InstrumentControl
