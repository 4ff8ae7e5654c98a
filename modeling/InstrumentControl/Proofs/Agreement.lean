import InstrumentControl.Proofs.Decimal.Whole
import InstrumentControl.Proofs.Domain
import InstrumentControl.Proofs.Mapping

/-! Which numbers agree.  Numbers are compared as doubles, so an integer counts as itself rounded to
53 bits.  This tells an integer below `2^53` from every other one.  Beyond that, neighbours agree, and
a listed integer or a key of a mapping stands for its neighbours as well.  Values that agree are
written alike, except for minus zero and such integers. -/

namespace InstrumentControl

open Decimal

namespace Value

variable {v : Value} {a b : Int64} {x : Float}

/-- In comparisons the value counts as the integer `z`. -/
def CountsAs (v : Value) (z : Int) : Prop :=
  match v with
  | int a => rounded a.toInt = z
  | float x => Denotes x z
  | _ => False

theorem ofInt_beq : (ofInt b.toInt == x) = true ↔ Denotes x (rounded b.toInt) :=
  (denotes_ofInt_toInt b).beq_iff

theorem agrees_int : v.agrees (int b) = true ↔ v.CountsAs (rounded b.toInt) := by
  cases v with
  | int a =>
    show (ofInt a.toInt == ofInt b.toInt) = true ↔ rounded a.toInt = rounded b.toInt
    rw [beq_comm, ofInt_beq]
    constructor
    · intro h
      exact_mod_cast (denotes_ofInt_toInt a).unique h
    · intro h
      exact h ▸ denotes_ofInt_toInt a
  | float x =>
    show (x == ofInt b.toInt) = true ↔ Denotes x (rounded b.toInt)
    rw [beq_comm, ofInt_beq]
  | bool c => simp [agrees, number?, same, CountsAs]
  | text s => simp [agrees, number?, same, CountsAs]

theorem agrees_comm (v w : Value) : v.agrees w = w.agrees v := by
  cases v <;> cases w <;> first | rfl | exact Decimal.beq_comm | exact Bool.beq_comm

/-- An integer of at most 53 bits counts as itself, and no other integer counts as it. -/
theorem countsAs_exact (h : a.toInt.natAbs < 2 ^ 53) :
    v.CountsAs (rounded a.toInt) ↔ v = int a ∨ ∃ x, v = float x ∧ Denotes x a.toInt := by
  rw [rounded_eq_self h]
  cases v with
  | int b =>
    have hb : rounded b.toInt = a.toInt ↔ b = a := by
      conv_lhs => rw [← rounded_eq_self h]
      rw [rounded_eq_iff (.inr h), Int64.toInt_inj]
    simpa [CountsAs] using hb
  | float x => simp [CountsAs]
  | bool c => simp [CountsAs]
  | text s => simp [CountsAs]

/-- Integers and keys stand for what is rounded to the same 53 bits: a domain takes the neighbours
of a listed integer, and a mapping gives an integer the token of the first key that counts as its
neighbour.  An integer below `2^53` is told apart from every other integer. -/
theorem integers_agree_when_rounded (b : Int64) :
    (∀ v : Value, (v.agrees (int b) = true ↔ v.CountsAs (rounded b.toInt)) ∧
      ((int b).agrees v = true ↔ v.CountsAs (rounded b.toInt))) ∧
    (∀ choices : List Int64, (Domain.oneOf (choices.map int)).check (int b) = .ok () ↔
      ∃ a ∈ choices, rounded a.toInt = rounded b.toInt) ∧
    (∀ (m : Mapping) (token : String), m.toWire (int b) = some token ↔
      ∃ before key after, m.pairs = before ++ (key, token) :: after ∧
        key.CountsAs (rounded b.toInt) ∧ ∀ pair ∈ before, ¬ pair.1.CountsAs (rounded b.toInt)) ∧
    (∀ a : Int64, a.toInt.natAbs < 2 ^ 53 ∨ b.toInt.natAbs < 2 ^ 53 →
      (rounded a.toInt = rounded b.toInt ↔ a = b)) ∧
    (b.toInt.natAbs < 2 ^ 53 → rounded b.toInt = b.toInt) := by
  refine ⟨fun v => ⟨agrees_int, by rw [agrees_comm, agrees_int]⟩, fun choices => ?_,
    fun m token => ?_, fun a h => by rw [rounded_eq_iff h, Int64.toInt_inj], rounded_eq_self⟩
  · rw [Domain.check_oneOf]
    simp only [List.mem_map, exists_exists_and_eq_and, agrees_int, CountsAs]
  · rw [Mapping.toWire_eq_some]
    simp only [← Bool.not_eq_true, agrees_int]

theorem integers_agree_when_rounded_small :
    (3 : Int64).toInt.natAbs < 2 ^ 53 ∧
      (rounded (2 : Int64).toInt = rounded (3 : Int64).toInt ↔ (2 : Int64) = 3) :=
  ⟨by decide, (integers_agree_when_rounded 3).2.2.2.1 2 (.inr (by decide))⟩

/-- From `2^53` on, an integer agrees with its neighbour, with a double that is not it, with a domain
that does not list it, and with another key of a mapping. -/
theorem large_neighbours_agree :
    (9007199254740993 : Int64) ≠ 9007199254740992 ∧
    (int 9007199254740993).agrees (int 9007199254740992) = true ∧
    (int 9007199254740993).agrees (float (ofInt 9007199254740992)) = true ∧
    (Domain.oneOf [int 9007199254740992]).check (int 9007199254740993) = .ok () ∧
    (Mapping.mk [(int 9007199254740992, "LOW")]).toWire (int 9007199254740993) = some "LOW" := by
  refine ⟨by decide, ?_, ?_, ?_, ?_⟩ <;> rfl

/-! ### Texts -/

/-- A word, a truth value or an integer of at most 53 bits. -/
def isDiscrete : Value → Bool
  | int i => decide (i.toInt.natAbs < 2 ^ 53)
  | float _ => false
  | _ => true

theorem agrees_bool {c : Bool} : (bool c).agrees v = true ↔ v = bool c := by
  cases v with
  | bool b =>
    simp [agrees, number?, same]
    exact eq_comm
  | _ => simp [agrees, number?, same]

/-- What agrees with a discrete value has its wire token, except for minus zero. -/
theorem toWire_of_agrees_discrete {choice value : Value} (h : choice.agrees value = true)
    (hchoice : choice.isDiscrete = true) : value.toWire = choice.toWire ∨
      value = float (ofBits true 0) ∧ choice = int 0 := by
  cases choice with
  | float x => cases hchoice
  | bool c => exact .inl (by rw [agrees_bool.mp h])
  | text s =>
    rw [agrees_comm, agrees_text] at h
    exact .inl (by rw [h])
  | int a =>
    have ha : a.toInt.natAbs < 2 ^ 53 := of_decide_eq_true hchoice
    rw [agrees_comm, agrees_int, countsAs_exact ha] at h
    obtain rfl | ⟨x, rfl, hx⟩ := h
    · exact .inl rfl
    · refine (plain_text_of_denotes hx ha).imp id ?_
      rintro ⟨hzero, rfl⟩
      exact ⟨rfl, congrArg int (Int64.toInt_inj.mp hzero)⟩

/-- Neither minus zero nor an integer of more than 53 bits. -/
def IsPlain : Value → Prop
  | int i => i.toInt.natAbs < 2 ^ 53
  | float x => x ≠ ofBits true 0
  | _ => True

theorem isDiscrete_or_float (hv : v.IsPlain) :
    v.isDiscrete = true ∨ ∃ x, v = float x ∧ x ≠ ofBits true 0 := by
  cases v with
  | int i => exact .inl (decide_eq_true hv)
  | float x => exact .inr ⟨x, rfl, hv⟩
  | bool c => exact .inl rfl
  | text s => exact .inl rfl

/-- Plain values that agree have the same wire token. -/
theorem toWire_eq_of_agrees {choice value : Value} (h : choice.agrees value = true)
    (hchoice : choice.IsPlain) (hvalue : value.IsPlain) : value.toWire = choice.toWire := by
  rcases isDiscrete_or_float hchoice with hdiscrete | ⟨x, rfl, hx⟩
  · refine (toWire_of_agrees_discrete h hdiscrete).resolve_right ?_
    rintro ⟨rfl, -⟩
    exact hvalue rfl
  · rcases isDiscrete_or_float hvalue with hdiscrete | ⟨y, rfl, hy⟩
    · refine ((toWire_of_agrees_discrete (agrees_comm _ _ ▸ h) hdiscrete).resolve_right ?_).symm
      rintro ⟨hzero, -⟩
      exact hx (Value.float.inj hzero)
    · have hbeq : (x == y) = true := h
      obtain rfl | ⟨negative, negative', rfl, rfl⟩ := eq_of_beq hbeq
      · rfl
      · -- both zeros are plain, so neither has a sign
        cases negative with
        | true => exact absurd rfl hx
        | false =>
          cases negative' with
          | true => exact absurd rfl hy
          | false => rfl

end Value

end InstrumentControl
