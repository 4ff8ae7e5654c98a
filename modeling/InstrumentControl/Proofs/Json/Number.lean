import InstrumentControl.Decimal.Layout
import InstrumentControl.Json.Number
import InstrumentControl.Proofs.Decimal.Literal
import InstrumentControl.Proofs.Decimal.Shortest

/-! Numbers in JSON texts.  A number is spelled by digits before the point, and perhaps digits after
it and an exponent.  `readNumber_spelling` reads a spelling back part by part.  The spelling of a
decimal is read as its digits and the exponent of the last one; a whole number has one digit more
than its decimal, the zero after the point. -/

namespace InstrumentControl

namespace Json

open Decimal

variable {negative : Bool} {whole ds rest : List Char} {fraction : Option (List Char)}
  {exponent : Option Int}

theorem absorb_eq {n : Nat} (h : digitsValue n ds < 2 ^ 64) :
    absorb n ds = (digitsValue n ds, 0) := by
  induction ds generalizing n with
  | nil => rfl
  | cons c ds ih =>
    have hnext : 10 * n + (c.toNat - '0'.toNat) < Nat.pow 2 64 :=
      Nat.lt_of_le_of_lt (le_digitsValue _ ds) h
    rw [absorb, if_pos hnext]
    exact ih h

/-! ### Spelling -/

/-- A run of digits that is not empty. -/
def IsRun (ds : List Char) : Prop := ds ≠ [] ∧ ∀ c ∈ ds, c.isDigit = true

theorem isRun_toDigits (n : Nat) : IsRun (Nat.toDigits 10 n) :=
  ⟨Nat.toDigits_ne_nil, isDigits_toDigits n⟩

/-- The digits before the point: a zero stands there only alone. -/
structure IsWhole (ds : List Char) : Prop where
  run : IsRun ds
  leading : ds.length = 1 ∨ ds.head? ≠ some '0'

def fractionPart (fraction : Option (List Char)) : List Char :=
  fraction.elim [] fun ds => '.' :: ds

def exponentPart (exponent : Option Int) : List Char :=
  exponent.elim [] fun e => 'e' :: (if e < 0 then '-' else '+') :: Nat.toDigits 10 e.natAbs

def spelling (negative : Bool) (whole : List Char) (fraction : Option (List Char))
    (exponent : Option Int) : List Char :=
  (if negative then ['-'] else []) ++ whole ++ fractionPart fraction ++ exponentPart exponent

/-- What follows is no part of a number. -/
def EndsNumber (rest : List Char) : Prop :=
  ∀ c ∈ rest.head?, c.isDigit = false ∧ c ≠ '.' ∧ c ≠ 'e' ∧ c ≠ 'E'

theorem exponentPart_some (e : Int) :
    exponentPart (some e) = 'e' :: ((if e < 0 then "" else "+") ++ intText e).toList := by
  by_cases he : e < 0
  · simp [exponentPart, intText, decimalText, he]
  · simp [exponentPart, intText, decimalText, he]

theorem takeMinus_append (hds : IsRun ds) :
    takeMinus ((if negative then ['-'] else []) ++ (ds ++ rest)) = (negative, ds ++ rest) := by
  cases negative with
  | true => rfl
  | false =>
    cases ds with
    | nil => exact absurd rfl hds.1
    | cons c ds =>
      have hc : c ≠ '-' := by
        rintro rfl
        exact absurd (hds.2 '-' List.mem_cons_self) (by decide)
      show takeMinus (c :: (ds ++ rest)) = _
      rw [takeMinus]
      · rfl
      · rintro s ⟨⟩
        exact hc rfl

theorem takeFraction_append (hfraction : ∀ ds ∈ fraction, IsRun ds)
    (hrest : ∀ c ∈ rest.head?, c.isDigit = false ∧ c ≠ '.') :
    takeFraction (fractionPart fraction ++ rest) = some (fraction, rest) := by
  cases fraction with
  | none =>
    show takeFraction rest = _
    rw [takeFraction]
    rintro s rfl
    exact (hrest '.' rfl).2 rfl
  | some ds =>
    obtain ⟨hne, hdigits⟩ := hfraction ds rfl
    show takeFraction ('.' :: (ds ++ rest)) = _
    rw [takeFraction, takeDigits_append hdigits fun c hc => (hrest c hc).1]
    simp [hne]

theorem takeExponent_append (hrest : EndsNumber rest) :
    takeExponent (exponentPart exponent ++ rest) = some (exponent, rest) := by
  cases exponent with
  | none =>
    cases rest with
    | nil => rfl
    | cons c rest =>
      obtain ⟨-, -, he, hE⟩ := hrest c rfl
      show takeExponent (c :: rest) = _
      simp [takeExponent, he, hE]
  | some e =>
    obtain ⟨hne, hdigits⟩ := isRun_toDigits e.natAbs
    have htake := takeDigits_append hdigits fun c hc => (hrest c hc).1
    by_cases he : e < 0
    · simp [exponentPart, takeExponent, takeSign, he, htake, hne, digitsValue_toDigits,
        -Nat.cast_natAbs]
      omega
    · simp [exponentPart, takeExponent, takeSign, he, htake, hne, digitsValue_toDigits,
        -Nat.cast_natAbs]
      omega

theorem readNumber_spelling (hwhole : IsWhole whole) (hfraction : ∀ ds ∈ fraction, IsRun ds)
    (hrest : EndsNumber rest) :
    readNumber (spelling negative whole fraction exponent ++ rest) =
      some (number negative whole fraction exponent, rest) := by
  have hexponent : ∀ c ∈ (exponentPart exponent ++ rest).head?, c.isDigit = false ∧ c ≠ '.' := by
    cases exponent with
    | none => exact fun c hc => ⟨(hrest c hc).1, (hrest c hc).2.1⟩
    | some e =>
      rintro c ⟨⟩
      exact ⟨by decide, by decide⟩
  have hfractionDigit : ∀ c ∈ (fractionPart fraction ++ (exponentPart exponent ++ rest)).head?,
      c.isDigit = false := by
    cases fraction with
    | none => exact fun c hc => (hexponent c hc).1
    | some ds =>
      rintro c ⟨⟩
      decide
  have hbegin : whole.length ≠ 1 → whole.head? ≠ some '0' := hwhole.leading.resolve_left
  rw [readNumber, spelling]
  simp only [List.append_assoc]
  rw [takeMinus_append hwhole.run]
  simpa [takeDigits_append hwhole.run.2 hfractionDigit, hwhole.run.1,
    takeFraction_append hfraction hexponent, takeExponent_append hrest] using hbegin

/-! ### What is read -/

theorem number_real (hmarked : fraction ≠ none ∨ exponent ≠ none)
    (hvalue : digitsValue 0 (whole ++ fraction.getD []) < 2 ^ 64) :
    number negative whole fraction exponent =
      real? negative (digitsValue 0 (whole ++ fraction.getD []))
        (exponent.getD 0 - (fraction.getD []).length) := by
  rw [digitsValue_append] at hvalue ⊢
  have hwhole : absorb 0 whole = (digitsValue 0 whole, 0) :=
    absorb_eq (Nat.lt_of_le_of_lt (le_digitsValue _ _) hvalue)
  cases fraction with
  | some ds =>
    have hfraction : absorb (digitsValue 0 whole) ds = _ := absorb_eq hvalue
    simp [number, hwhole, hfraction]
  | none =>
    cases exponent with
    | some e => simp [number, hwhole, absorb, digitsValue]
    | none => simp at hmarked

theorem number_int {i : Int} (hlow : -2 ^ 63 ≤ i) (hhigh : i < 2 ^ 64) :
    number (i < 0) (Nat.toDigits 10 i.natAbs) none none = .int i := by
  have habsorb : absorb 0 (Nat.toDigits 10 i.natAbs) = (i.natAbs, 0) := by
    rw [absorb_eq, digitsValue_toDigits]
    rw [digitsValue_toDigits]
    omega
  by_cases hi : i < 0
  · have hrange : 0 < i.natAbs ∧ i.natAbs ≤ Nat.pow 2 63 := ⟨by omega, by rw [Nat.pow_eq]; omega⟩
    have hneg : -(i.natAbs : Int) = i := by omega
    simp only [number, habsorb, decide_eq_true hi, ne_eq, not_true_eq_false, if_false, Bool.not_true,
      Bool.false_eq_true, if_pos hrange, hneg]
  · have hpos : (i.natAbs : Int) = i := by omega
    simp only [number, habsorb, decide_eq_false hi, ne_eq, not_true_eq_false, if_false,
      Bool.not_false, if_true, hpos]

end Json

namespace Decimal.Scientific

/-- The digits of the decimal's JSON text as a number, with the exponent of the last one.  A whole
number without an exponent part has a zero after its point. -/
def written (d : Scientific) : Scientific :=
  if 0 ≤ d.exponent ∧ (Nat.toDigits 10 d.coefficient).length + d.exponent ≤ 16 then
    ⟨d.coefficient * 10 ^ (d.exponent + 1).toNat, -1⟩
  else d

theorem written_coefficient_lt {d : Scientific} (hd : d.coefficient ≤ 10 ^ 17) :
    d.written.coefficient < 2 ^ 64 := by
  unfold written
  split
  · next hwhole =>
    have hdigits := lt_pow_length_toDigits d.coefficient
    have hplaces : (Nat.toDigits 10 d.coefficient).length + (d.exponent + 1).toNat ≤ 17 := by omega
    calc d.coefficient * 10 ^ (d.exponent + 1).toNat
        < 10 ^ (Nat.toDigits 10 d.coefficient).length * 10 ^ (d.exponent + 1).toNat :=
          Nat.mul_lt_mul_of_pos_right hdigits (Nat.pow_pos (by decide))
      _ = 10 ^ ((Nat.toDigits 10 d.coefficient).length + (d.exponent + 1).toNat) :=
          (Nat.pow_add _ _ _).symm
      _ ≤ 10 ^ 17 := Nat.pow_le_pow_right (by decide) hplaces
      _ < 2 ^ 64 := by decide
  · omega

end Decimal.Scientific

namespace Json

open Decimal

/-- The parts spell the decimal as JSON has it. -/
structure Spells (d : Scientific) (whole : List Char) (fraction : Option (List Char))
    (exponent : Option Int) : Prop where
  text : Layout.json.digits d = whole ++ fractionPart fraction ++ exponentPart exponent
  isWhole : IsWhole whole
  isRun : ∀ ds ∈ fraction, IsRun ds
  marked : fraction ≠ none ∨ exponent ≠ none
  coefficient_eq : digitsValue 0 (whole ++ fraction.getD []) = d.written.coefficient
  exponent_eq : exponent.getD 0 - (fraction.getD []).length = d.written.exponent

theorem digitChar_ne_zero : ∀ n < 10, n ≠ 0 → Nat.digitChar n ≠ '0' := by decide

theorem head?_toDigits {n : Nat} (hn : n ≠ 0) : (Nat.toDigits 10 n).head? ≠ some '0' := by
  induction n using Nat.strongRecOn with
  | ind n ih =>
    by_cases hdigit : n < 10
    · rw [Nat.toDigits_of_lt_base hdigit]
      simpa using digitChar_ne_zero n hdigit hn
    · have hrest := ih (n / 10) (by omega) (by omega)
      rw [Nat.toDigits_of_base_le (by decide) (by omega), List.head?_append]
      cases hhead : (Nat.toDigits 10 (n / 10)).head? with
      | none => exact absurd (List.head?_eq_none_iff.mp hhead) Nat.toDigits_ne_nil
      | some c => simpa [hhead] using hrest

section

variable {d : Scientific} {ds : List Char} (hds : Nat.toDigits 10 d.coefficient = ds)
include hds

theorem isRun_of_toDigits : IsRun ds := hds ▸ isRun_toDigits d.coefficient

theorem isRun_drop {n : Nat} (h : n < ds.length) : IsRun (ds.drop n) :=
  ⟨by simpa using h, fun c hc => (isRun_of_toDigits hds).2 c (List.mem_of_mem_drop hc)⟩

theorem isWhole_take (hd : d.coefficient ≠ 0) {n : Nat} (hn : 0 < n) : IsWhole (ds.take n) := by
  obtain ⟨hne, hdigits⟩ := isRun_of_toDigits hds
  refine ⟨⟨by simp [Nat.ne_of_gt hn, hne], fun c hc => hdigits c (List.mem_of_mem_take hc)⟩, .inr ?_⟩
  rw [List.head?_take, if_neg (Nat.ne_of_gt hn), ← hds]
  exact head?_toDigits hd

theorem digitsValue_of_toDigits : digitsValue 0 ds = d.coefficient := hds ▸ digitsValue_toDigits _

theorem length_pos_of_toDigits : 0 < ds.length := hds ▸ Nat.length_toDigits_pos

theorem json_digits : Layout.json.digits d =
    if -4 ≤ ds.length + d.exponent ∧ ds.length + d.exponent ≤ 16 then
      positionalText true ds (ds.length + d.exponent)
    else exponentText "+" ds (ds.length + d.exponent - 1) := by
  have hrange : (-5 ≤ ds.length + d.exponent - 1 ∧ ds.length + d.exponent - 1 ≤ 15) ↔
      -4 ≤ ds.length + d.exponent ∧ ds.length + d.exponent ≤ 16 := by omega
  simp only [Layout.digits, Layout.json, hds, hrange]

theorem written_of_whole (hlow : 0 ≤ d.exponent) (hhigh : ds.length + d.exponent ≤ 16) :
    d.written = ⟨d.coefficient * 10 ^ (d.exponent + 1).toNat, -1⟩ := by
  rw [Scientific.written, hds, if_pos ⟨hlow, hhigh⟩]

theorem written_of_not_whole (h : ¬ (0 ≤ d.exponent ∧ ds.length + d.exponent ≤ 16)) :
    d.written = d := by
  rw [Scientific.written, hds, if_neg h]

/-- The decimal point comes before the first digit. -/
theorem spells_small (hlow : -4 ≤ ds.length + d.exponent) (hhigh : ds.length + d.exponent ≤ 0) :
    Spells d ['0'] (some (zeros (-(ds.length + d.exponent)) ++ ds)) none := by
  obtain ⟨hne, hdigits⟩ := isRun_of_toDigits hds
  have hlength := length_pos_of_toDigits hds
  have hwritten : d.written = d := written_of_not_whole hds (by omega)
  refine ⟨?_, ⟨⟨by simp, List.forall_mem_singleton.mpr rfl⟩, .inl rfl⟩, ?_, .inl (by simp), ?_, ?_⟩
  · rw [json_digits hds, if_pos ⟨hlow, by omega⟩, positionalText, if_pos hhigh]
    simp [fractionPart, exponentPart]
  · rintro _ ⟨⟩
    refine ⟨by simp [hne], ?_⟩
    rw [List.forall_mem_append]
    refine ⟨fun c hc => ?_, hdigits⟩
    rw [List.eq_of_mem_replicate hc]
    decide
  · rw [hwritten, ← digitsValue_of_toDigits hds]
    exact (digitsValue_zeros_append 1 _).trans (digitsValue_zeros_append _ ds)
  · rw [hwritten]
    simp [zeros]
    omega

/-- The decimal point comes after the last digit. -/
theorem spells_whole (hd : d.coefficient ≠ 0 ∨ d.exponent = 0) (hlow : 0 ≤ d.exponent)
    (hhigh : ds.length + d.exponent ≤ 16) :
    Spells d (ds ++ List.replicate d.exponent.toNat '0') (some ['0']) none := by
  obtain ⟨hne, hdigits⟩ := isRun_of_toDigits hds
  have hlength := length_pos_of_toDigits hds
  have hwritten := written_of_whole hds hlow hhigh
  refine ⟨?_, ⟨⟨by simp [hne], ?_⟩, ?_⟩, ?_, .inl (by simp), ?_, ?_⟩
  · rw [json_digits hds, if_pos ⟨by omega, hhigh⟩, positionalText, if_neg (by omega),
      if_pos (by omega)]
    simp [fractionPart, exponentPart, zeros]
  · rw [List.forall_mem_append]
    refine ⟨hdigits, fun c hc => ?_⟩
    rw [List.eq_of_mem_replicate hc]
    decide
  · by_cases hzero : d.coefficient = 0
    · left
      have hone : ds.length = 1 := by
        rw [← hds, hzero]
        rfl
      simp [hone, hd.resolve_left (fun h => h hzero)]
    · right
      have hhead := head?_toDigits hzero
      rw [hds] at hhead
      cases ds with
      | nil => exact absurd rfl hne
      | cons c ds => exact hhead
  · rintro _ ⟨⟩
    exact ⟨by simp, List.forall_mem_singleton.mpr rfl⟩
  · have hpow : (d.exponent + 1).toNat = d.exponent.toNat + 1 := by omega
    show digitsValue 0 (ds ++ List.replicate d.exponent.toNat '0' ++ List.replicate 1 '0') = _
    rw [hwritten, digitsValue_append, digitsValue_append, digitsValue_zeros, digitsValue_zeros,
      digitsValue_of_toDigits hds, hpow, Nat.mul_assoc, ← Nat.pow_add]
  · rw [hwritten]
    rfl

/-- The decimal point comes between two digits. -/
theorem spells_split (hd : d.coefficient ≠ 0) (hlow : 0 < ds.length + d.exponent)
    (hneg : d.exponent < 0) (hhigh : ds.length + d.exponent ≤ 16) :
    Spells d (ds.take (ds.length + d.exponent).toNat)
      (some (ds.drop (ds.length + d.exponent).toNat)) none := by
  have hwritten : d.written = d := written_of_not_whole hds (by omega)
  refine ⟨?_, isWhole_take hds hd (by omega), ?_, .inl (by simp), ?_, ?_⟩
  · rw [json_digits hds, if_pos ⟨by omega, hhigh⟩, positionalText, if_neg (by omega),
      if_neg (by omega)]
    simp [fractionPart, exponentPart]
  · rintro _ ⟨⟩
    exact isRun_drop hds (by omega)
  · rw [hwritten, ← digitsValue_of_toDigits hds]
    simp
  · rw [hwritten]
    simp
    omega

/-- An exponent is written. -/
theorem spells_exponent (hd : d.coefficient ≠ 0)
    (hrange : ds.length + d.exponent < -4 ∨ 16 < ds.length + d.exponent) :
    Spells d (ds.take 1) (if ds.length ≤ 1 then none else some (ds.drop 1))
      (some (ds.length + d.exponent - 1)) := by
  have hlength := length_pos_of_toDigits hds
  have hwritten : d.written = d := written_of_not_whole hds (by omega)
  refine ⟨?_, isWhole_take hds hd (by omega), ?_, .inr (by simp), ?_, ?_⟩
  · rw [json_digits hds, if_neg (by omega), exponentText, exponentPart_some]
    split <;> simp [fractionPart]
  · intro ds' hds'
    split at hds'
    · cases hds'
    · cases hds'
      exact isRun_drop hds (by omega)
  · rw [hwritten, ← digitsValue_of_toDigits hds]
    split
    · next hone => simp [List.take_of_length_le hone]
    · rw [Option.getD_some, List.take_append_drop]
  · rw [hwritten]
    split
    · simp
      omega
    · simp
      omega

omit hds

theorem exists_spells (hd : d.coefficient ≠ 0 ∨ d.exponent = 0) :
    ∃ whole fraction exponent, Spells d whole fraction exponent := by
  obtain ⟨ds, hds⟩ : ∃ ds, Nat.toDigits 10 d.coefficient = ds := ⟨_, rfl⟩
  have hlength := length_pos_of_toDigits hds
  by_cases hpositional : -4 ≤ ds.length + d.exponent ∧ ds.length + d.exponent ≤ 16
  · by_cases hsmall : ds.length + d.exponent ≤ 0
    · exact ⟨_, _, _, spells_small hds hpositional.1 hsmall⟩
    by_cases hwhole : 0 ≤ d.exponent
    · exact ⟨_, _, _, spells_whole hds hd hwhole hpositional.2⟩
    · exact ⟨_, _, _, spells_split hds (hd.resolve_right (by omega)) (by omega) (by omega)
        hpositional.2⟩
  · have hd' : d.coefficient ≠ 0 := by
      rintro hzero
      have hone : ds.length = 1 := by
        rw [← hds, hzero]
        rfl
      have := hd.resolve_left (fun h => h hzero)
      omega
    exact ⟨_, _, _, spells_exponent hds hd' (by omega)⟩

end

/-- The text of a decimal is read as its digits and the exponent of the last one. -/
theorem readNumber_digits {d : Scientific} (hd : d.coefficient ≠ 0 ∨ d.exponent = 0)
    (hbound : d.written.coefficient < 2 ^ 64) (hrest : EndsNumber rest) :
    readNumber ((if negative then ['-'] else []) ++ Layout.json.digits d ++ rest) =
      some (real? negative d.written.coefficient d.written.exponent, rest) := by
  obtain ⟨whole, fraction, exponent, h⟩ := exists_spells hd
  have htext : (if negative then ['-'] else []) ++ Layout.json.digits d =
      spelling negative whole fraction exponent := by
    rw [h.text, spelling]
    simp only [List.append_assoc]
  rw [htext, readNumber_spelling h.isWhole h.isRun hrest,
    number_real h.marked (h.coefficient_eq ▸ hbound), h.coefficient_eq, h.exponent_eq]

theorem isWhole_toDigits (n : Nat) : IsWhole (Nat.toDigits 10 n) := by
  refine ⟨isRun_toDigits n, ?_⟩
  by_cases hn : n = 0
  · subst hn
    exact .inl rfl
  · exact .inr (head?_toDigits hn)

theorem readNumber_intText (i : Int) (hrest : EndsNumber rest) :
    readNumber ((intText i).toList ++ rest) =
      some (number (i < 0) (Nat.toDigits 10 i.natAbs) none none, rest) := by
  have htext : (intText i).toList = spelling (i < 0) (Nat.toDigits 10 i.natAbs) none none := by
    by_cases hi : i < 0
    · simp [intText, decimalText, spelling, fractionPart, exponentPart, hi]
    · simp [intText, decimalText, spelling, fractionPart, exponentPart, hi]
  rw [htext]
  exact readNumber_spelling (isWhole_toDigits _) nofun hrest

end Json

end InstrumentControl
