import InstrumentControl.Domain
import InstrumentControl.Proofs.Decimal.Order

/-! What domains take: the numbers between bounds, and of the texts the listed ones. -/

namespace InstrumentControl

theorem Value.agrees_text {a : Value} {s : String} : a.agrees (.text s) = true ↔ a = .text s := by
  cases a <;> simp [agrees, number?, same]

namespace Domain

theorem check_numbers {min max : Float} {value : Value} :
    (numbers min max).check value = .ok () ↔
      ∃ x, value.number? = some x ∧ Decimal.isFinite x = true ∧ ¬ x < min ∧ ¬ max < x := by
  unfold check
  cases hnumber : value.number? with
  | none => simp
  | some x =>
    cases hfinite : Decimal.isFinite x with
    | false => simp [hfinite]
    | true =>
      by_cases hout : x < min ∨ max < x
      · simp [hfinite, hout, ← not_or]
      · simp [hfinite, hout, ← not_or]

/-- Between bounds that are not NaN, a domain of numbers takes the finite numbers from one to the
other. -/
theorem check_numbers_iff_le {min max : Float} (hmin : min.isNaN = false)
    (hmax : max.isNaN = false) {value : Value} :
    (numbers min max).check value = .ok () ↔
      ∃ x, value.number? = some x ∧ Decimal.isFinite x = true ∧ min ≤ x ∧ x ≤ max := by
  rw [check_numbers]
  refine exists_congr fun x => and_congr_right fun _ => and_congr_right fun hfinite => ?_
  have hx := Decimal.isNaN_of_isFinite hfinite
  rw [Decimal.not_lt_iff_le hx hmin, Decimal.not_lt_iff_le hmax hx]

mutual

/-- The texts that the domain lists. -/
def texts : Domain → List String
  | numbers _ _ | ints _ _ | bool => []
  | oneOf choices => choices.filterMap Value.text?
  | anyOf members => textsOfAny members

def textsOfAny : List Domain → List String
  | [] => []
  | d :: ds => texts d ++ textsOfAny ds

end

variable {s : String}

theorem check_oneOf {choices : List Value} {value : Value} :
    (oneOf choices).check value = .ok () ↔ ∃ choice ∈ choices, choice.agrees value = true := by
  rw [check, ← List.any_eq_true]
  split <;> simp_all

theorem check_oneOf_text {choices : List Value} :
    (oneOf choices).check (.text s) = .ok () ↔ s ∈ (oneOf choices).texts := by
  rw [check_oneOf, texts, List.mem_filterMap]
  refine exists_congr fun choice => and_congr_right fun _ => ?_
  rw [Value.agrees_text]
  cases choice <;> simp [Value.text?]

mutual

theorem check_text : (d : Domain) → (d.check (.text s) = .ok () ↔ s ∈ d.texts)
  | numbers min max => by simp [check_numbers, texts, Value.number?]
  | ints min max => by simp [check, texts]
  | bool => by simp [check, texts]
  | oneOf choices => check_oneOf_text
  | anyOf members => by
    rw [check, texts, ← anyTakes_text members]
    split <;> simp_all

theorem anyTakes_text : (ds : List Domain) → (anyTakes ds (.text s) = true ↔ s ∈ textsOfAny ds)
  | [] => by simp [anyTakes, textsOfAny]
  | d :: ds => by
    rw [anyTakes, textsOfAny, List.mem_append, ← check_text d, ← anyTakes_text ds]
    split
    · next hcheck => simp [hcheck]
    · next hcheck => simp [hcheck]

end

end Domain

end InstrumentControl
