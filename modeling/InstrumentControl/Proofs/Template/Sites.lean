import InstrumentControl.AccessError
import InstrumentControl.Proofs.Keyed
import InstrumentControl.Proofs.Template.Filling
import InstrumentControl.Template.Sites

/-! The order of sites.  Sorting by number keeps the keys, with those of one number in their order.
The keys of arguments are their own numbers as long as a word holds them.  So keys without
repetition sort into the keys of the arguments exactly if they are these keys, whatever the order of
their texts. -/

namespace InstrumentControl.Template

variable {key : String} {keys : List String} {count : Nat}

/-! ### Sorting -/

theorem perm_insertByNumber (key : String) (keys : List String) :
    (insertByNumber key keys).Perm (key :: keys) := by
  induction keys with
  | nil => exact .refl _
  | cons other keys ih =>
    rw [insertByNumber]
    split
    · exact .refl _
    · exact (ih.cons other).trans (.swap key other keys)

theorem perm_sortByNumber (keys : List String) : (sortByNumber keys).Perm keys := by
  induction keys with
  | nil => exact .nil
  | cons key keys ih => exact (perm_insertByNumber key _).trans (ih.cons key)

/-- The numbers of the keys do not fall. -/
def InOrder (keys : List String) : Prop :=
  keys.Pairwise fun key other => siteNumber key ≤ siteNumber other

theorem InOrder.insertByNumber (h : InOrder keys) (key : String) :
    InOrder (insertByNumber key keys) := by
  induction keys with
  | nil => exact List.pairwise_singleton ..
  | cons other keys ih =>
    obtain ⟨hother, hkeys⟩ := List.pairwise_cons.mp h
    rw [Template.insertByNumber]
    split
    · next hle =>
      refine List.pairwise_cons.mpr ⟨fun later hlater => ?_, h⟩
      rcases List.mem_cons.mp hlater with rfl | hlater
      · exact hle
      · exact hle.trans (hother later hlater)
    · next hgt =>
      refine List.pairwise_cons.mpr ⟨fun later hlater => ?_, ih hkeys⟩
      rcases List.mem_cons.mp ((perm_insertByNumber key keys).mem_iff.mp hlater) with rfl | hlater
      · exact Nat.le_of_not_le hgt
      · exact hother later hlater

theorem inOrder_sortByNumber (keys : List String) : InOrder (sortByNumber keys) := by
  induction keys with
  | nil => exact List.Pairwise.nil
  | cons key keys ih => exact ih.insertByNumber key

theorem filter_insertByNumber (key : String) (keys : List String) (n : Nat) :
    (insertByNumber key keys).filter (siteNumber · = n) =
      (key :: keys).filter (siteNumber · = n) := by
  induction keys with
  | nil => rfl
  | cons other keys ih =>
    rw [insertByNumber]
    split
    · rfl
    · next hgt =>
      rw [List.filter_cons, ih, List.filter_cons, List.filter_cons, List.filter_cons]
      -- two keys that change places do not have the same number
      by_cases hkey : siteNumber key = n
      · have hother : siteNumber other ≠ n := by omega
        simp [hkey, hother]
      · simp [hkey]

/-- Sorting is stable. -/
theorem filter_sortByNumber (keys : List String) (n : Nat) :
    (sortByNumber keys).filter (siteNumber · = n) = keys.filter (siteNumber · = n) := by
  induction keys with
  | nil => rfl
  | cons key keys ih =>
    rw [sortByNumber, List.foldr_cons, filter_insertByNumber, List.filter_cons, List.filter_cons]
    rw [show (keys.foldr insertByNumber []).filter (siteNumber · = n) = _ from ih]

/-- In the order of their texts the keys are in another. -/
example : sortByNumber ["+3", "0", "1", "10", "2", "x"] = ["0", "1", "2", "+3", "10", "x"] := by
  decide +kernel

/-! ### Keys of arguments -/

theorem siteNumber_argumentKey {i : Nat} (hi : i ≤ greatestWord) : siteNumber (argumentKey i) = i := by
  have hdigits : ∀ c ∈ Nat.toDigits 10 i, c.isDigit = true := fun c hc =>
    Nat.isDigit_of_mem_toDigits (by decide) (by decide) hc
  have hread : Decimal.readNat? (Nat.toDigits 10 i) = some i := by
    have hne : Nat.toDigits 10 i ≠ [] := Nat.toDigits_ne_nil
    have hvalue : Decimal.digitsValue 0 (Nat.toDigits 10 i) = i := Nat.ofDigitChars_ten_toDigits
    unfold Decimal.readNat?
    split
    next ds hplus =>
      have hsign := hdigits '+' (by simp_all)
      exact absurd hsign (by decide)
    · rw [if_neg (by simpa [hne] using hdigits), hvalue]
  rw [siteNumber, argumentKey, Decimal.decimalText, String.toList_ofList, hread]
  simp [Option.filter, hi]

theorem mem_argumentKeys : key ∈ argumentKeys count ↔ ∃ i < count, key = Decimal.decimalText i := by
  simp [argumentKeys, argumentKey, eq_comm]

theorem nodup_argumentKeys (count : Nat) : (argumentKeys count).Nodup :=
  List.nodup_range.map fun _ _ => argumentKey_injective

theorem inOrder_argumentKeys (h : count ≤ greatestWord + 1) : InOrder (argumentKeys count) := by
  refine List.pairwise_map.mpr (List.pairwise_lt_range.imp_of_mem fun {i j} hi hj hlt => ?_)
  rw [List.mem_range] at hi hj
  rw [siteNumber_argumentKey (by omega), siteNumber_argumentKey (by omega)]
  exact hlt.le

theorem mem_of_sortByNumber_eq (h : sortByNumber keys = argumentKeys count) :
    key ∈ keys ↔ ∃ i < count, key = Decimal.decimalText i := by
  rw [← (perm_sortByNumber keys).mem_iff, h, mem_argumentKeys]

/-- Keys without repetition sort into the keys of the arguments if they are these keys. -/
theorem sortByNumber_eq (hkeys : keys.Nodup) (hfew : count ≤ greatestWord + 1)
    (h : ∀ key, key ∈ keys ↔ ∃ i < count, key = Decimal.decimalText i) :
    sortByNumber keys = argumentKeys count := by
  have hsame : keys.Perm (argumentKeys count) :=
    (List.perm_ext_iff_of_nodup hkeys (nodup_argumentKeys count)).mpr fun key =>
      (h key).trans mem_argumentKeys.symm
  refine List.Perm.eq_of_pairwise ?_ (inOrder_sortByNumber keys) (inOrder_argumentKeys hfew)
    ((perm_sortByNumber keys).trans hsame)
  -- the keys of two arguments are the same if their numbers are
  intro key other hkey hother hle hge
  obtain ⟨i, hi, rfl⟩ := (h key).mp ((perm_sortByNumber keys).mem_iff.mp hkey)
  obtain ⟨j, hj, rfl⟩ := mem_argumentKeys.mp hother
  have hequal : siteNumber (argumentKey i) = siteNumber (argumentKey j) := Nat.le_antisymm hle hge
  rw [siteNumber_argumentKey (by omega), siteNumber_argumentKey (by omega)] at hequal
  rw [hequal]

/-! ### Keys of templates -/

/-- No key of a template occurs twice. -/
theorem nodup_keys_of_parse {source : String} {t : Template} (h : parse source = .ok t) :
    t.keys.Nodup := by
  obtain ⟨-, -, ⟨keys, -, hsorted⟩, -⟩ := parse_eq_ok.mp h
  rw [hsorted]
  exact (Keyed.ordered_ofList _).imp ne_of_lt

end InstrumentControl.Template
