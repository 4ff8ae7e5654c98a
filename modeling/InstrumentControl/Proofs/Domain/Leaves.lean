import InstrumentControl.Proofs.Decimal.Nearest
import InstrumentControl.Proofs.Domain

/-! Which values a domain takes.  A domain is a tree of unions, and it takes a value exactly if one
of the leaves of the tree admits it.  So neither the order nor the grouping of members matters, nor
how often they occur, and a further member takes no value away. -/

namespace InstrumentControl.Domain

open Decimal

variable {d d' leaf : Domain} {members members' : List Domain} {value : Value}

/-! ### Leaves -/

/-- Members of unions lead from the domain to `leaf`, which is no union. -/
inductive Reaches : Domain → (leaf : Domain) → Prop
  | leaf {leaf : Domain} (hleaf : ∀ members, leaf ≠ anyOf members) : Reaches leaf leaf
  | member {members : List Domain} {m leaf : Domain} (hm : m ∈ members) (h : Reaches m leaf) :
    Reaches (anyOf members) leaf

/-- What a leaf admits.  An integer lies between real bounds if its double does. -/
inductive Admits : Domain → Value → Prop
  | integer {min max : Float} {i : Int64} (hmin : min ≤ ofInt i.toInt)
    (hmax : ofInt i.toInt ≤ max) : Admits (numbers min max) (.int i)
  | real {min max x : Float} (hfinite : isFinite x = true) (hmin : min ≤ x) (hmax : x ≤ max) :
    Admits (numbers min max) (.float x)
  | within {min max i : Int64} (hmin : min ≤ i) (hmax : i ≤ max) : Admits (ints min max) (.int i)
  | listed {choices : List Value} {choice value : Value} (hchoice : choice ∈ choices)
    (h : choice.agrees value = true) : Admits (oneOf choices) value
  | truth {b : Bool} : Admits bool (.bool b)

/-- No bound in the tree is NaN. -/
def Bounded (d : Domain) : Prop :=
  ∀ min max, d.Reaches (numbers min max) → min.isNaN = false ∧ max.isNaN = false

theorem reaches_anyOf : (anyOf members).Reaches leaf ↔ ∃ m ∈ members, m.Reaches leaf := by
  constructor
  · intro h
    cases h with
    | leaf hleaf => exact absurd rfl (hleaf members)
    | member hm h => exact ⟨_, hm, h⟩
  · rintro ⟨m, hm, h⟩
    exact .member hm h

theorem anyTakes_iff : anyTakes members value = true ↔ ∃ m ∈ members, m.check value = .ok () := by
  induction members with
  | nil => simp [anyTakes]
  | cons m members ih =>
    rw [anyTakes]
    split
    · next hcheck => simp [hcheck]
    · next hcheck => simp [hcheck, ih]

theorem check_anyOf :
    (anyOf members).check value = .ok () ↔ ∃ m ∈ members, m.check value = .ok () := by
  rw [check, ← anyTakes_iff]
  split <;> simp_all

theorem check_of_reaches (h : d.Reaches leaf) (hcheck : leaf.check value = .ok ()) :
    d.check value = .ok () := by
  induction h with
  | leaf => exact hcheck
  | member hm _ ih => exact check_anyOf.mpr ⟨_, hm, ih hcheck⟩

theorem exists_reaches : (d : Domain) → d.check value = .ok () →
    ∃ leaf, d.Reaches leaf ∧ leaf.check value = .ok ()
  | numbers _ _, h => ⟨_, .leaf nofun, h⟩
  | ints _ _, h => ⟨_, .leaf nofun, h⟩
  | oneOf _, h => ⟨_, .leaf nofun, h⟩
  | bool, h => ⟨_, .leaf nofun, h⟩
  | anyOf members, h => by
    obtain ⟨m, hm, hcheck⟩ := check_anyOf.mp h
    obtain ⟨leaf, hleaf, htakes⟩ := exists_reaches m hcheck
    exact ⟨leaf, .member hm hleaf, htakes⟩

/-- A domain takes what its leaves take. -/
theorem check_iff_exists_reaches :
    d.check value = .ok () ↔ ∃ leaf, d.Reaches leaf ∧ leaf.check value = .ok () :=
  ⟨exists_reaches d, fun ⟨_, hleaf, hcheck⟩ => check_of_reaches hleaf hcheck⟩

/-! ### What leaves take -/

theorem check_ints {min max : Int64} :
    (ints min max).check value = .ok () ↔ ∃ i, value = .int i ∧ min ≤ i ∧ i ≤ max := by
  cases value with
  | int i =>
    have hcheck : (ints min max).check (.int i) = .ok () ↔ ¬ (i < min ∨ max < i) := by
      rw [check]
      by_cases hout : i < min ∨ max < i <;> simp [hout]
    rw [hcheck, not_or, Int64.not_lt, Int64.not_lt]
    simp
  | _ => simp [check]

theorem check_bool : bool.check value = .ok () ↔ ∃ b, value = .bool b := by
  cases value <;> simp [check]

/-- Between bounds that are not NaN, a leaf takes what it admits. -/
theorem check_leaf (hleaf : ∀ members, leaf ≠ anyOf members)
    (hbounds : ∀ min max, leaf = numbers min max → min.isNaN = false ∧ max.isNaN = false) :
    leaf.check value = .ok () ↔ leaf.Admits value := by
  cases leaf with
  | anyOf members => exact absurd rfl (hleaf members)
  | numbers min max =>
    obtain ⟨hmin, hmax⟩ := hbounds min max rfl
    rw [check_numbers_iff_le hmin hmax]
    constructor
    · rintro ⟨x, hx, hfinite, hlow, hhigh⟩
      cases value with
      | int i =>
        cases hx
        exact .integer hlow hhigh
      | float y =>
        cases hx
        exact .real hfinite hlow hhigh
      | bool b => cases hx
      | text s => cases hx
    · intro h
      cases h with
      | integer hlow hhigh => exact ⟨_, rfl, (denotes_ofInt_toInt _).isFinite, hlow, hhigh⟩
      | real hfinite hlow hhigh => exact ⟨_, rfl, hfinite, hlow, hhigh⟩
  | ints min max =>
    rw [check_ints]
    constructor
    · rintro ⟨i, rfl, hmin, hmax⟩
      exact .within hmin hmax
    · rintro (_ | _ | ⟨hmin, hmax⟩)
      exact ⟨_, rfl, hmin, hmax⟩
  | oneOf choices =>
    rw [check_oneOf]
    constructor
    · rintro ⟨choice, hchoice, h⟩
      exact .listed hchoice h
    · intro h
      cases h with
      | listed hchoice h => exact ⟨_, hchoice, h⟩
  | bool =>
    rw [check_bool]
    constructor
    · rintro ⟨b, rfl⟩
      exact .truth
    · intro h
      cases h
      exact ⟨_, rfl⟩

theorem Reaches.not_anyOf (h : d.Reaches leaf) : ∀ members, leaf ≠ anyOf members := by
  induction h with
  | leaf hleaf => exact hleaf
  | member _ _ ih => exact ih

/-! ### Unions made of the same leaves -/

/-- The domains differ in the order, the number and the grouping of members of unions. -/
inductive Rearranges : Domain → Domain → Prop
  | refl {d : Domain} : Rearranges d d
  | permuted {members members' : List Domain} (h : members.Perm members') :
    Rearranges (anyOf members) (anyOf members')
  | repeated {members : List Domain} {m : Domain} (hm : m ∈ members) :
    Rearranges (anyOf members) (anyOf (m :: members))
  /-- Read backwards, members are grouped into a union of their own. -/
  | flattened {before inner after : List Domain} :
    Rearranges (anyOf (before ++ anyOf inner :: after)) (anyOf (before ++ inner ++ after))
  | single {d : Domain} : Rearranges (anyOf [d]) d
  | inside {d d' : Domain} {before after : List Domain} (h : Rearranges d d') :
    Rearranges (anyOf (before ++ d :: after)) (anyOf (before ++ d' :: after))
  | symm {d d' : Domain} (h : Rearranges d d') : Rearranges d' d
  | trans {d d' d'' : Domain} (h : Rearranges d d') (h' : Rearranges d' d'') : Rearranges d d''

/-- A union in the tree has one more member. -/
inductive Extends : Domain → Domain → Prop
  | here {before after : List Domain} {m : Domain} :
    Extends (anyOf (before ++ after)) (anyOf (before ++ m :: after))
  | inside {d d' : Domain} {before after : List Domain} (h : Extends d d') :
    Extends (anyOf (before ++ d :: after)) (anyOf (before ++ d' :: after))

theorem Rearranges.reaches_iff (h : Rearranges d d') : d.Reaches leaf ↔ d'.Reaches leaf := by
  induction h with
  | refl => rfl
  | permuted h => simp only [reaches_anyOf, h.mem_iff]
  | repeated hm =>
    simp only [reaches_anyOf, List.mem_cons, exists_eq_or_imp]
    exact ⟨.inr, fun h => h.elim (fun h => ⟨_, hm, h⟩) id⟩
  | flattened =>
    simp only [reaches_anyOf, List.mem_append, List.mem_cons, or_and_right, exists_or,
      exists_eq_left, or_assoc]
  | single => simp only [reaches_anyOf, List.mem_singleton, exists_eq_left]
  | inside _ ih =>
    simp only [reaches_anyOf, List.mem_append, List.mem_cons, or_and_right, exists_or,
      exists_eq_left, ih]
  | symm _ ih => exact ih.symm
  | trans _ _ ih ih' => exact ih.trans ih'

theorem Extends.reaches (h : Extends d d') (hleaf : d.Reaches leaf) : d'.Reaches leaf := by
  induction h with
  | here =>
    simp only [reaches_anyOf, List.mem_append, List.mem_cons, or_and_right, exists_or,
      exists_eq_left] at hleaf ⊢
    exact hleaf.imp_right .inr
  | inside _ ih =>
    simp only [reaches_anyOf, List.mem_append, List.mem_cons, or_and_right, exists_or,
      exists_eq_left] at hleaf ⊢
    exact hleaf.imp_right fun h => h.imp_left ih

/-- A domain takes the values that one of its leaves admits.  Rearranging unions changes nothing in
this, and a union with one more member takes at least as much. -/
theorem takes_what_leaves_admit (d : Domain) (value : Value) :
    (d.Bounded → (d.check value = .ok () ↔ ∃ leaf, d.Reaches leaf ∧ leaf.Admits value)) ∧
    (∀ d', Rearranges d d' → (d'.check value = .ok () ↔ d.check value = .ok ())) ∧
    ∀ d', Extends d d' → d.check value = .ok () → d'.check value = .ok () := by
  refine ⟨fun hbounds => ?_, fun d' h => ?_, fun d' h hcheck => ?_⟩
  · rw [check_iff_exists_reaches]
    refine exists_congr fun leaf => and_congr_right fun hleaf => ?_
    apply check_leaf hleaf.not_anyOf
    rintro min max rfl
    exact hbounds min max hleaf
  · rw [check_iff_exists_reaches, check_iff_exists_reaches]
    exact exists_congr fun leaf => and_congr_left fun _ => h.reaches_iff.symm
  · rw [check_iff_exists_reaches] at hcheck ⊢
    obtain ⟨leaf, hleaf, htakes⟩ := hcheck
    exact ⟨leaf, h.reaches hleaf, htakes⟩

/-- Counts, a word, and the reals up to zero beside a range that admits nothing. -/
def mixed : Domain :=
  anyOf [ints 1 9999, anyOf [oneOf [.text "inf"], anyOf []], numbers (infinity true) 0, numbers 2 1]

/-- The leaves of `mixed` in one union and in reverse order. -/
def remixed : Domain :=
  anyOf [numbers 2 1, numbers (infinity true) 0, oneOf [.text "inf"], ints 1 9999]

/-- `mixed` with one more member of its innermost union. -/
def extended : Domain :=
  anyOf [ints 1 9999, anyOf [oneOf [.text "inf"], anyOf [bool]], numbers (infinity true) 0,
    numbers 2 1]

theorem mixed_bounded : mixed.Bounded := by
  intro min max h
  simp only [mixed, reaches_anyOf, List.mem_cons, List.not_mem_nil, or_false, exists_eq_or_imp,
    exists_eq_left, false_and, exists_false] at h
  rcases h with h | h | h | h <;> cases h <;> decide +kernel

theorem mixed_rearranges : Rearranges mixed remixed := by
  have hinner : Rearranges (anyOf [oneOf [.text "inf"], anyOf []]) (oneOf [.text "inf"]) :=
    .trans (@Rearranges.flattened [oneOf [.text "inf"]] [] []) .single
  exact .trans (@Rearranges.inside _ _ [ints 1 9999] _ hinner)
    (.permuted (List.reverse_perm _).symm)

theorem mixed_extends : Extends mixed extended :=
  @Extends.inside _ _ [ints 1 9999] _ (@Extends.inside _ _ [oneOf [.text "inf"]] _
    (@Extends.here [] [] _))

theorem takes_what_leaves_admit_mixed :
    mixed.Bounded ∧ Rearranges mixed remixed ∧ Extends mixed extended ∧
      (numbers (infinity true) 0).Admits (.float (-1)) ∧
      mixed.check (.float (-1)) = .ok () ∧ remixed.check (.float (-1)) = .ok () ∧
      extended.check (.float (-1)) = .ok () := by
  have hadmits : (numbers (infinity true) 0).Admits (.float (-1)) := by
    apply Admits.real <;> decide +kernel
  have hreaches : mixed.Reaches (numbers (infinity true) 0) :=
    .member (List.mem_of_getElem? (i := 2) rfl) (.leaf nofun)
  obtain ⟨htakes, hrearranged, hextended⟩ := takes_what_leaves_admit mixed (.float (-1))
  have hmixed := (htakes mixed_bounded).mpr ⟨_, hreaches, hadmits⟩
  exact ⟨mixed_bounded, mixed_rearranges, mixed_extends, hadmits, hmixed,
    (hrearranged _ mixed_rearranges).mpr hmixed, hextended _ mixed_extends hmixed⟩

end InstrumentControl.Domain
