import InstrumentControl.Decimal.Literal
import Mathlib

/-! The grammar of numbers written in decimal.  `IsLiteral` says which texts write a finite number,
with which digits and which exponent, and `IsInteger` which of them are integer literals.  The readers
accept these texts and no others. -/

namespace InstrumentControl.Decimal

variable {negative : Bool} {s sign ds rest : List Char} {c : Nat} {e : Int}

/-! ### Digits -/

def IsDigits (ds : List Char) : Prop := ∀ c ∈ ds, c.isDigit = true

theorem takeDigits_append (hds : IsDigits ds)
    (hrest : ∀ c ∈ rest.head?, c.isDigit = false) : takeDigits (ds ++ rest) = (ds, rest) := by
  have htake : rest.takeWhile Char.isDigit = [] := by
    cases rest with
    | nil => rfl
    | cons c rest => exact List.takeWhile_cons_of_neg (by simp [hrest c rfl])
  have hdrop : rest.dropWhile Char.isDigit = rest := by
    cases rest with
    | nil => rfl
    | cons c rest => exact List.dropWhile_cons_of_neg (by simp [hrest c rfl])
  rw [takeDigits, List.takeWhile_append_of_pos hds, List.dropWhile_append_of_pos hds, htake, hdrop,
    List.append_nil]

theorem takeDigits_eq (h : takeDigits s = (ds, rest)) :
    s = ds ++ rest ∧ IsDigits ds ∧ ∀ c ∈ rest.head?, c.isDigit = false := by
  obtain ⟨rfl, rfl⟩ := Prod.mk.injEq .. ▸ h
  refine ⟨List.takeWhile_append_dropWhile.symm, fun c hc => List.mem_takeWhile_imp hc, ?_⟩
  intro c hc
  have hfirst := List.head?_dropWhile_not Char.isDigit s
  rw [Option.mem_def.mp hc] at hfirst
  exact hfirst

theorem digitsValue_append (n : Nat) (ds ds' : List Char) :
    digitsValue n (ds ++ ds') = digitsValue (digitsValue n ds) ds' := List.foldl_append

theorem digitsValue_toDigits (n : Nat) : digitsValue 0 (Nat.toDigits 10 n) = n :=
  Nat.ofDigitChars_ten_toDigits

theorem digitsValue_zeros (n z : Nat) : digitsValue n (List.replicate z '0') = n * 10 ^ z :=
  Nat.ofDigitChars_replicate_zero.trans (Nat.mul_comm _ _)

theorem digitsValue_zeros_append (z : Nat) (ds : List Char) :
    digitsValue 0 (List.replicate z '0' ++ ds) = digitsValue 0 ds := by
  rw [digitsValue_append, digitsValue_zeros, Nat.zero_mul]

theorem isDigits_toDigits (n : Nat) : IsDigits (Nat.toDigits 10 n) :=
  fun _ => Nat.isDigit_of_mem_toDigits (by decide) (by decide)

theorem le_digitsValue (n : Nat) (ds : List Char) : n ≤ digitsValue n ds := by
  induction ds generalizing n with
  | nil => exact Nat.le_refl n
  | cons c ds ih =>
    have := ih (10 * n + (c.toNat - '0'.toNat))
    show n ≤ digitsValue (10 * n + (c.toNat - '0'.toNat)) ds
    omega

/-! ### Signs -/

/-- A sign that may stand before a number. -/
inductive IsSign : Bool → List Char → Prop
  | none : IsSign false []
  | plus : IsSign false ['+']
  | minus : IsSign true ['-']

/-- A number begins with a digit or a point, and not with a sign. -/
def Unsigned (s : List Char) : Prop := ∀ c ∈ s.head?, c ≠ '-' ∧ c ≠ '+'

theorem takeSign_append (hsign : IsSign negative sign) (hrest : Unsigned rest) :
    takeSign (sign ++ rest) = (negative, rest) := by
  cases hsign with
  | plus => rfl
  | minus => rfl
  | none =>
    show takeSign rest = _
    rw [takeSign]
    · rintro s rfl
      exact (hrest '-' rfl).1 rfl
    · rintro s rfl
      exact (hrest '+' rfl).2 rfl

theorem takeSign_eq (h : takeSign s = (negative, rest)) :
    ∃ sign, IsSign negative sign ∧ s = sign ++ rest := by
  rw [takeSign.eq_def] at h
  split at h <;> cases h
  · exact ⟨_, .minus, rfl⟩
  · exact ⟨_, .plus, rfl⟩
  · exact ⟨_, .none, rfl⟩

theorem unsigned_cons {c : Char} (h : c.isDigit = true ∨ c = '.') : Unsigned (c :: rest) := by
  rintro c' ⟨⟩
  constructor <;> (rintro rfl; exact absurd h (by decide))

theorem IsDigits.unsigned (hds : IsDigits ds) (hne : ds ≠ []) : Unsigned ds := by
  cases ds with
  | nil => exact absurd rfl hne
  | cons c ds => exact unsigned_cons (.inl (hds c List.mem_cons_self))

/-! ### The parts of a literal -/

/-- An exponent, or none. -/
inductive IsExponent : Int → List Char → Prop
  | none : IsExponent 0 []
  | some {mark : Char} {negative : Bool} {sign ds : List Char} (hmark : mark = 'e' ∨ mark = 'E')
      (hsign : IsSign negative sign) (hne : ds ≠ []) (hds : IsDigits ds) :
      IsExponent (if negative then -(digitsValue 0 ds : Int) else digitsValue 0 ds)
        (mark :: (sign ++ ds))

/-- A point and the digits after it, or nothing. -/
inductive IsFraction : (ds text : List Char) → Prop
  | none : IsFraction [] []
  | some {ds : List Char} (hds : IsDigits ds) : IsFraction ds ('.' :: ds)

/-- The text writes the number `(-1)^negative * coefficient * 10^exponent`: a sign, digits on at
least one side of the point, and an exponent. -/
inductive IsLiteral : List Char → (negative : Bool) → (coefficient : Nat) → (exponent : Int) → Prop
  | mk {negative : Bool} {sign whole ds fraction exponent : List Char} {e : Int}
      (hsign : IsSign negative sign) (hwhole : IsDigits whole) (hfraction : IsFraction ds fraction)
      (hne : whole ++ ds ≠ []) (hexponent : IsExponent e exponent) :
      IsLiteral (sign ++ (whole ++ (fraction ++ exponent))) negative (digitsValue 0 (whole ++ ds))
        (e - ds.length)

/-- The text writes the integer `z` as a sign and digits. -/
inductive IsInteger : List Char → Int → Prop
  | mk {negative : Bool} {sign ds : List Char} (hsign : IsSign negative sign) (hne : ds ≠ [])
      (hds : IsDigits ds) :
      IsInteger (sign ++ ds) (if negative then -(digitsValue 0 ds : Int) else digitsValue 0 ds)

theorem IsInteger.isLiteral {z : Int} (h : IsInteger s z) :
    ∃ negative c, IsLiteral s negative c 0 ∧ z = if negative then -(c : Int) else c := by
  obtain ⟨hsign, hne, hds⟩ := h
  have h := IsLiteral.mk hsign hds .none (by simpa using hne) .none
  simp only [List.append_nil, List.length_nil] at h
  exact ⟨_, _, h, rfl⟩

theorem readExponent_eq_some : readExponent s = some e ↔ IsExponent e s := by
  constructor
  · intro h
    cases s with
    | nil =>
      cases h
      exact .none
    | cons mark s =>
      rw [readExponent] at h
      split at h
      · next hmark =>
        obtain ⟨⟨negative, s'⟩, hsign⟩ : ∃ p, takeSign s = p := ⟨_, rfl⟩
        obtain ⟨⟨ds, rest⟩, hdigits⟩ : ∃ p, takeDigits s' = p := ⟨_, rfl⟩
        simp only [hsign, hdigits] at h
        split at h
        · cases h
        · next hsome =>
          cases h
          obtain ⟨sign, hwritten, rfl⟩ := takeSign_eq hsign
          obtain ⟨rfl, hds, -⟩ := takeDigits_eq hdigits
          simp only [Bool.or_eq_true, List.isEmpty_iff, Bool.not_eq_true', not_or,
            Bool.not_eq_false] at hsome
          obtain ⟨hne, rfl⟩ := hsome
          rw [List.append_nil]
          exact .some (by simpa using hmark) hwritten hne hds
      · cases h
  · intro h
    cases h with
    | none => rfl
    | @some mark negative sign ds hmark hsign hne hds =>
      have htake : takeDigits (ds ++ []) = (ds, []) := takeDigits_append hds (by simp)
      rw [List.append_nil] at htake
      rw [readExponent, if_pos (by simpa using hmark), takeSign_append hsign (hds.unsigned hne)]
      simp [htake, hne]

/-- The digits after a point, if there is one, and what follows them. -/
def takeFraction (s : List Char) : List Char × List Char :=
  match s with
  | '.' :: s => takeDigits s
  | s => ([], s)

theorem readDecimal_eq (negative : Bool) (s : List Char) : readDecimal negative s =
    if (takeDigits s).1.isEmpty && (takeFraction (takeDigits s).2).1.isEmpty then none
    else (readExponent (takeFraction (takeDigits s).2).2).map fun e =>
      .finite negative (digitsValue 0 ((takeDigits s).1 ++ (takeFraction (takeDigits s).2).1))
        (e - (takeFraction (takeDigits s).2).1.length) := rfl

theorem takeFraction_eq (h : takeFraction s = (ds, rest)) :
    ∃ fraction, IsFraction ds fraction ∧ s = fraction ++ rest := by
  rw [takeFraction.eq_def] at h
  split at h
  · obtain ⟨rfl, hds, -⟩ := takeDigits_eq h
    exact ⟨_, .some hds, rfl⟩
  · cases h
    exact ⟨_, .none, rfl⟩

/-- What may follow the digits of a number. -/
def EndsDigits (s : List Char) : Prop := ∀ c ∈ s.head?, c.isDigit = false ∧ c ≠ '.'

theorem IsExponent.endsDigits (h : IsExponent e s) : EndsDigits s := by
  cases h with
  | none => nofun
  | some hmark =>
    rintro c ⟨⟩
    rcases hmark with rfl | rfl <;> exact ⟨by decide, by decide⟩

theorem takeFraction_append {fraction : List Char} (hfraction : IsFraction ds fraction)
    (hrest : EndsDigits rest) : takeFraction (fraction ++ rest) = (ds, rest) := by
  cases hfraction with
  | some hds => exact takeDigits_append hds fun c hc => (hrest c hc).1
  | none =>
    show takeFraction rest = _
    rw [takeFraction]
    rintro s rfl
    exact (hrest '.' rfl).2 rfl

theorem IsFraction.ends {fraction : List Char} (hfraction : IsFraction ds fraction)
    (hrest : EndsDigits rest) : ∀ c ∈ (fraction ++ rest).head?, c.isDigit = false := by
  cases hfraction with
  | some hds =>
    rintro c ⟨⟩
    decide
  | none => exact fun c hc => (hrest c hc).1

theorem readDecimal_eq_some {l : Literal} : readDecimal negative s = some l ↔
    ∃ whole ds fraction exponent e, IsDigits whole ∧ IsFraction ds fraction ∧ whole ++ ds ≠ [] ∧
      IsExponent e exponent ∧ s = whole ++ (fraction ++ exponent) ∧
      l = .finite negative (digitsValue 0 (whole ++ ds)) (e - ds.length) := by
  rw [readDecimal_eq]
  constructor
  · intro h
    obtain ⟨⟨whole, rest⟩, hwhole⟩ : ∃ p, takeDigits s = p := ⟨_, rfl⟩
    obtain ⟨⟨ds, exponent⟩, hfraction⟩ : ∃ p, takeFraction rest = p := ⟨_, rfl⟩
    simp only [hwhole, hfraction] at h
    split at h
    · cases h
    · next hne =>
      obtain ⟨e, he, rfl⟩ := Option.map_eq_some_iff.mp h
      obtain ⟨rfl, hdigits, -⟩ := takeDigits_eq hwhole
      obtain ⟨fraction, hwritten, rfl⟩ := takeFraction_eq hfraction
      exact ⟨whole, ds, fraction, exponent, e, hdigits, hwritten, by simpa using hne,
        readExponent_eq_some.mp he, rfl, rfl⟩
  · rintro ⟨whole, ds, fraction, exponent, e, hwhole, hfraction, hne, hexponent, rfl, rfl⟩
    rw [takeDigits_append hwhole (hfraction.ends hexponent.endsDigits)]
    simp only [takeFraction_append hfraction hexponent.endsDigits]
    rw [if_neg (by simpa using hne), readExponent_eq_some.mpr hexponent]
    rfl

/-- A number without its sign begins with a digit or the point. -/
theorem exists_head_number {whole fraction : List Char} (hwhole : IsDigits whole)
    (hfraction : IsFraction ds fraction) (hne : whole ++ ds ≠ []) (exponent : List Char) :
    ∃ c rest, whole ++ (fraction ++ exponent) = c :: rest ∧ (c.isDigit = true ∨ c = '.') := by
  cases whole with
  | cons c whole => exact ⟨c, _, rfl, .inl (hwhole c List.mem_cons_self)⟩
  | nil =>
    cases hfraction with
    | none => simp at hne
    | some hds => exact ⟨'.', _, rfl, .inr rfl⟩

theorem toLower_of_isDigit {c : Char} (h : c.isDigit = true) : c.toLower = c := by
  simp only [Char.isDigit, Bool.and_eq_true, decide_eq_true_eq] at h
  have hupper : ¬ (c.val ≥ 'A'.val ∧ c.val ≤ 'Z'.val) := by
    intro hletter
    have hdigit := UInt32.le_iff_toNat_le.mp h.2
    have hletter := UInt32.le_iff_toNat_le.mp hletter.1
    have hless : '9'.val.toNat < 'A'.val.toNat := by decide
    omega
  rw [Char.toLower, dif_neg hupper]

/-- No number is one of the words for infinity and for no number. -/
theorem lower_ne_word {c first : Char} (h : c.isDigit = true ∨ c = '.')
    (hfirst : first = 'n' ∨ first = 'i') (rest word : List Char) :
    (c :: rest).map Char.toLower ≠ first :: word := by
  have hlower : c.toLower = c := by
    rcases h with hdigit | rfl
    · exact toLower_of_isDigit hdigit
    · rfl
  intro heq
  obtain rfl : c = first := hlower.symm.trans (List.cons.inj heq).1
  rcases hfirst with rfl | rfl <;> exact absurd h (by decide)

/-- The reader takes the finite literals as what they write. -/
theorem read?_eq_some : Literal.read? s = some (.finite negative c e) ↔
    IsLiteral s negative c e := by
  constructor
  · intro h
    obtain ⟨⟨negative', rest⟩, hsign⟩ : ∃ p, takeSign s = p := ⟨_, rfl⟩
    simp only [Literal.read?, hsign] at h
    split at h
    · cases h
    · split at h
      · cases h
      · obtain ⟨sign, hwritten, rfl⟩ := takeSign_eq hsign
        obtain ⟨whole, ds, fraction, exponent, e', hwhole, hfraction, hne, hexponent, rfl, hl⟩ :=
          readDecimal_eq_some.mp h
        cases hl
        exact .mk hwritten hwhole hfraction hne hexponent
  · intro h
    cases h with
    | @mk negative sign whole ds fraction exponent e hsign hwhole hfraction hne hexponent =>
      obtain ⟨first, rest, hnumber, hfirst⟩ :=
        exists_head_number hwhole hfraction hne exponent
      have hread : readDecimal negative (whole ++ (fraction ++ exponent)) = _ :=
        readDecimal_eq_some.mpr ⟨_, _, _, _, _, hwhole, hfraction, hne, hexponent, rfl, rfl⟩
      rw [hnumber] at hread ⊢
      have hnan := lower_ne_word hfirst (.inl rfl) rest ['a', 'n']
      have hinf := lower_ne_word hfirst (.inr rfl) rest ['n', 'f']
      have hinfinity := lower_ne_word hfirst (.inr rfl) rest
        ['n', 'f', 'i', 'n', 'i', 't', 'y']
      simp only [Literal.read?, takeSign_append hsign (unsigned_cons hfirst)]
      rw [if_neg hnan, if_neg (by simpa using And.intro hinf hinfinity)]
      exact hread

theorem readInt?_eq_some {z : Int} : readInt? s = some z ↔ IsInteger s z := by
  constructor
  · intro h
    obtain ⟨⟨negative, ds⟩, hsign⟩ : ∃ p, takeSign s = p := ⟨_, rfl⟩
    simp only [readInt?, hsign] at h
    split at h
    · cases h
    · next hsome =>
      cases h
      obtain ⟨sign, hwritten, rfl⟩ := takeSign_eq hsign
      simp only [Bool.or_eq_true, List.isEmpty_iff, Bool.not_eq_true', not_or,
        Bool.not_eq_false, List.all_eq_true] at hsome
      exact .mk hwritten hsome.1 hsome.2
  · rintro ⟨hsign, hne, hds⟩
    rw [readInt?, takeSign_append hsign (hds.unsigned hne)]
    simp only
    rw [if_neg (by simpa [hne, IsDigits] using hds)]

/-! ### 64-bit integers -/

theorem int64?_toInt (n : Int64) : int64? n.toInt = some n := by
  rw [int64?, if_pos ⟨Int64.minValue_le_toInt n, Int64.toInt_le n⟩, Int64.ofInt_toInt]

theorem int64?_eq_some {z : Int} {n : Int64} : int64? z = some n ↔ z = n.toInt := by
  constructor
  · intro h
    rw [int64?] at h
    split at h
    · next hbounds =>
      cases h
      exact (Int64.toInt_ofInt_of_le hbounds.1 (Int.lt_of_le_of_lt hbounds.2 (by decide))).symm
    · cases h
  · rintro rfl
    exact int64?_toInt n

theorem readInt64?_eq_some {n : Int64} : readInt64? s = some n ↔ IsInteger s n.toInt := by
  rw [readInt64?, Option.bind_eq_some_iff]
  simp only [int64?_eq_some, readInt?_eq_some]
  exact ⟨fun ⟨z, hz, heq⟩ => heq ▸ hz, fun h => ⟨_, h, rfl⟩⟩

theorem readInt64?_eq_none : readInt64? s = none ↔ ∀ n : Int64, ¬ IsInteger s n.toInt := by
  rw [Option.eq_none_iff_forall_ne_some]
  exact forall_congr' fun n => not_congr readInt64?_eq_some

theorem toInt_clampInt64 (z : Int) :
    (clampInt64 z).toInt = max Int64.minValue.toInt (min z Int64.maxValue.toInt) := by
  have hmin : Int64.minValue.toInt = -2 ^ 63 := by decide
  have hmax : Int64.maxValue.toInt = 2 ^ 63 - 1 := by decide
  exact Int64.toInt_ofInt_of_le (by omega) (by omega)

theorem clampInt64_eq {z : Int} {n : Int64} (h : z.natAbs < 2 ^ 53) : clampInt64 z = n ↔ z = n.toInt := by
  have hmin : Int64.minValue.toInt = -2 ^ 63 := by decide
  have hmax : Int64.maxValue.toInt = 2 ^ 63 - 1 := by decide
  rw [← Int64.toInt_inj, toInt_clampInt64]
  omega

end InstrumentControl.Decimal
