import InstrumentControl.Device.Format
import InstrumentControl.Proofs.Json.Reading

/-! The JSON texts of values and domains.  A value is read back as one of its kind and a domain as
one of its shape, and all that can differ are the reals.  A real that is not finite is not read
back; a finite one comes back if it is written with few digits, and rounded twice otherwise.  A
domain is read back only if no more than 127 lists and tables are nested in its text. -/

namespace InstrumentControl

namespace Value

/-- The value with its real, if it is one, replaced by what `f` gives for it. -/
def mapReal? (f : Float → Option Float) : Value → Option Value
  | float x => (f x).map float
  | v => some v

def reals : Value → List Float
  | float x => [x]
  | _ => []

theorem reread_int (i : Int64) : Json.reread (.int i.toInt) = .int i.toInt :=
  Json.number_int i.le_toInt (Int.lt_trans i.toInt_lt (by decide))

theorem ofData?_reread (v : Value) :
    ofData? (Json.reread v.toData) = v.mapReal? Json.rereadReal? := by
  cases v with
  | bool b => rfl
  | int i =>
    rw [toData, reread_int, ofData?, Decimal.int64?_toInt]
    rfl
  | float x =>
    show ofData? (Json.rereadReal x) = (Json.rereadReal? x).map float
    rw [Json.rereadReal?]
    rcases Json.rereadReal_cases x with ⟨y, hy⟩ | hy | hy <;> rw [hy] <;> rfl
  | text s => rfl

theorem mapReal?_eq_some {f : Float → Option Float} {v : Value} :
    v.mapReal? f = some v ↔ ∀ x ∈ v.reals, f x = some x := by
  cases v with
  | float x => cases hx : f x <;> simp [mapReal?, reals, hx]
  | bool b => simp [mapReal?, reals]
  | int i => simp [mapReal?, reals]
  | text s => simp [mapReal?, reals]

theorem isSome_mapReal? {f : Float → Option Float} {v : Value} :
    (v.mapReal? f).isSome = true ↔ ∀ x ∈ v.reals, (f x).isSome = true := by
  cases v <;> simp [mapReal?, reals]

end Value

namespace Domain

mutual

/-- The domain with every real in it replaced by what `f` gives for it. -/
def mapReals? (f : Float → Option Float) : Domain → Option Domain
  | numbers min max => do return numbers (← f min) (← f max)
  | ints min max => some (ints min max)
  | oneOf choices => (choices.mapM (Value.mapReal? f)).map oneOf
  | bool => some bool
  | anyOf members => (mapAllReals? f members).map anyOf

def mapAllReals? (f : Float → Option Float) : List Domain → Option (List Domain)
  | [] => some []
  | d :: ds => do return (← mapReals? f d) :: (← mapAllReals? f ds)

end

mutual

def reals : Domain → List Float
  | numbers min max => [min, max]
  | ints _ _ | bool => []
  | oneOf choices => choices.flatMap Value.reals
  | anyOf members => realsOfAll members

def realsOfAll : List Domain → List Float
  | [] => []
  | d :: ds => reals d ++ realsOfAll ds

end

theorem range?_pair {α : Type} (bound? : Data → Option α) (min max : Data) :
    range? bound? (.table [("min", min), ("max", max)]) =
      do return (← bound? min, ← bound? max) := by
  rfl

theorem realBound?_rereadReal (x : Float) :
    realBound? (Json.rereadReal x) = Json.rereadReal? x := by
  rw [Json.rereadReal?]
  rcases Json.rereadReal_cases x with ⟨y, hy⟩ | hy | hy <;> rw [hy] <;> rfl

theorem mapM_reread (choices : List Value) :
    (Json.rereadItems (choices.map Value.toData)).mapM Value.ofData? =
      choices.mapM (Value.mapReal? Json.rereadReal?) := by
  induction choices with
  | nil => rfl
  | cons v choices ih =>
    rw [List.map_cons, Json.rereadItems, List.mapM_cons, List.mapM_cons, Value.ofData?_reread, ih]

theorem depth_choices (choices : List Value) :
    Data.depthOfItems (choices.map Value.toData) = 0 := by
  induction choices with
  | nil => rfl
  | cons v choices ih =>
    rw [List.map_cons, Data.depthOfItems, ih]
    cases v <;> rfl

mutual

theorem ofDataWithin?_reread (room : Nat) : ∀ d : Domain,
    ofDataWithin? room (Json.reread d.toData) =
      if d.toData.depth ≤ room then d.mapReals? Json.rereadReal? else none
  | numbers min max => by
    have hdepth : (numbers min max).toData.depth = 2 := rfl
    rw [hdepth]
    show (if room < 2 then none else (range? realBound? (.table [("min", Json.rereadReal min),
      ("max", Json.rereadReal max)])).map fun p => numbers p.1 p.2) = _
    rw [range?_pair, realBound?_rereadReal, realBound?_rereadReal, mapReals?]
    by_cases hroom : room < 2
    · rw [if_pos hroom, if_neg (by omega)]
    · rw [if_neg hroom, if_pos (by omega)]
      cases Json.rereadReal? min <;> cases Json.rereadReal? max <;> rfl
  | ints min max => by
    have hdepth : (ints min max).toData.depth = 2 := rfl
    rw [hdepth]
    show (if room < 2 then none else (range? integerBound?
      (.table [("min", Json.reread (.int min.toInt)), ("max", Json.reread (.int max.toInt))])).map
        fun p => ints p.1 p.2) = _
    rw [range?_pair, Value.reread_int, Value.reread_int, integerBound?, integerBound?,
      Decimal.int64?_toInt, Decimal.int64?_toInt, mapReals?]
    by_cases hroom : room < 2
    · rw [if_pos hroom, if_neg (by omega)]
    · rw [if_neg hroom, if_pos (by omega)]
      rfl
  | oneOf choices => by
    have hdepth : (oneOf choices).toData.depth = 2 := by
      simp [toData, Data.depth, Data.depthOfEntries, depth_choices]
    rw [hdepth]
    show (if room < 2 then none else ((Json.rereadItems (choices.map Value.toData)).mapM
      Value.ofData?).map oneOf) = _
    rw [mapM_reread, mapReals?]
    by_cases hroom : room < 2
    · rw [if_pos hroom, if_neg (by omega)]
    · rw [if_neg hroom, if_pos (by omega)]
  | bool => rfl
  | anyOf members => by
    have hdepth : (anyOf members).toData.depth = Data.depthOfItems (allToData members) + 2 := by
      simp [toData, Data.depth, Data.depthOfEntries]
    rw [hdepth]
    show (if room < 2 then none else (allOfDataWithin? (room - 2)
      (Json.rereadItems (allToData members))).map anyOf) = _
    rw [allOfDataWithin?_reread (room - 2) members, mapReals?]
    by_cases hroom : room < 2
    · rw [if_pos hroom, if_neg (by omega)]
    · rw [if_neg hroom]
      by_cases hmembers : Data.depthOfItems (allToData members) ≤ room - 2
      · rw [if_pos hmembers, if_pos (by omega)]
      · rw [if_neg hmembers, if_neg (by omega)]
        rfl

theorem allOfDataWithin?_reread (room : Nat) : ∀ ds : List Domain,
    allOfDataWithin? room (Json.rereadItems (allToData ds)) =
      if Data.depthOfItems (allToData ds) ≤ room then mapAllReals? Json.rereadReal? ds else none
  | [] => rfl
  | d :: ds => by
    have hdepth : Data.depthOfItems (allToData (d :: ds)) =
        max d.toData.depth (Data.depthOfItems (allToData ds)) := rfl
    rw [allToData, Json.rereadItems, allOfDataWithin?, ofDataWithin?_reread room d,
      allOfDataWithin?_reread room ds, ← allToData, hdepth, mapAllReals?]
    by_cases hd : d.toData.depth ≤ room
    · by_cases hds : Data.depthOfItems (allToData ds) ≤ room
      · rw [if_pos hd, if_pos hds, if_pos (by omega)]
      · rw [if_pos hd, if_neg hds, if_neg (by omega)]
        cases mapReals? Json.rereadReal? d <;> rfl
    · have hmax : ¬ max d.toData.depth (Data.depthOfItems (allToData ds)) ≤ room := by omega
      rw [if_neg hd, if_neg hmax]
      rfl

end

variable {f : Float → Option Float}

theorem mapM_mapReal?_eq_some {choices : List Value} :
    choices.mapM (Value.mapReal? f) = some choices ↔
      ∀ x ∈ choices.flatMap Value.reals, f x = some x := by
  induction choices with
  | nil => simp
  | cons v choices ih =>
    rw [List.flatMap_cons, List.forall_mem_append, ← ih, ← Value.mapReal?_eq_some, List.mapM_cons]
    cases v.mapReal? f <;> cases choices.mapM (Value.mapReal? f) <;> simp

mutual

/-- Replacing changes nothing if it changes none of the reals. -/
theorem mapReals?_eq_some : ∀ d : Domain, d.mapReals? f = some d ↔ ∀ x ∈ d.reals, f x = some x
  | numbers min max => by
    rw [mapReals?, reals]
    cases hmin : f min <;> cases hmax : f max <;> simp [hmin, hmax]
  | ints min max => by simp [mapReals?, reals]
  | oneOf choices => by
    rw [mapReals?, reals, ← mapM_mapReal?_eq_some]
    exact (Option.map_injective fun _ _ => oneOf.inj).eq_iff' rfl
  | bool => by simp [mapReals?, reals]
  | anyOf members => by
    rw [mapReals?, reals, ← mapAllReals?_eq_some members]
    exact (Option.map_injective fun _ _ => anyOf.inj).eq_iff' rfl

theorem mapAllReals?_eq_some : ∀ ds : List Domain,
    mapAllReals? f ds = some ds ↔ ∀ x ∈ realsOfAll ds, f x = some x
  | [] => by simp [mapAllReals?, realsOfAll]
  | d :: ds => by
    rw [realsOfAll, List.forall_mem_append, ← mapReals?_eq_some d, ← mapAllReals?_eq_some ds,
      mapAllReals?]
    cases d.mapReals? f <;> cases mapAllReals? f ds <;> simp

end

theorem isSome_mapM_mapReal? {choices : List Value} :
    (choices.mapM (Value.mapReal? f)).isSome = true ↔
      ∀ x ∈ choices.flatMap Value.reals, (f x).isSome = true := by
  induction choices with
  | nil => simp
  | cons v choices ih =>
    rw [List.flatMap_cons, List.forall_mem_append, ← ih, ← Value.isSome_mapReal?, List.mapM_cons]
    cases v.mapReal? f <;> cases choices.mapM (Value.mapReal? f) <;> simp

mutual

theorem isSome_mapReals? : ∀ d : Domain,
    (d.mapReals? f).isSome = true ↔ ∀ x ∈ d.reals, (f x).isSome = true
  | numbers min max => by
    rw [mapReals?, reals]
    cases hmin : f min <;> cases hmax : f max <;> simp [hmin, hmax]
  | ints min max => by simp [mapReals?, reals]
  | oneOf choices => by rw [mapReals?, reals, Option.isSome_map, isSome_mapM_mapReal?]
  | bool => by simp [mapReals?, reals]
  | anyOf members => by rw [mapReals?, reals, Option.isSome_map, isSome_mapAllReals? members]

theorem isSome_mapAllReals? : ∀ ds : List Domain,
    (mapAllReals? f ds).isSome = true ↔ ∀ x ∈ realsOfAll ds, (f x).isSome = true
  | [] => by simp [mapAllReals?, realsOfAll]
  | d :: ds => by
    rw [realsOfAll, List.forall_mem_append, ← isSome_mapReals? d, ← isSome_mapAllReals? ds,
      mapAllReals?]
    cases d.mapReals? f <;> cases mapAllReals? f ds <;> simp

end

end Domain

/-! ### Reading back -/

def Value.readBack (v : Value) : Option Value :=
  (Json.read? (Json.compact v.toData)).bind Value.ofData?

def Domain.readBack (d : Domain) : Option Domain :=
  (Json.read? (Json.compact d.toData)).bind Domain.ofData?

theorem Value.readBack_eq (v : Value) : v.readBack = v.mapReal? Json.rereadReal? := by
  rw [readBack, Json.read?_compact, Option.bind_some, ofData?_reread]

theorem Domain.readBack_eq (d : Domain) : d.readBack =
    if d.toData.depth ≤ nesting then d.mapReals? Json.rereadReal? else none := by
  rw [readBack, Json.read?_compact, Option.bind_some, ofData?, ofDataWithin?_reread]

/-- A value is read back as one of its kind exactly if it is not a real that is not finite, and a
domain as one of its shape exactly if all its reals are finite and its text is not nested too deep.
Only reals can differ, and those with few digits do not. -/
theorem json_texts_differ_in_reals :
    (∀ v : Value, v.readBack = v.mapReal? Json.rereadReal? ∧
      (v.readBack.isSome = true ↔ ∀ x ∈ v.reals, Decimal.isFinite x = true) ∧
      (v.readBack = some v ↔ ∀ x ∈ v.reals, Json.rereadReal? x = some x)) ∧
    (∀ d : Domain,
      (d.readBack = if d.toData.depth ≤ Domain.nesting then d.mapReals? Json.rereadReal? else none) ∧
      (d.readBack.isSome = true ↔ d.toData.depth ≤ Domain.nesting ∧
        ∀ x ∈ d.reals, Decimal.isFinite x = true) ∧
      (d.readBack = some d ↔ d.toData.depth ≤ Domain.nesting ∧
        ∀ x ∈ d.reals, Json.rereadReal? x = some x)) ∧
    ∀ x, Json.hasExactParts x = true → Json.rereadReal? x = some x := by
  refine ⟨fun v => ⟨v.readBack_eq, ?_, ?_⟩, fun d => ⟨d.readBack_eq, ?_, ?_⟩,
    fun x => Json.rereadReal?_of_hasExactParts⟩
  · simp only [v.readBack_eq, Value.isSome_mapReal?, Json.isSome_rereadReal?]
  · rw [v.readBack_eq, Value.mapReal?_eq_some]
  · by_cases hdepth : d.toData.depth ≤ Domain.nesting
    · rw [d.readBack_eq, if_pos hdepth, Domain.isSome_mapReals?]
      simp [hdepth, Json.isSome_rereadReal?]
    · simp [d.readBack_eq, hdepth]
  · by_cases hdepth : d.toData.depth ≤ Domain.nesting
    · rw [d.readBack_eq, if_pos hdepth, Domain.mapReals?_eq_some]
      simp [hdepth]
    · simp [d.readBack_eq, hdepth]

theorem rereadReal?_rounded_twice :
    Json.rereadReal? (Decimal.ofDecimal false 12345678912345679 (-8)) =
      some (Decimal.ofDecimal false 1234567891234568 (-7)) := by
  have hdecode : Decimal.decode (Decimal.ofDecimal false 12345678912345679 (-8)) =
      .finite ⟨false, 8285044871162741, -26⟩ := by decide +kernel
  have hdigits : (Json.digitsOf 8285044871162741 (-26)).written = ⟨12345678912345679, -8⟩ := by
    decide +kernel
  have hscale : Json.scale 12345678912345679 (-8) =
      some (Decimal.ofDecimal false 1234567891234568 (-7)) := by decide +kernel
  simp [Json.rereadReal?, Json.rereadReal, hdecode, hdigits, Json.real?, hscale]

/-- The truth values, within `n` domains of one member. -/
def Domain.nested : Nat → Domain
  | 0 => .bool
  | n + 1 => .anyOf [nested n]

theorem Domain.depth_nested (n : Nat) : (nested n).toData.depth = 2 * n := by
  induction n with
  | zero => rfl
  | succ n ih =>
    simp only [nested, toData, allToData, Data.depth, Data.depthOfEntries, Data.depthOfItems, ih]
    omega

/-- A range without bounds is not read back, nor are 64 domains within each other, and
`123456789.12345679` is read as another real. -/
theorem json_texts_lose_content :
    (Domain.numbers (Decimal.infinity true) (Decimal.infinity false)).readBack = none ∧
      (Domain.nested 64).readBack = none ∧
      (Value.float (Decimal.infinity false)).readBack = none ∧
      (Value.float (Decimal.ofDecimal false 12345678912345679 (-8))).readBack =
        some (.float (Decimal.ofDecimal false 1234567891234568 (-7))) ∧
      Decimal.ofDecimal false 1234567891234568 (-7) ≠
        Decimal.ofDecimal false 12345678912345679 (-8) := by
  have hinfinite (negative : Bool) : Json.rereadReal? (Decimal.infinity negative) = none :=
    Json.rereadReal?_of_not_finite (by cases negative <;> decide +kernel)
  refine ⟨?_, ?_, ?_, ?_, by decide +kernel⟩
  · rw [Domain.readBack_eq, Domain.mapReals?, hinfinite]
    exact ite_self _
  · rw [Domain.readBack_eq, Domain.depth_nested]
    rfl
  · rw [Value.readBack_eq, Value.mapReal?, hinfinite]
    rfl
  · rw [Value.readBack_eq, Value.mapReal?, rereadReal?_rounded_twice]
    rfl

end InstrumentControl
