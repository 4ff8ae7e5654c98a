import InstrumentControl.Proofs.Template.Sites
import InstrumentControl.Registry.Basic

/-! What holds of a table.  `Indexed` ties a list to the index of its names, `Entry.WellFormed` and
`FunctionEntry.WellFormed` say what one entry is like, and `Registry.WellFormed` puts them together
for a table in which parameters and functions share their names.  A table takes an entry only if it
is well formed and its name is new. -/

namespace InstrumentControl

/-- The index gives the places of the names in the table, and nothing else. -/
def Indexed {α : Type} (name : α → String) (table : List α) (index : Keyed Nat) : Prop :=
  ∀ key place, index.get? key = some place ↔ ∃ a, table[place]? = some a ∧ name a = key

namespace Indexed

variable {α : Type} {name : α → String} {table : List α} {index : Keyed Nat}

theorem nil : Indexed name [] [] := fun key place => by simp [Keyed.get?]

theorem find (h : Indexed name table index) {a : α} {key : String} :
    ((index.get? key).bind fun place => table[place]?) = some a ↔ a ∈ table ∧ name a = key := by
  constructor
  · intro hfound
    obtain ⟨place, hplace, ha⟩ := Option.bind_eq_some_iff.mp hfound
    obtain ⟨b, hb, hname⟩ := (h key place).mp hplace
    rw [ha] at hb
    cases hb
    exact ⟨List.mem_of_getElem? ha, hname⟩
  · rintro ⟨hmem, hname⟩
    obtain ⟨place, hplace⟩ := List.getElem?_of_mem hmem
    exact Option.bind_eq_some_iff.mpr ⟨place, (h key place).mpr ⟨a, hplace, hname⟩, hplace⟩

theorem contains_iff (h : Indexed name table index) {key : String} :
    index.contains key = true ↔ key ∈ table.map name := by
  rw [Keyed.contains, Option.isSome_iff_exists, List.mem_map]
  constructor
  · rintro ⟨place, hplace⟩
    obtain ⟨a, ha, hname⟩ := (h key place).mp hplace
    exact ⟨a, List.mem_of_getElem? ha, hname⟩
  · rintro ⟨a, hmem, hname⟩
    obtain ⟨place, hplace⟩ := List.getElem?_of_mem hmem
    exact ⟨place, (h key place).mpr ⟨a, hplace, hname⟩⟩

/-- An entry with a new name goes to the end of the table. -/
theorem push (h : Indexed name table index) {a : α} (hnew : index.contains (name a) = false) :
    Indexed name (table ++ [a]) (index.insert (name a) table.length) := by
  intro key place
  have hnone : index.get? (name a) = none := by simpa [Keyed.contains] using hnew
  have hlast : place = table.length → (table ++ [a])[place]? = some a := by
    rintro rfl
    simp
  by_cases hkey : key = name a
  · subst hkey
    rw [Keyed.get?_insert_self, Option.some.injEq]
    constructor
    · rintro rfl
      exact ⟨a, hlast rfl, rfl⟩
    · rintro ⟨b, hb, hname⟩
      rcases Nat.lt_trichotomy place table.length with hlt | rfl | hgt
      · rw [List.getElem?_append_left hlt] at hb
        have := (h _ _).mpr ⟨b, hb, hname⟩
        rw [hnone] at this
        cases this
      · rfl
      · rw [List.getElem?_eq_none (by simp; omega)] at hb
        cases hb
  · rw [Keyed.get?_insert_ne hkey, h key place]
    refine exists_congr fun b => and_congr_left fun hname => ?_
    rcases Nat.lt_trichotomy place table.length with hlt | rfl | hgt
    · rw [List.getElem?_append_left hlt]
    · rw [hlast rfl, List.getElem?_eq_none (Nat.le_refl _)]
      refine ⟨fun h => absurd h (by simp), fun h => ?_⟩
      cases h
      exact absurd hname.symm hkey
    · rw [List.getElem?_eq_none (by omega), List.getElem?_eq_none (by simp; omega)]

end Indexed

/-- A parameter that can be read or set, with at most one way of conversion, and with a template
without foreign sites exactly if it is set by one. -/
structure Entry.WellFormed (e : Entry) : Prop where
  access : e.parameter.isReadable = true ∨ e.parameter.isSettable = true
  conversion : e.parameter.mapping.isSome = true →
    e.parameter.domain = none ∧ e.parameter.format = none
  mapping : ∀ m, e.parameter.mapping = some m → m.pairs ≠ []
  template : ∀ t, e.template = some t ↔
    ∃ source, e.parameter.setter = .template source ∧ Template.parse source = .ok t
  compiled : e.template.isSome = true ↔ ∃ source, e.parameter.setter = .template source
  sites : ∀ t, e.template = some t → ∀ key ∈ t.keys, key = Template.valueKey

/-- A function whose template has exactly the sites of its arguments, and has them in the order of
the arguments when they are sorted by number. -/
structure FunctionEntry.WellFormed (f : FunctionEntry) : Prop where
  template : Template.parse f.function.template = .ok f.template
  sites : ∀ key, key ∈ f.template.keys ↔
    ∃ i < f.function.arguments.length, key = Decimal.decimalText i
  ordered : Template.sortByNumber f.template.keys = argumentKeys f.function.arguments.length

/-- The sites of a template are in order if they are those of arguments that a word counts. -/
theorem FunctionEntry.wellFormed_of_sites {f : FunctionEntry}
    (hfew : f.function.arguments.length ≤ Template.greatestWord + 1)
    (htemplate : Template.parse f.function.template = .ok f.template)
    (hsites : ∀ key, key ∈ f.template.keys ↔
      ∃ i < f.function.arguments.length, key = Decimal.decimalText i) : f.WellFormed :=
  ⟨htemplate, hsites,
    Template.sortByNumber_eq (Template.nodup_keys_of_parse htemplate) hfew hsites⟩

namespace Registry

structure WellFormed (r : Registry) : Prop where
  names : (r.names ++ r.functionNames).Nodup
  index : Indexed (·.parameter.name) r.entries r.index
  functionIndex : Indexed (·.function.name) r.functions r.functionIndex
  entries : ∀ e ∈ r.entries, e.WellFormed
  functions : ∀ f ∈ r.functions, f.WellFormed

theorem wellFormed_empty : WellFormed {} where
  names := List.nodup_nil
  index := .nil
  functionIndex := .nil
  entries _ h := nomatch h
  functions _ h := nomatch h

/-! ### What a table takes -/

theorem compile_eq_ok {p : Parameter} {template : Option Template}
    (h : compile p = .ok template) :
    (∃ source t, p.setter = .template source ∧ Template.parse source = .ok t ∧
      (∀ key ∈ t.keys, key = Template.valueKey) ∧ template = some t) ∨
    (∀ source, p.setter ≠ .template source) ∧ template = none := by
  unfold compile at h
  split at h
  · next source hsetter =>
    split at h
    · cases h
    · next t hparse =>
      split at h
      · cases h
      · next hfind =>
        cases h
        have hsites : ∀ key ∈ t.keys, key = Template.valueKey := by
          simpa [List.find?_eq_none] using hfind
        exact .inl ⟨source, t, hsetter, hparse, hsites, rfl⟩
  · next hsetter =>
    cases h
    exact .inr ⟨hsetter, rfl⟩

theorem compiled_wellFormed {p : Parameter} {template : Option Template}
    (haccess : p.isReadable = true ∨ p.isSettable = true)
    (hmapping : ∀ m, p.mapping = some m → m.pairs ≠ [])
    (hconversion : p.mapping.isSome = true → p.domain = none ∧ p.format = none)
    (h : compile p = .ok template) : Entry.WellFormed ⟨p, template⟩ where
  access := haccess
  conversion := hconversion
  mapping := hmapping
  template t := by
    rcases compile_eq_ok h with ⟨source, t', hsetter, hparse, -, rfl⟩ | ⟨hsetter, rfl⟩
    · simp [hsetter, hparse, eq_comm]
    · simp [hsetter]
  compiled := by
    rcases compile_eq_ok h with ⟨source, t', hsetter, -, -, rfl⟩ | ⟨hsetter, rfl⟩
    · simp [hsetter]
    · simp [hsetter]
  sites t ht := by
    rcases compile_eq_ok h with ⟨source, t', -, -, hsites, rfl⟩ | ⟨-, rfl⟩
    · cases ht
      exact hsites
    · cases ht

theorem hasEmptyMapping_eq_false {p : Parameter} :
    p.hasEmptyMapping = false ↔ ∀ m, p.mapping = some m → m.pairs ≠ [] := by
  cases hm : p.mapping <;> simp [Parameter.hasEmptyMapping, Mapping.isEmpty, hm]

theorem conversion_iff {p : Parameter} :
    (p.mapping.isSome && (p.domain.isSome || p.format.isSome)) = false ↔
      (p.mapping.isSome = true → p.domain = none ∧ p.format = none) := by
  cases p.mapping <;> simp

theorem wellFormed_of_entryFor {r : Registry} {p : Parameter} {e : Entry}
    (h : r.entryFor p = .ok e) :
    r.isTaken p.name = false ∧ e.parameter = p ∧ e.WellFormed := by
  simp only [entryFor, bind, Except.bind, pure, Except.pure, throw, throwThe,
    MonadExceptOf.throw] at h
  split at h
  · cases h
  next hfree =>
  split at h
  · cases h
  next haccess =>
  split at h
  · cases h
  next hmapping =>
  split at h
  · cases h
  next hconversion =>
  split at h
  · cases h
  next template hcompile =>
  cases h
  have haccess : p.isReadable = true ∨ p.isSettable = true := by
    simpa [Decidable.or_iff_not_imp_left] using haccess
  refine ⟨by simpa using hfree, rfl, compiled_wellFormed haccess ?_ ?_ hcompile⟩
  · exact hasEmptyMapping_eq_false.mp (by simpa using hmapping)
  · exact conversion_iff.mp (Bool.eq_false_of_not_eq_true hconversion)

theorem compile_of_wellFormed {e : Entry} (h : e.WellFormed) :
    compile e.parameter = .ok e.template := by
  unfold compile
  split
  · next source hsetter =>
    obtain ⟨t, ht⟩ := Option.isSome_iff_exists.mp (h.compiled.mpr ⟨source, hsetter⟩)
    obtain ⟨source', hsetter', hparse⟩ := (h.template t).mp ht
    rw [hsetter, Setter.template.injEq] at hsetter'
    subst hsetter'
    have hfind : t.keys.find? (· ≠ Template.valueKey) = none := by
      simpa [List.find?_eq_none] using h.sites t ht
    simp only [hparse, hfind, ht]
  · next hsetter =>
    cases ht : e.template with
    | none => rfl
    | some t =>
      obtain ⟨source, hsource, -⟩ := (h.template t).mp ht
      exact absurd hsource (hsetter source)

/-- A table takes the well-formed entries of new names. -/
theorem entryFor_eq_ok {r : Registry} {p : Parameter} {e : Entry} :
    r.entryFor p = .ok e ↔ r.isTaken p.name = false ∧ e.parameter = p ∧ e.WellFormed := by
  refine ⟨wellFormed_of_entryFor, ?_⟩
  rintro ⟨hfree, rfl, h⟩
  have haccess : (!e.parameter.isReadable && !e.parameter.isSettable) = false := by
    rcases h.access with hread | hset
    · simp [hread]
    · simp [hset]
  simp only [entryFor, hfree, haccess, hasEmptyMapping_eq_false.mpr h.mapping,
    conversion_iff.mpr h.conversion, compile_of_wellFormed h]
  rfl

/-- A table takes the well-formed functions of new names. -/
theorem functionEntryFor_eq_ok {r : Registry} {f : Function} {e : FunctionEntry} :
    r.functionEntryFor f = .ok e ↔ r.isTaken f.name = false ∧ e.function = f ∧ e.WellFormed := by
  constructor
  · intro h
    simp only [functionEntryFor, bind, Except.bind, pure, Except.pure, throw, throwThe,
      MonadExceptOf.throw] at h
    split at h
    · cases h
    next hfree =>
    split at h
    · cases h
    next t hparse =>
    split at h
    · cases h
    next hsites =>
    cases h
    have hordered : Template.sortByNumber t.keys = argumentKeys f.arguments.length := by
      simpa [hasArgumentSites] using hsites
    exact ⟨by simpa using hfree, rfl, hparse,
      fun key => Template.mem_of_sortByNumber_eq hordered, hordered⟩
  · rintro ⟨hfree, rfl, h⟩
    have hsites : hasArgumentSites e.template e.function.arguments.length = true :=
      beq_iff_eq.mpr h.ordered
    simp only [functionEntryFor, hfree, h.template, hsites]
    rfl

/-! ### What stays well formed -/

theorem isTaken_eq_false {r : Registry} {name : String} : r.isTaken name = false ↔
    r.index.contains name = false ∧ r.functionIndex.contains name = false := by
  simp [isTaken]

namespace WellFormed

variable {r : Registry}

theorem isTaken_iff (h : r.WellFormed) {name : String} :
    r.isTaken name = true ↔ name ∈ r.names ++ r.functionNames := by
  rw [isTaken, Bool.or_eq_true, h.index.contains_iff, h.functionIndex.contains_iff,
    List.mem_append]
  rfl

theorem push (h : r.WellFormed) {e : Entry} (he : e.WellFormed)
    (hfree : r.isTaken e.parameter.name = false) : (r.push e).WellFormed where
  names := by
    have hnew : e.parameter.name ∉ r.names ++ r.functionNames := by
      rw [← h.isTaken_iff, hfree]
      exact Bool.false_ne_true
    have hperm : (r.push e).names ++ (r.push e).functionNames =
        r.names ++ e.parameter.name :: r.functionNames := by
      simp [Registry.push, Registry.names, functionNames]
    rw [hperm]
    exact List.nodup_middle.mpr (List.nodup_cons.mpr ⟨hnew, h.names⟩)
  index := h.index.push (isTaken_eq_false.mp hfree).1
  functionIndex := h.functionIndex
  entries e' he' := by
    rcases List.mem_append.mp he' with hold | hlast
    · exact h.entries e' hold
    · exact List.mem_singleton.mp hlast ▸ he
  functions := h.functions

theorem pushFunction (h : r.WellFormed) {f : FunctionEntry} (hf : f.WellFormed)
    (hfree : r.isTaken f.function.name = false) : (r.pushFunction f).WellFormed where
  names := by
    have hnew : f.function.name ∉ r.names ++ r.functionNames := by
      rw [← h.isTaken_iff, hfree]
      exact Bool.false_ne_true
    have hlast : (r.pushFunction f).names ++ (r.pushFunction f).functionNames =
        (r.names ++ r.functionNames) ++ [f.function.name] := by
      simp [Registry.pushFunction, Registry.names, functionNames]
    rw [hlast, ← List.concat_eq_append]
    exact h.names.concat hnew
  index := h.index
  functionIndex := h.functionIndex.push (isTaken_eq_false.mp hfree).2
  entries := h.entries
  functions f' hf' := by
    rcases List.mem_append.mp hf' with hold | hlast
    · exact h.functions f' hold
    · exact List.mem_singleton.mp hlast ▸ hf

/-- A name leads to the one parameter that has it. -/
theorem entry?_eq_some (h : r.WellFormed) {name : String} {e : Entry} :
    r.entry? name = some e ↔ e ∈ r.entries ∧ e.parameter.name = name :=
  h.index.find

theorem entry?_eq_none (h : r.WellFormed) {name : String} :
    r.entry? name = none ↔ name ∉ r.names := by
  rw [Option.eq_none_iff_forall_ne_some, Registry.names, List.mem_map]
  simp only [ne_eq, h.entry?_eq_some, not_and, not_exists]

/-- A name leads to the one function that has it. -/
theorem functionEntry?_eq_some (h : r.WellFormed) {name : String} {f : FunctionEntry} :
    r.functionEntry? name = some f ↔ f ∈ r.functions ∧ f.function.name = name :=
  h.functionIndex.find

end WellFormed

end Registry

end InstrumentControl
