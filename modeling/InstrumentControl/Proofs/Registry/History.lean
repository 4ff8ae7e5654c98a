import InstrumentControl.Proofs.Registry.WellFormed

/-! Tables after any calls that register parameters and functions, refused ones among them.  A
refused call leaves the table, or what it has entered up to the refusal; every call only adds at
the ends.  So every table that is built is well formed. -/

namespace InstrumentControl

/-- A call that registers something. -/
inductive Registration where
  | parameter (p : Parameter)
  | parameters (ps : List Parameter)
  | function (f : Function)

def Registration.building : Registration → Registry.Building Unit
  | parameter p => Registry.enter p
  | parameters ps => Registry.enterAll ps
  | function f => Registry.enterFunction f

namespace Registry

/-- The table after the calls, whether they are refused or not. -/
def after (r : Registry) : List Registration → Registry
  | [] => r
  | call :: calls => after (r.perform call.building).1 calls

theorem after_append (r : Registry) (calls more : List Registration) :
    r.after (calls ++ more) = (r.after calls).after more := by
  induction calls generalizing r with
  | nil => rfl
  | cons call calls ih => exact ih _

/-! ### One call -/

/-- A declaration that passes the check is put into the table. -/
theorem perform_checked_eq_ok {α : Type} {r r' : Registry} {found : Except RegistrationError α}
    {put : α → Registry → Registry} :
    r.perform (liftM found >>= fun e => modify (put e)) = (r', .ok ()) ↔
      ∃ e, found = .ok e ∧ r' = put e r := by
  cases found with
  | error cause =>
    constructor
    · intro h
      cases h
    · rintro ⟨e, he, -⟩
      cases he
  | ok e =>
    constructor
    · intro h
      cases h
      exact ⟨e, rfl, rfl⟩
    · rintro ⟨e', he, rfl⟩
      cases he
      rfl

theorem perform_checked_eq_error {α : Type} {r r' : Registry} {found : Except RegistrationError α}
    {put : α → Registry → Registry} {cause : RegistrationError} :
    r.perform (liftM found >>= fun e => modify (put e)) = (r', .error cause) ↔
      r' = r ∧ found = .error cause := by
  cases found with
  | error cause' =>
    constructor
    · intro h
      cases h
      exact ⟨rfl, rfl⟩
    · rintro ⟨rfl, hcause⟩
      cases hcause
      rfl
  | ok e =>
    constructor
    · intro h
      cases h
    · rintro ⟨-, hcause⟩
      cases hcause

section

variable {r r' : Registry} {p : Parameter} {f : Function} {cause : RegistrationError}

theorem enter_eq_ok : r.perform (enter p) = (r', .ok ()) ↔
    ∃ e, r.entryFor p = .ok e ∧ r' = r.push e := perform_checked_eq_ok

theorem enter_eq_error : r.perform (enter p) = (r', .error cause) ↔
    r' = r ∧ r.entryFor p = .error cause := perform_checked_eq_error

theorem enterFunction_eq_ok : r.perform (enterFunction f) = (r', .ok ()) ↔
    ∃ e, r.functionEntryFor f = .ok e ∧ r' = r.pushFunction e := perform_checked_eq_ok

theorem enterFunction_eq_error : r.perform (enterFunction f) = (r', .error cause) ↔
    r' = r ∧ r.functionEntryFor f = .error cause := perform_checked_eq_error

end

theorem perform_then (r : Registry) (first second : Building Unit) :
    r.perform (first >>= fun _ => second) =
      match r.perform first with
      | (r, .ok _) => r.perform second
      | (r, .error cause) => (r, .error cause) := by
  simp only [perform, ExceptT.run_bind, StateT.run_bind]
  cases hfirst : StateT.run (ExceptT.run first) r with
  | mk outcome reached => cases outcome <;> rfl

/-- `later` has everything that `r` has, in the same places, and is well formed if `r` is. -/
structure Grows (r later : Registry) : Prop where
  wellFormed : r.WellFormed → later.WellFormed
  entries : r.entries <+: later.entries
  functions : r.functions <+: later.functions

theorem Grows.refl (r : Registry) : Grows r r := ⟨id, List.prefix_rfl, List.prefix_rfl⟩

theorem Grows.trans {r1 r2 r3 : Registry} (h1 : Grows r1 r2) (h2 : Grows r2 r3) : Grows r1 r3 :=
  ⟨fun h => h2.wellFormed (h1.wellFormed h), h1.entries.trans h2.entries,
    h1.functions.trans h2.functions⟩

theorem grows_enter (r : Registry) (p : Parameter) : Grows r (r.perform (enter p)).1 := by
  rcases hreached : r.perform (enter p) with ⟨reached, cause | done⟩
  · obtain ⟨rfl, -⟩ := enter_eq_error.mp hreached
    exact .refl reached
  · obtain ⟨e, hfound, rfl⟩ := enter_eq_ok.mp hreached
    obtain ⟨hfree, rfl, he⟩ := entryFor_eq_ok.mp hfound
    exact ⟨fun h => h.push he hfree, List.prefix_append _ _, List.prefix_rfl⟩

theorem grows_enterFunction (r : Registry) (f : Function) :
    Grows r (r.perform (enterFunction f)).1 := by
  rcases hreached : r.perform (enterFunction f) with ⟨reached, cause | done⟩
  · obtain ⟨rfl, -⟩ := enterFunction_eq_error.mp hreached
    exact .refl reached
  · obtain ⟨e, hfound, rfl⟩ := enterFunction_eq_ok.mp hreached
    obtain ⟨hfree, rfl, he⟩ := functionEntryFor_eq_ok.mp hfound
    exact ⟨fun h => h.pushFunction he hfree, List.prefix_rfl, List.prefix_append _ _⟩

theorem perform_forM_cons {α : Type} (r : Registry) (enter : α → Building Unit) (a : α)
    (as : List α) :
    r.perform ((a :: as).forM enter) =
      match r.perform (enter a) with
      | (r, .ok _) => r.perform (as.forM enter)
      | (r, .error cause) => (r, .error cause) :=
  perform_then r (enter a) (as.forM enter)

theorem grows_forM {α : Type} {enter : α → Building Unit}
    (henter : ∀ r a, Grows r (r.perform (enter a)).1) (r : Registry) (as : List α) :
    Grows r (r.perform (as.forM enter)).1 := by
  induction as generalizing r with
  | nil => exact .refl r
  | cons a as ih =>
    have hfirst := henter r a
    rw [perform_forM_cons]
    rcases hreached : r.perform (enter a) with ⟨reached, cause | done⟩
    · rwa [hreached] at hfirst
    · rw [hreached] at hfirst
      exact hfirst.trans (ih reached)

theorem grows_perform (r : Registry) (call : Registration) :
    Grows r (r.perform call.building).1 := by
  cases call with
  | parameter p => exact grows_enter r p
  | parameters ps => exact grows_forM grows_enter r ps
  | function f => exact grows_enterFunction r f

theorem grows_after (r : Registry) (calls : List Registration) : Grows r (r.after calls) := by
  induction calls generalizing r with
  | nil => exact .refl r
  | cons call calls ih => exact (grows_perform r call).trans (ih _)

/-! ### Lists of declarations -/

theorem entries_of_enter {r r' : Registry} {p : Parameter}
    (h : r.perform (enter p) = (r', .ok ())) :
    r'.entries.map Entry.parameter = r.entries.map Entry.parameter ++ [p] ∧
      r'.functions = r.functions := by
  obtain ⟨e, hfound, rfl⟩ := enter_eq_ok.mp h
  obtain ⟨-, rfl, -⟩ := entryFor_eq_ok.mp hfound
  exact ⟨List.map_append, rfl⟩

theorem functions_of_enterFunction {r r' : Registry} {f : Function}
    (h : r.perform (enterFunction f) = (r', .ok ())) :
    r'.functions.map FunctionEntry.function = r.functions.map FunctionEntry.function ++ [f] ∧
      r'.entries = r.entries := by
  obtain ⟨e, hfound, rfl⟩ := enterFunction_eq_ok.mp h
  obtain ⟨-, rfl, -⟩ := functionEntryFor_eq_ok.mp hfound
  exact ⟨List.map_append, rfl⟩

/-- What every accepted declaration adds to a view of the table, the whole list adds. -/
theorem view_of_forM {α β : Type} {enter : α → Building Unit} (view : Registry → List β)
    (added : α → List β)
    (henter : ∀ {r r' a}, r.perform (enter a) = (r', .ok ()) → view r' = view r ++ added a)
    {r r' : Registry} {as : List α} (h : r.perform (as.forM enter) = (r', .ok ())) :
    view r' = view r ++ as.flatMap added := by
  induction as generalizing r with
  | nil =>
    cases h
    exact (List.append_nil _).symm
  | cons a as ih =>
    rw [perform_forM_cons] at h
    rcases hreached : r.perform (enter a) with ⟨reached, cause | done⟩
    · rw [hreached] at h
      cases h
    · rw [hreached] at h
      rw [ih h, henter hreached, List.append_assoc]
      rfl

theorem entries_of_enterAll {r r' : Registry} {ps : List Parameter}
    (h : r.perform (enterAll ps) = (r', .ok ())) :
    r'.entries.map Entry.parameter = r.entries.map Entry.parameter ++ ps ∧
      r'.functions = r.functions := by
  have hentries := view_of_forM (·.entries.map Entry.parameter) (fun p => [p])
    (fun hp => (entries_of_enter hp).1) h
  have hfunctions := view_of_forM (·.functions) (fun _ => [])
    (fun hp => by rw [(entries_of_enter hp).2, List.append_nil]) h
  simp only [List.flatMap_singleton'] at hentries
  simp only [List.flatMap_eq_nil_iff.mpr fun _ _ => rfl, List.append_nil] at hfunctions
  exact ⟨hentries, hfunctions⟩

theorem functions_of_enterFunctions {r r' : Registry} {fs : List Function}
    (h : r.perform (fs.forM enterFunction) = (r', .ok ())) :
    r'.functions.map FunctionEntry.function = r.functions.map FunctionEntry.function ++ fs ∧
      r'.entries = r.entries := by
  have hfunctions := view_of_forM (·.functions.map FunctionEntry.function) (fun f => [f])
    (fun hf => (functions_of_enterFunction hf).1) h
  have hentries := view_of_forM (·.entries) (fun _ => [])
    (fun hf => by rw [(functions_of_enterFunction hf).2, List.append_nil]) h
  simp only [List.flatMap_singleton'] at hfunctions
  simp only [List.flatMap_eq_nil_iff.mpr fun _ _ => rfl, List.append_nil] at hentries
  exact ⟨hfunctions, hentries⟩

theorem extend_eq_ok {r r' : Registry} {step : Building Unit} :
    r.extend step = .ok r' ↔ r.perform step = (r', .ok ()) := by
  unfold extend
  rcases hperform : r.perform step with ⟨reached, cause | done⟩
  · simp [Except.map]
  · simp [Except.map]

/-- The table of a model is well formed and holds what the model declares. -/
theorem build_eq_ok {parameters : List Parameter} {functions : List Function} {r : Registry}
    (h : build parameters functions = .ok r) :
    r.WellFormed ∧ r.entries.map Entry.parameter = parameters ∧
      r.functions.map FunctionEntry.function = functions := by
  have hbuilt := extend_eq_ok.mp h
  rw [perform_then] at hbuilt
  rcases hreached : Registry.perform {} (enterAll parameters) with ⟨reached, cause | done⟩
  · rw [hreached] at hbuilt
    cases hbuilt
  · rw [hreached] at hbuilt
    have hrest : reached.perform (functions.forM enterFunction) = (r, .ok ()) := hbuilt
    obtain ⟨hentries, hnone⟩ := entries_of_enterAll hreached
    obtain ⟨hfunctions, hsame⟩ := functions_of_enterFunctions hrest
    have hreachedGrows := grows_forM grows_enter {} parameters
    rw [show Registry.perform {} (parameters.forM enter) = _ from hreached] at hreachedGrows
    have hgrows := grows_forM grows_enterFunction reached functions
    rw [hrest] at hgrows
    refine ⟨hgrows.wellFormed (hreachedGrows.wellFormed wellFormed_empty), ?_, ?_⟩
    · rw [hsame, hentries]
      rfl
    · rw [hfunctions, hnone]
      rfl

/-- A refused list is entered up to the parameter that is refused. -/
theorem kept_of_enterAll_refused {r r' : Registry} {ps : List Parameter}
    {cause : RegistrationError} (h : r.perform (enterAll ps) = (r', .error cause)) :
    ∃ kept refused rest, ps = kept ++ refused :: rest ∧
      r.perform (enterAll kept) = (r', .ok ()) ∧ r'.entryFor refused = .error cause := by
  induction ps generalizing r with
  | nil => cases h
  | cons p ps ih =>
    rw [enterAll, perform_forM_cons] at h
    rcases hreached : r.perform (enter p) with ⟨reached, cause' | done⟩
    · rw [hreached] at h
      cases h
      obtain ⟨rfl, hrefused⟩ := enter_eq_error.mp hreached
      exact ⟨[], p, ps, rfl, rfl, hrefused⟩
    · rw [hreached] at h
      obtain ⟨kept, refused, rest, rfl, hkept, hrefused⟩ := ih h
      refine ⟨p :: kept, refused, rest, rfl, ?_, hrefused⟩
      rw [enterAll, perform_forM_cons, hreached]
      exact hkept

/-! ### Whole histories -/

theorem enter_accepted {r r' : Registry} (hr : r.WellFormed) {p : Parameter} :
    r.perform (enter p) = (r', .ok ()) ↔ ∃ template, r' = r.push ⟨p, template⟩ ∧
      p.name ∉ r.names ++ r.functionNames ∧ Entry.WellFormed ⟨p, template⟩ := by
  rw [enter_eq_ok, ← hr.isTaken_iff, Bool.not_eq_true]
  constructor
  · rintro ⟨e, hfound, rfl⟩
    obtain ⟨hfree, rfl, he⟩ := entryFor_eq_ok.mp hfound
    exact ⟨e.template, rfl, hfree, he⟩
  · rintro ⟨template, rfl, hfree, he⟩
    exact ⟨_, entryFor_eq_ok.mpr ⟨hfree, rfl, he⟩, rfl⟩

theorem enterFunction_accepted {r r' : Registry} (hr : r.WellFormed) {f : Function} :
    r.perform (enterFunction f) = (r', .ok ()) ↔ ∃ template, r' = r.pushFunction ⟨f, template⟩ ∧
      f.name ∉ r.names ++ r.functionNames ∧ FunctionEntry.WellFormed ⟨f, template⟩ := by
  rw [enterFunction_eq_ok, ← hr.isTaken_iff, Bool.not_eq_true]
  constructor
  · rintro ⟨e, hfound, rfl⟩
    obtain ⟨hfree, rfl, he⟩ := functionEntryFor_eq_ok.mp hfound
    exact ⟨e.template, rfl, hfree, he⟩
  · rintro ⟨template, rfl, hfree, he⟩
    exact ⟨_, functionEntryFor_eq_ok.mpr ⟨hfree, rfl, he⟩, rfl⟩

theorem registerFunction_eq_ok {r r' : Registry} (hr : r.WellFormed) {f : Function} :
    r.registerFunction f = .ok r' ↔ ∃ template, r' = r.pushFunction ⟨f, template⟩ ∧
      f.name ∉ r.names ++ r.functionNames ∧ FunctionEntry.WellFormed ⟨f, template⟩ :=
  extend_eq_ok.trans (enterFunction_accepted hr)

/-- A function that was registered is found from then on. -/
theorem functionEntry?_after_registerFunction {r r' : Registry} (hr : r.WellFormed) {f : Function}
    (h : r.registerFunction f = .ok r') (more : List Registration) :
    ∃ template, FunctionEntry.WellFormed ⟨f, template⟩ ∧
      functionEntry? (r'.after more) f.name = some ⟨f, template⟩ := by
  obtain ⟨template, rfl, hname, hf⟩ := (registerFunction_eq_ok hr).mp h
  have hfree : r.isTaken f.name = false := by
    rw [← hr.isTaken_iff, Bool.not_eq_true] at hname
    exact hname
  have hgrows := grows_after (r.pushFunction ⟨f, template⟩) more
  have hmem : ⟨f, template⟩ ∈ (r.pushFunction ⟨f, template⟩).functions :=
    List.mem_append_right _ List.mem_cons_self
  refine ⟨template, hf, ?_⟩
  exact (hgrows.wellFormed (hr.pushFunction hf hfree)).functionEntry?_eq_some.mpr
    ⟨hgrows.functions.subset hmem, rfl⟩

/-- However a table was built, it is well formed, names lead to their entries, and it takes exactly
the well-formed declarations of new names; a function whose sites are those of its arguments is one
if a word counts the arguments.  A refused call leaves the table, or what it has entered up to the
refusal, and no later call changes an entry. -/
theorem wellFormed_after (calls : List Registration) :
    let r := after {} calls
    r.WellFormed ∧
    (∀ name e, r.entry? name = some e ↔ e ∈ r.entries ∧ e.parameter.name = name) ∧
    (∀ name f, r.functionEntry? name = some f ↔ f ∈ r.functions ∧ f.function.name = name) ∧
    (∀ p r', r.perform (enter p) = (r', .ok ()) ↔
      ∃ template, r' = r.push ⟨p, template⟩ ∧ p.name ∉ r.names ++ r.functionNames ∧
        Entry.WellFormed ⟨p, template⟩) ∧
    (∀ f r', r.perform (enterFunction f) = (r', .ok ()) ↔
      ∃ template, r' = r.pushFunction ⟨f, template⟩ ∧ f.name ∉ r.names ++ r.functionNames ∧
        FunctionEntry.WellFormed ⟨f, template⟩) ∧
    (∀ f template, f.arguments.length ≤ Template.greatestWord + 1 →
      f.name ∉ r.names ++ r.functionNames → Template.parse f.template = .ok template →
      (∀ key, key ∈ template.keys ↔ ∃ i < f.arguments.length, key = Decimal.decimalText i) →
      r.perform (enterFunction f) = (r.pushFunction ⟨f, template⟩, .ok ())) ∧
    (∀ p cause r', r.perform (enter p) = (r', .error cause) → r' = r) ∧
    (∀ f cause r', r.perform (enterFunction f) = (r', .error cause) → r' = r) ∧
    (∀ ps cause r', r.perform (enterAll ps) = (r', .error cause) →
      ∃ kept refused rest, ps = kept ++ refused :: rest ∧
        r.perform (enterAll kept) = (r', .ok ()) ∧
        r'.perform (enter refused) = (r', .error cause) ∧
        r'.entries.map Entry.parameter = r.entries.map Entry.parameter ++ kept ∧
        r'.functions = r.functions) ∧
    ∀ more, let later := after {} (calls ++ more)
      r.entries <+: later.entries ∧ r.functions <+: later.functions ∧
      (∀ name e, r.entry? name = some e → later.entry? name = some e) ∧
      ∀ name f, r.functionEntry? name = some f → later.functionEntry? name = some f := by
  intro r
  have hr : r.WellFormed := (grows_after {} calls).wellFormed wellFormed_empty
  refine ⟨hr, fun _ _ => hr.entry?_eq_some, fun _ _ => hr.functionEntry?_eq_some,
    fun _ _ => enter_accepted hr, fun _ _ => enterFunction_accepted hr,
    fun f template hfew hname htemplate hsites => (enterFunction_accepted hr).mpr
      ⟨template, rfl, hname, FunctionEntry.wellFormed_of_sites hfew htemplate hsites⟩,
    fun p cause r' h => (enter_eq_error.mp h).1,
    fun f cause r' h => (enterFunction_eq_error.mp h).1, ?_, ?_⟩
  · intro ps cause r' h
    obtain ⟨kept, refused, rest, hps, hkept, hrefused⟩ := kept_of_enterAll_refused h
    have hagain := enter_eq_error.mpr ⟨rfl, hrefused⟩
    obtain ⟨hentries, hfunctions⟩ := entries_of_enterAll hkept
    exact ⟨kept, refused, rest, hps, hkept, hagain, hentries, hfunctions⟩
  · intro more later
    have hlater : Grows r later := by
      show Grows r (after {} (calls ++ more))
      rw [after_append]
      exact grows_after r more
    have hlaterFormed := hlater.wellFormed hr
    refine ⟨hlater.entries, hlater.functions, fun name e he => ?_, fun name f hf => ?_⟩
    · obtain ⟨hmem, hname⟩ := hr.entry?_eq_some.mp he
      exact hlaterFormed.entry?_eq_some.mpr ⟨hlater.entries.subset hmem, hname⟩
    · obtain ⟨hmem, hname⟩ := hr.functionEntry?_eq_some.mp hf
      exact hlaterFormed.functionEntry?_eq_some.mpr ⟨hlater.functions.subset hmem, hname⟩

/-- A level that can be set. -/
def levelParameter : Parameter where
  name := "level"
  setter := .template "LEV \x7bval\x7d"
  domain := some (.ints 1 10)

/-- Calls of which some are refused: the name `level` comes again, and `blank` can neither be read
nor set. -/
def crowding : List Registration := [
  .function { name := "level", template := "LEV:DEF" },
  .parameters [{ name := "offset", getter := .query "OFFS?" }, { name := "blank" },
    { name := "gain", getter := .query "GAIN?" }],
  .function { name := "scan", template := "SCAN \x7b1\x7d,\x7b0\x7d", arguments := [.bool, .bool] }]

/-- The refused calls leave the level as it was registered, and the parameter before the one that is
refused stays. -/
theorem wellFormed_after_crowding :
    let r := after {} [.parameter levelParameter]
    let later := after {} ([.parameter levelParameter] ++ crowding)
    r.perform (enterFunction { name := "level", template := "LEV:DEF" }) =
        (r, .error (.duplicateName "level")) ∧
      later.WellFormed ∧ later.names = ["level", "offset"] ∧ later.functionNames = ["scan"] ∧
      ∃ e, e.parameter = levelParameter ∧ later.entry? "level" = some e := by
  intro r later
  obtain ⟨-, hfound, -, -, -, -, -, -, -, hlater⟩ := wellFormed_after [.parameter levelParameter]
  obtain ⟨-, -, hentries, -⟩ := hlater crowding
  obtain ⟨hformed, -⟩ := wellFormed_after ([.parameter levelParameter] ++ crowding)
  obtain ⟨e, he, hparameter⟩ : ∃ e ∈ r.entries, e.parameter = levelParameter :=
    ⟨_, List.mem_singleton.mpr rfl, rfl⟩
  have hrefused : r.perform (enterFunction { name := "level", template := "LEV:DEF" }) =
      (r, .error (.duplicateName "level")) := rfl
  have hlevel : r.entry? "level" = some e := (hfound _ _).mpr ⟨he, by rw [hparameter]; rfl⟩
  exact ⟨hrefused, hformed, by decide +kernel, by decide +kernel, e, hparameter,
    hentries "level" e hlevel⟩

end Registry

end InstrumentControl
