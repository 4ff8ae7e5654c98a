import InstrumentControl.Proofs.Conversation
import InstrumentControl.Proofs.Mapping
import InstrumentControl.Proofs.Registry.History
import InstrumentControl.Registry.Session

/-! Setting a parameter.  `Accepts` and `Rejects` say which values a parameter takes, and `Refuses`
gives the errors that a table raises itself.  A table decides by the declaration alone: it raises
its errors before the first call on the link, and an accepted value becomes one command or goes to
the custom routine. -/

namespace InstrumentControl

namespace Parameter

variable {p : Parameter} {value : Value} {token : String}

/-- The parameter takes `value`, and `token` stands for it: the token of the first pair that agrees,
or without a mapping the wire text of a value in the domain. -/
inductive Accepts (p : Parameter) (value : Value) : (token : String) → Prop
  | mapped {m : Mapping} {before after : List (Value × String)} {key : Value} {token : String}
      (hmapping : p.mapping = some m) (hpairs : m.pairs = before ++ (key, token) :: after)
      (hkey : key.agrees value = true) (hfirst : ∀ pair ∈ before, pair.1.agrees value = false) :
      Accepts p value token
  | plain (hmapping : p.mapping = none)
      (hdomain : ∀ d, p.domain = some d → d.check value = .ok ()) :
      Accepts p value value.toWire

/-- The parameter does not take `value`. -/
inductive Rejects (p : Parameter) (value : Value) : Refusal → Prop
  | unmapped {m : Mapping} (hmapping : p.mapping = some m)
      (hnone : ∀ pair ∈ m.pairs, pair.1.agrees value = false) :
      Rejects p value (.mapping m.describe)
  | outside {d : Domain} {rejection : Rejection} (hmapping : p.mapping = none)
      (hdomain : p.domain = some d) (hcheck : d.check value = .error rejection) :
      Rejects p value (.domain rejection)

theorem isSettable_of_template {source : String} (h : p.setter = .template source) :
    p.isSettable = true := by
  rw [isSettable, h]

theorem isSettable_of_custom {script : Value → String → Script (Except SetError Unit)}
    (h : p.setter = .custom script) : p.isSettable = true := by
  rw [isSettable, h]

theorem tokenFor_eq_ok : Registry.tokenFor p value = .ok token ↔ p.Accepts value token := by
  constructor
  · intro h
    unfold Registry.tokenFor at h
    split at h
    · next m hm =>
      split at h
      · next found hfound =>
        cases h
        obtain ⟨before, key, after, hpairs, hkey, hfirst⟩ := Mapping.toWire_eq_some.mp hfound
        exact .mapped hm hpairs hkey hfirst
      · cases h
    · next hm =>
      split at h
      · next d hd =>
        cases hcheck : d.check value with
        | error rejection =>
          rw [hcheck] at h
          cases h
        | ok done =>
          rw [hcheck] at h
          cases h
          refine .plain hm fun d' hd' => ?_
          rw [hd, Option.some.injEq] at hd'
          exact hd' ▸ hcheck
      · next hd =>
        cases h
        exact .plain hm fun d hd' => absurd hd' (hd ▸ Option.some_ne_none d ∘ Eq.symm)
  · rintro (⟨hm, hpairs, hkey, hfirst⟩ | ⟨hm, hdomain⟩)
    · have htoken := Mapping.toWire_eq_some.mpr ⟨_, _, _, hpairs, hkey, hfirst⟩
      simp only [Registry.tokenFor, hm, htoken]
    · simp only [Registry.tokenFor, hm]
      cases hd : p.domain with
      | none => rfl
      | some d =>
        simp only [hdomain d hd]
        rfl

theorem tokenFor_eq_error {refusal : Refusal} :
    Registry.tokenFor p value = .error refusal ↔ p.Rejects value refusal := by
  constructor
  · intro h
    unfold Registry.tokenFor at h
    split at h
    · next m hm =>
      split at h
      · cases h
      · next hnone =>
        cases h
        exact .unmapped hm (Mapping.toWire_eq_none.mp hnone)
    · next hm =>
      split at h
      · next d hd =>
        cases hcheck : d.check value with
        | error rejection =>
          rw [hcheck] at h
          cases h
          exact .outside hm hd hcheck
        | ok done =>
          rw [hcheck] at h
          cases h
      · cases h
  · rintro (⟨hm, hnone⟩ | ⟨hm, hd, hcheck⟩)
    · simp only [Registry.tokenFor, hm, Mapping.toWire_eq_none.mpr hnone]
    · simp only [Registry.tokenFor, hm, hd, hcheck]
      rfl

theorem Accepts.unique {token' : String} (h : p.Accepts value token) (h' : p.Accepts value token') :
    token' = token := by
  rw [← tokenFor_eq_ok] at h h'
  rw [h, Except.ok.injEq] at h'
  exact h'.symm

theorem accepts_or_rejects (p : Parameter) (value : Value) :
    (∃ token, p.Accepts value token) ∨ ∃ refusal, p.Rejects value refusal := by
  cases h : Registry.tokenFor p value with
  | ok token => exact .inl ⟨token, tokenFor_eq_ok.mp h⟩
  | error refusal => exact .inr ⟨refusal, tokenFor_eq_error.mp h⟩

theorem Rejects.not_accepts {refusal : Refusal} (h : p.Rejects value refusal) :
    ¬ p.Accepts value token := by
  intro h'
  rw [← tokenFor_eq_error] at h
  rw [← tokenFor_eq_ok, h] at h'
  cases h'

end Parameter

namespace Registry

/-- The table declares `p` under `name`. -/
def Declares (r : Registry) (name : String) (p : Parameter) : Prop :=
  p ∈ r.entries.map Entry.parameter ∧ p.name = name

/-- Setting `name` to `value` ends in an error of the table itself. -/
inductive Refuses (r : Registry) (name : String) (value : Value) : SetError → Prop
  | unknown (hname : name ∉ r.names) : Refuses r name value (.unknownParameter name)
  | notSettable {p : Parameter} (hp : r.Declares name p) (hsetter : p.setter = .none) :
      Refuses r name value (.notSettable name)
  | rejected {p : Parameter} {refusal : Refusal} (hp : r.Declares name p)
      (hset : p.isSettable = true) (hrejects : p.Rejects value refusal) :
      Refuses r name value (.invalidValue name value.display refusal)
  | unfilled {p : Parameter} {source token : String} {t : Template} {fault : Template.Fault}
      (hp : r.Declares name p) (hsetter : p.setter = .template source)
      (ht : Template.parse source = .ok t) (htoken : p.Accepts value token)
      (hfill : t.renderValue token = .error fault) : Refuses r name value (.format name fault)

/-- Setting `name` to `value` runs a routine of the declaration, with a value that it accepts. -/
def Delegates (r : Registry) (name : String) (value : Value)
    (routine : Script (Except SetError Unit)) : Prop :=
  ∃ p script token, r.Declares name p ∧ p.setter = .custom script ∧ p.Accepts value token ∧
    routine = script value token

/-- Setting `name` to `value` sends `command`. -/
def Commands (r : Registry) (name : String) (value : Value) (command : String) : Prop :=
  ∃ p source t token, r.Declares name p ∧ p.setter = .template source ∧
    Template.parse source = .ok t ∧ p.Accepts value token ∧ t.renderValue token = .ok command

/-- A setting that made the calls `log` and ended in `result` sent a wanted command if there is one,
made no other call, and succeeded exactly if the command did. -/
structure SendsOnly (wanted : String → Prop) (log : List Exchange)
    (result : Except SetError Unit) : Prop where
  calls : log = [] ∨ ∃ command reply, log = [⟨.send command, reply⟩]
  sent : ∀ command, (∃ reply, log = [⟨.send command, reply⟩]) ↔ wanted command
  succeeded : result = .ok () ↔ ∃ command, log = [⟨.send command, .ok ()⟩]
  failed : ∀ command cause, log = [⟨.send command, .error cause⟩] → result = .error (.link cause)

theorem mapError_eq_ok {α ε ε' : Type} {wrap : ε → ε'} {reply : Except ε α} {a : α} :
    reply.mapError wrap = .ok a ↔ reply = .ok a := by
  cases reply <;> simp [Except.mapError]

theorem SendsOnly.nothing {wanted : String → Prop} {error : SetError}
    (h : ∀ command, ¬ wanted command) : SendsOnly wanted [] (.error error) where
  calls := .inl rfl
  sent command := by simp [h command]
  succeeded := by simp
  failed command cause hlog := by cases hlog

theorem SendsOnly.command {wanted : String → Prop} {command : String}
    {reply : Except LinkError Unit} (h : ∀ command', wanted command' ↔ command' = command) :
    SendsOnly wanted [⟨.send command, reply⟩] (reply.mapError .link) where
  calls := .inr ⟨command, reply, rfl⟩
  sent command' := by
    rw [h command']
    constructor
    · rintro ⟨reply', hlog⟩
      cases hlog
      rfl
    · rintro rfl
      exact ⟨reply, rfl⟩
  succeeded := by
    rw [mapError_eq_ok]
    constructor
    · rintro rfl
      exact ⟨command, rfl⟩
    · rintro ⟨command', hlog⟩
      cases hlog
      rfl
  failed command' cause hlog := by
    cases hlog
    rfl

/-- `set` is how the table sets `name` to `value`, where routines go on by `inner`. -/
structure Sets (r : Registry) (inner : Access) (name : String) (value : Value)
    (set : Conversation (Except SetError Unit)) : Prop where
  /-- By a template, at most one command is sent, and it is sent exactly if the value is accepted
  and the template can be filled. -/
  template : ∀ {p source}, r.Declares name p → p.setter = .template source →
    ∃ t, Template.parse source = .ok t ∧ ∀ {σ : Type} (link : Link σ) (s : σ),
      SendsOnly (fun command => ∃ token, p.Accepts value token ∧ t.renderValue token = .ok command)
        (set.exchanges link s) (set.run link s).1
  /-- A routine is run once for an accepted value, and not for another. -/
  custom : ∀ {p script}, r.Declares name p → p.setter = .custom script →
    (∀ token, p.Accepts value token → set = inner.runScript (script value token)) ∧
    ((∀ token, ¬ p.Accepts value token) → ∃ refusal, p.Rejects value refusal ∧
      set = return .error (.invalidValue name value.display refusal))
  /-- The errors of the table come without a call on the link. -/
  refusal : ∀ {error}, r.Refuses name value error → set = return .error error
  /-- Every other error is the failure of the one command or comes from the routine. -/
  errors : ∀ {σ : Type} (link : Link σ) (s : σ) {error}, (set.run link s).1 = .error error →
    r.Refuses name value error ∨
    (∃ command cause, set.exchanges link s = [⟨.send command, .error cause⟩] ∧
      error = .link cause) ∨
    ∃ routine, r.Delegates name value routine ∧ set = inner.runScript routine

variable {r : Registry} {name : String} {value : Value} {p : Parameter} {token : String}

namespace WellFormed

theorem entry?_of_declares (hr : r.WellFormed) (hp : r.Declares name p) :
    ∃ template, r.entry? name = some ⟨p, template⟩ ∧ Entry.WellFormed ⟨p, template⟩ := by
  obtain ⟨hmem, hname⟩ := hp
  obtain ⟨⟨p, template⟩, he, rfl⟩ := List.mem_map.mp hmem
  exact ⟨template, hr.entry?_eq_some.mpr ⟨he, hname⟩, hr.entries _ he⟩

/-- A table declares one parameter under a name. -/
theorem declares_unique (hr : r.WellFormed) (hp : r.Declares name p) {p' : Parameter}
    (hp' : r.Declares name p') : p' = p := by
  obtain ⟨template, hentry, -⟩ := hr.entry?_of_declares hp
  obtain ⟨template', hentry', -⟩ := hr.entry?_of_declares hp'
  rw [hentry] at hentry'
  cases hentry'
  rfl

theorem setThrough_unknown (hr : r.WellFormed) (hname : name ∉ r.names) (a : Access) :
    r.setThrough a name value = return .error (.unknownParameter name) := by
  rw [setThrough, hr.entry?_eq_none.mpr hname]

theorem setThrough_notSettable (hr : r.WellFormed) (hp : r.Declares name p)
    (hsetter : p.setter = .none) (a : Access) :
    r.setThrough a name value = return .error (.notSettable name) := by
  obtain ⟨template, hentry, -⟩ := hr.entry?_of_declares hp
  simp [setThrough, hentry, Parameter.isSettable, hsetter]

theorem setThrough_rejected (hr : r.WellFormed) (hp : r.Declares name p)
    (hsettable : p.isSettable = true) {refusal : Refusal} (hrejects : p.Rejects value refusal)
    (a : Access) :
    r.setThrough a name value = return .error (.invalidValue name value.display refusal) := by
  obtain ⟨template, hentry, -⟩ := hr.entry?_of_declares hp
  simp [setThrough, hentry, hsettable, Parameter.tokenFor_eq_error.mpr hrejects]

/-- An accepted value goes into the template. -/
theorem setThrough_template (hr : r.WellFormed) (hp : r.Declares name p) {source : String}
    (hsetter : p.setter = .template source) {t : Template} (ht : Template.parse source = .ok t)
    (htoken : p.Accepts value token) (a : Access) :
    (∀ fault, t.renderValue token = .error fault →
      r.setThrough a name value = return .error (.format name fault)) ∧
    ∀ command, t.renderValue token = .ok command →
      r.setThrough a name value =
        do return (← Conversation.send command).mapError .link := by
  obtain ⟨template, hentry, he⟩ := hr.entry?_of_declares hp
  obtain rfl : template = some t := (he.template t).mpr ⟨source, hsetter, ht⟩
  have hset : r.setThrough a name value = deliver a ⟨p, some t⟩ value token := by
    simp [setThrough, hentry, Parameter.isSettable_of_template hsetter,
      Parameter.tokenFor_eq_ok.mpr htoken]
  refine ⟨fun fault hfill => ?_, fun command hfill => ?_⟩
  · rw [hset]
    simp only [deliver, hsetter, hfill, hp.2]
  · rw [hset]
    simp only [deliver, hsetter, hfill]

theorem setThrough_custom (hr : r.WellFormed) (hp : r.Declares name p)
    {script : Value → String → Script (Except SetError Unit)} (hsetter : p.setter = .custom script)
    (htoken : p.Accepts value token) (a : Access) :
    r.setThrough a name value = a.runScript (script value token) := by
  obtain ⟨template, hentry, -⟩ := hr.entry?_of_declares hp
  simp [setThrough, hentry, Parameter.isSettable_of_custom hsetter,
    Parameter.tokenFor_eq_ok.mpr htoken, deliver, hsetter]

theorem setThrough_refused (hr : r.WellFormed) {error : SetError}
    (h : r.Refuses name value error) (a : Access) :
    r.setThrough a name value = return .error error := by
  cases h with
  | unknown hname => exact hr.setThrough_unknown hname a
  | notSettable hp hsetter => exact hr.setThrough_notSettable hp hsetter a
  | rejected hp hsettable hrejects => exact hr.setThrough_rejected hp hsettable hrejects a
  | unfilled hp hsetter ht htoken hfill =>
    exact (hr.setThrough_template hp hsetter ht htoken a).1 _ hfill

theorem setThrough_commanded (hr : r.WellFormed) {command : String}
    (h : r.Commands name value command) (a : Access) :
    r.setThrough a name value = do return (← Conversation.send command).mapError .link := by
  obtain ⟨p, source, t, token, hp, hsetter, ht, htoken, hfill⟩ := h
  exact (hr.setThrough_template hp hsetter ht htoken a).2 command hfill

theorem setThrough_delegated (hr : r.WellFormed) {routine : Script (Except SetError Unit)}
    (h : r.Delegates name value routine) (a : Access) :
    r.setThrough a name value = a.runScript routine := by
  obtain ⟨p, script, token, hp, hsetter, htoken, rfl⟩ := h
  exact hr.setThrough_custom hp hsetter htoken a

theorem exists_template (hr : r.WellFormed) (hp : r.Declares name p) {source : String}
    (hsetter : p.setter = .template source) : ∃ t, Template.parse source = .ok t := by
  obtain ⟨e, he, rfl⟩ := List.mem_map.mp hp.1
  obtain ⟨t, ht⟩ := Option.isSome_iff_exists.mp ((hr.entries e he).compiled.mpr ⟨source, hsetter⟩)
  obtain ⟨source', hsource', hparse⟩ := ((hr.entries e he).template t).mp ht
  rw [hsetter, Setter.template.injEq] at hsource'
  exact ⟨t, hsource' ▸ hparse⟩

/-- A table refuses, sends one command, or runs one routine. -/
theorem refuses_or_commands_or_delegates (hr : r.WellFormed) (name : String) (value : Value) :
    (∃ error, r.Refuses name value error) ∨ (∃ command, r.Commands name value command) ∨
      ∃ routine, r.Delegates name value routine := by
  by_cases hname : name ∈ r.names
  · obtain ⟨e, he, hname⟩ := List.mem_map.mp hname
    have hp : r.Declares name e.parameter := ⟨List.mem_map_of_mem he, hname⟩
    cases hsetter : e.parameter.setter with
    | none => exact .inl ⟨_, .notSettable hp hsetter⟩
    | template source =>
      have hset := Parameter.isSettable_of_template hsetter
      rcases Parameter.accepts_or_rejects e.parameter value with ⟨token, htoken⟩ | ⟨_, hrejects⟩
      · obtain ⟨t, hparse⟩ := hr.exists_template hp hsetter
        cases hfill : t.renderValue token with
        | error fault => exact .inl ⟨_, .unfilled hp hsetter hparse htoken hfill⟩
        | ok command =>
          exact .inr (.inl ⟨command, _, _, t, token, hp, hsetter, hparse, htoken, hfill⟩)
      · exact .inl ⟨_, .rejected hp hset hrejects⟩
    | custom script =>
      have hset := Parameter.isSettable_of_custom hsetter
      rcases Parameter.accepts_or_rejects e.parameter value with ⟨token, htoken⟩ | ⟨_, hrejects⟩
      · exact .inr (.inr ⟨_, _, _, token, hp, hsetter, htoken, rfl⟩)
      · exact .inl ⟨_, .rejected hp hset hrejects⟩
  · exact .inl ⟨_, .unknown hname⟩

theorem sets_template (hr : r.WellFormed) (a : Access) {source : String}
    (hp : r.Declares name p) (hsetter : p.setter = .template source) :
    ∃ t, Template.parse source = .ok t ∧ ∀ {σ : Type} (link : Link σ) (s : σ),
      SendsOnly (fun command => ∃ token, p.Accepts value token ∧ t.renderValue token = .ok command)
        ((r.setThrough a name value).exchanges link s)
        ((r.setThrough a name value).run link s).1 := by
  obtain ⟨t, ht⟩ := hr.exists_template hp hsetter
  refine ⟨t, ht, fun link s => ?_⟩
  rcases p.accepts_or_rejects value with ⟨token, htoken⟩ | ⟨refusal, hrejects⟩
  · have hset := hr.setThrough_template hp hsetter ht htoken a
    cases hfill : t.renderValue token with
    | error fault =>
      rw [hset.1 fault hfill]
      refine .nothing fun command hcommand => ?_
      obtain ⟨token', htoken', hfill'⟩ := hcommand
      rw [htoken.unique htoken', hfill] at hfill'
      cases hfill'
    | ok command =>
      rw [hset.2 command hfill]
      refine .command fun command' => ⟨fun hcommand => ?_, ?_⟩
      · obtain ⟨token', htoken', hfill'⟩ := hcommand
        rw [htoken.unique htoken', hfill, Except.ok.injEq] at hfill'
        exact hfill'.symm
      · rintro rfl
        exact ⟨token, htoken, hfill⟩
  · rw [hr.setThrough_rejected hp (Parameter.isSettable_of_template hsetter) hrejects a]
    exact .nothing fun command ⟨token, htoken, _⟩ => hrejects.not_accepts htoken

theorem sets_custom (hr : r.WellFormed) (a : Access)
    {script : Value → String → Script (Except SetError Unit)} (hp : r.Declares name p)
    (hsetter : p.setter = .custom script) :
    (∀ token, p.Accepts value token →
      r.setThrough a name value = a.runScript (script value token)) ∧
    ((∀ token, ¬ p.Accepts value token) → ∃ refusal, p.Rejects value refusal ∧
      r.setThrough a name value = return .error (.invalidValue name value.display refusal)) := by
  refine ⟨fun token htoken => hr.setThrough_custom hp hsetter htoken a, fun hnone => ?_⟩
  rcases p.accepts_or_rejects value with ⟨token, htoken⟩ | ⟨refusal, hrejects⟩
  · exact absurd htoken (hnone token)
  · have hsettable := Parameter.isSettable_of_custom hsetter
    exact ⟨refusal, hrejects, hr.setThrough_rejected hp hsettable hrejects a⟩

theorem sets_errors (hr : r.WellFormed) (a : Access) {σ : Type} (link : Link σ) (s : σ)
    {error : SetError} (h : ((r.setThrough a name value).run link s).1 = .error error) :
    r.Refuses name value error ∨
    (∃ command cause, (r.setThrough a name value).exchanges link s =
      [⟨.send command, .error cause⟩] ∧ error = .link cause) ∨
    ∃ routine, r.Delegates name value routine ∧
      r.setThrough a name value = a.runScript routine := by
  rcases hr.refuses_or_commands_or_delegates name value with
    ⟨refusal, hrefusal⟩ | ⟨command, hcommand⟩ | ⟨routine, hroutine⟩
  · rw [hr.setThrough_refused hrefusal] at h
    cases h
    exact .inl hrefusal
  · rw [hr.setThrough_commanded hcommand] at h ⊢
    have hreply : ((link (.send command) s).1).mapError SetError.link = .error error := h
    cases hsent : (link (.send command) s).1 with
    | error cause =>
      rw [hsent] at hreply
      cases hreply
      refine .inr (.inl ⟨command, cause, ?_, rfl⟩)
      rw [← hsent]
      rfl
    | ok done =>
      rw [hsent] at hreply
      cases hreply
  · exact .inr (.inr ⟨routine, hroutine, hr.setThrough_delegated hroutine a⟩)

theorem sets_setThrough (hr : r.WellFormed) (a : Access) (name : String) (value : Value) :
    r.Sets a name value (r.setThrough a name value) where
  template := hr.sets_template a
  custom := hr.sets_custom a
  refusal h := hr.setThrough_refused h a
  errors := hr.sets_errors a

end WellFormed

/-- A table that was built in any way refuses a value before the first call on the link, and
delivers an accepted one by one command or one run of the routine.  This goes for the setting that
a caller asks for and, at any depth, for the setting that a routine asks for. -/
theorem set_validates_first (calls : List Registration) (name : String) (value : Value) :
    let r := after {} calls
    r.Sets (r.access (2 * r.entries.length)) name value (r.set name value) ∧
    ∀ depth, r.Sets (r.access depth) name value ((r.access (depth + 1)).set name value) := by
  intro r
  have hr : r.WellFormed := (grows_after {} calls).wellFormed wellFormed_empty
  exact ⟨hr.sets_setThrough _ name value, fun depth => hr.sets_setThrough _ name value⟩

/-- A level in the domain is sent, and one outside it is refused, like a name that is not there. -/
theorem set_validates_first_level :
    let r := after {} [.parameter levelParameter]
    (∃ reply, (r.set "level" (.int 5)).exchanges (Link.parrot "") () = [⟨.send "LEV 5", reply⟩]) ∧
      r.set "level" (.int 11) =
        .done (.error (.invalidValue "level" "11" (.domain (.outside "1..=10 (integer)")))) ∧
      r.set "offset" (.int 5) = .done (.error (.unknownParameter "offset")) := by
  intro r
  have hp : r.Declares "level" levelParameter := ⟨List.mem_singleton.mpr rfl, rfl⟩
  have haccepts : levelParameter.Accepts (.int 5) "5" :=
    Parameter.tokenFor_eq_ok.mp (by decide +kernel)
  have hrejects : levelParameter.Rejects (.int 11) (.domain (.outside "1..=10 (integer)")) :=
    Parameter.tokenFor_eq_error.mp (by decide +kernel)
  obtain ⟨hfive, -⟩ := set_validates_first [.parameter levelParameter] "level" (.int 5)
  obtain ⟨heleven, -⟩ := set_validates_first [.parameter levelParameter] "level" (.int 11)
  obtain ⟨hoffset, -⟩ := set_validates_first [.parameter levelParameter] "offset" (.int 5)
  obtain ⟨t, ht, hsends⟩ := hfive.template hp rfl
  have hcommand : t.renderValue "5" = .ok "LEV 5" := by
    cases ht
    decide +kernel
  exact ⟨((hsends (Link.parrot "") ()).sent "LEV 5").mpr ⟨"5", haccepts, hcommand⟩,
    heleven.refusal (.rejected hp rfl hrejects), hoffset.refusal (.unknown (by decide +kernel))⟩

end Registry

end InstrumentControl
