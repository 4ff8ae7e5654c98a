import InstrumentControl.Link.Scripted
import InstrumentControl.Proofs.Registry.Setting

/-! Reading a parameter.  A fixed query is the only call that reading by it makes, and the response
is interpreted by the declaration.  A mapped parameter that was set reads as a value that agrees
with the one it was set to, as long as the instrument answers with the token it got. -/

namespace InstrumentControl.Registry

open Text

variable {r : Registry} {name raw : String} {value : Value} {p : Parameter} {m : Mapping}

theorem interpret_eq_ok (hm : p.mapping = some m) :
    interpret p raw = .ok value ↔ m.fromWire raw = some value := by
  simp only [interpret, hm]
  cases m.fromWire raw <;> simp

theorem interpret_eq_error (hm : p.mapping = some m) {e : GetError} :
    interpret p raw = .error e ↔ strip raw ∉ m.tokens ∧ e = .unmapped p.name (strip raw) := by
  rw [← Mapping.fromWire_eq_none]
  simp only [interpret, hm]
  cases m.fromWire raw <;> simp [eq_comm]

theorem accepts_mapped (hm : p.mapping = some m) {token : String} :
    p.Accepts value token ↔ m.toWire value = some token := by
  rw [← Parameter.tokenFor_eq_ok]
  simp only [tokenFor, hm]
  cases m.toWire value <;> simp

/-- The setting `set` made the calls `log`: it put `token` into the one command that it sent, or handed
it to the routine, which goes on by `inner`. -/
inductive Transmits (r : Registry) (inner : Access) (name : String) (value : Value)
    (set : Conversation (Except SetError Unit)) (token : String) (log : List Exchange) : Prop
  | command {p : Parameter} {source command : String} {t : Template} (hp : r.Declares name p)
      (hsetter : p.setter = .template source) (ht : Template.parse source = .ok t)
      (hfill : t.renderValue token = .ok command) (hlog : log = [⟨.send command, .ok ()⟩]) :
      Transmits r inner name value set token log
  | routine {p : Parameter} {script : Value → String → Script (Except SetError Unit)}
      (hp : r.Declares name p) (hsetter : p.setter = .custom script)
      (hset : set = inner.runScript (script value token)) :
      Transmits r inner name value set token log

/-- The parameter `name` with the mapping `m` is set by `set`, where routines go on by `inner`, and
read by `get`, which asks `query`. -/
structure RoundTrips (r : Registry) (inner : Access) (m : Mapping) (name query : String)
    (set : Value → Conversation (Except SetError Unit))
    (get : Conversation (Except GetError Value)) : Prop where
  /-- A setting that succeeds transmits the token of the first key that agrees with the value, and
  where the instrument answers with the token, in blanks or not, that key is read. -/
  returned : ∀ value {σ : Type} (link : Link σ) (s : σ), ((set value).run link s).1 = .ok () →
    ∃ token key, r.Transmits inner name value (set value) token ((set value).exchanges link s) ∧
      m.toWire value = some token ∧ m.values.find? (·.agrees value) = some key ∧
      key.agrees value = true ∧
      ∀ left right, Blank left → Blank right → ∀ {τ : Type} (later : Link τ) (t : τ),
        (later (.query query) t).1 = .ok (String.ofList (left ++ token.toList ++ right)) →
        (get.run later t).1 = .ok key
  /-- A response that is no token is not read as a value. -/
  foreign : ∀ raw, strip raw ∉ m.tokens → ∀ {σ : Type} (link : Link σ) (s : σ),
    (link (.query query) s).1 = .ok raw → (get.run link s).1 = .error (.unmapped name (strip raw))

namespace WellFormed

variable (hr : r.WellFormed) (hp : r.Declares name p)
include hr hp

/-- A fixed query is the only call of a reading. -/
theorem getThrough_query {query : String} (hgetter : p.getter = .query query) (a : Access) :
    r.getThrough a name = .step (.query query) fun reply =>
      .done ((reply.mapError GetError.link).bind (interpret p)) := by
  obtain ⟨template, hentry, -⟩ := hr.entry?_of_declares hp
  simp only [getThrough, hentry, fetch, hgetter]
  rfl

/-- A setting that succeeds transmits the token of an accepted value. -/
theorem exists_transmitted (a : Access) {σ : Type} (link : Link σ) (s : σ)
    (h : ((r.setThrough a name value).run link s).1 = .ok ()) : ∃ token, p.Accepts value token ∧
      r.Transmits a name value (r.setThrough a name value) token
        ((r.setThrough a name value).exchanges link s) := by
  rcases hr.refuses_or_commands_or_delegates name value with
    ⟨error, hrefusal⟩ | ⟨command, hcommand⟩ | ⟨routine, hroutine⟩
  · rw [hr.setThrough_refused hrefusal] at h
    cases h
  · obtain ⟨p', source, t, token, hp', hsetter, ht, htoken, hfill⟩ := id hcommand
    obtain rfl := hr.declares_unique hp hp'
    rw [hr.setThrough_commanded hcommand] at h ⊢
    have hreply : (link (.send command) s).1 = .ok () := mapError_eq_ok.mp h
    refine ⟨token, htoken, .command hp hsetter ht hfill ?_⟩
    rw [← hreply]
    rfl
  · obtain ⟨p', script, token, hp', hsetter, htoken, rfl⟩ := id hroutine
    obtain rfl := hr.declares_unique hp hp'
    exact ⟨token, htoken, .routine hp hsetter (hr.setThrough_delegated hroutine a)⟩

/-- A mapped parameter with a fixed query reads as what the response stands for. -/
theorem get_mapped (hm : p.mapping = some m) {query : String} (hgetter : p.getter = .query query)
    (a : Access) {σ : Type} (link : Link σ) (s : σ) (hraw : (link (.query query) s).1 = .ok raw) :
    (∀ value, m.fromWire raw = some value →
      ((r.getThrough a name).run link s).1 = .ok value) ∧
      (strip raw ∉ m.tokens →
        ((r.getThrough a name).run link s).1 = .error (.unmapped name (strip raw))) := by
  have hget : ((r.getThrough a name).run link s).1 = interpret p raw := by
    rw [hr.getThrough_query hp hgetter, Conversation.run_step, hraw]
    rfl
  rw [hget]
  refine ⟨fun value hread => (interpret_eq_ok hm).mpr hread, fun hforeign => ?_⟩
  exact (interpret_eq_error hm).mpr ⟨hforeign, by rw [hp.2]⟩

theorem roundTrips (hlegible : m.Legible) (hm : p.mapping = some m) {query : String}
    (hgetter : p.getter = .query query) (a : Access) :
    r.RoundTrips a m name query (r.setThrough a name) (r.getThrough a name) where
  returned value σ link s hset := by
    obtain ⟨token, haccepts, htransmits⟩ := hr.exists_transmitted hp a link s hset
    have htoken := (accepts_mapped hm).mp haccepts
    obtain ⟨key, hfirst, hkey, hpair⟩ := Mapping.exists_key_of_toWire htoken
    refine ⟨token, key, htransmits, htoken, hfirst, hkey, ?_⟩
    intro left right hleft hright τ later t hraw
    have hread := hlegible.fromWire_padded hpair hleft hright
    exact (hr.get_mapped hp hm hgetter a later t hraw).1 key hread
  foreign raw hforeign σ link s hraw := (hr.get_mapped hp hm hgetter a link s hraw).2 hforeign

end WellFormed

/-- What was written by a mapping whose tokens are told apart is read as the first key that agrees
with the value.  So a mapped parameter that was set is read as that key, when the instrument answers
the query with the token it got, in blanks or not.  A response that is no token is never read as a
value.  This goes for what a caller sets and reads and, at any depth, for what a routine does. -/
theorem mapped_parameters_round_trip (m : Mapping) (hm : m.Legible) :
    (∀ value token left right, m.toWire value = some token → Blank left → Blank right →
      ∃ key, m.values.find? (·.agrees value) = some key ∧ key.agrees value = true ∧
        m.fromWire (String.ofList (left ++ token.toList ++ right)) = some key) ∧
    ∀ calls name p query, let r := after {} calls
      r.Declares name p → p.mapping = some m → p.getter = .query query →
      r.RoundTrips (r.access (2 * r.entries.length)) m name query (r.set name) (r.get name) ∧
      ∀ depth, r.RoundTrips (r.access depth) m name query ((r.access (depth + 1)).set name)
        ((r.access (depth + 1)).get name) := by
  refine ⟨?_, ?_⟩
  · intro value token left right htoken hleft hright
    obtain ⟨key, hfirst, hkey, hpair⟩ := Mapping.exists_key_of_toWire htoken
    exact ⟨key, hfirst, hkey, hm.fromWire_padded hpair hleft hright⟩
  · intro calls name p query r hp hmapping hgetter
    have hr : r.WellFormed := (grows_after {} calls).wellFormed wellFormed_empty
    exact ⟨hr.roundTrips hp hm hmapping hgetter _,
      fun depth => hr.roundTrips hp hm hmapping hgetter (r.access depth)⟩

/-- Two ranges that are named by their factors. -/
def factorParameter : Parameter where
  name := "factor"
  getter := .query "RANG?"
  setter := .template "RANG \x7bval\x7d"
  mapping := some ⟨[(.int 1, "LOW"), (.int 10, "HIGH")]⟩

/-- The factor is set by a real number and read as the integer that it agrees with. -/
theorem mapped_parameters_round_trip_factor :
    let m : Mapping := ⟨[(.int 1, "LOW"), (.int 10, "HIGH")]⟩
    let r := after {} [.parameter factorParameter]
    m.Legible ∧ m.toWire (.float 10) = some "HIGH" ∧ r.Declares "factor" factorParameter ∧
      ((r.set "factor" (.float 10)).run Scripted.link {}).1 = .ok () ∧
      ((r.get "factor").run Scripted.link { script := [" HIGH\r\n"] }).1 = .ok (.int 10) ∧
      ((r.get "factor").run Scripted.link { script := [" MID\r\n"] }).1 =
        .error (.unmapped "factor" "MID") := by
  intro m r
  have hm : m.Legible := ⟨by decide, by decide⟩
  have htoken : m.toWire (.float 10) = some "HIGH" := by decide
  have hp : r.Declares "factor" factorParameter := ⟨List.mem_singleton.mpr rfl, rfl⟩
  have hset : ((r.set "factor" (.float 10)).run Scripted.link {}).1 = .ok () := rfl
  obtain ⟨-, hregistered⟩ := mapped_parameters_round_trip m hm
  obtain ⟨hround, -⟩ := hregistered [.parameter factorParameter] "factor" factorParameter
    "RANG?" hp rfl rfl
  obtain ⟨token, key, -, htoken', hfirst, -, hread⟩ :=
    hround.returned (.float 10) Scripted.link {} hset
  obtain rfl : "HIGH" = token := Option.some.inj (htoken.symm.trans htoken')
  have hkey : m.values.find? (·.agrees (.float 10)) = some (.int 10) := by decide
  obtain rfl : Value.int 10 = key := Option.some.inj (hkey.symm.trans hfirst)
  refine ⟨hm, htoken, hp, hset, ?_, ?_⟩
  · exact hread [' '] ['\r', '\n'] (by decide) (by decide) Scripted.link _ rfl
  · exact hround.foreign " MID\r\n" (by decide) Scripted.link _ rfl

end InstrumentControl.Registry
