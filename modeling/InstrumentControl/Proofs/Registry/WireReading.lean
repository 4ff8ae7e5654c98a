import InstrumentControl.Proofs.Registry.Reading

/-! Reading the wire token of a parameter.  It asks the instrument what reading the value asks, and
turns the value back into a token.  If the keys of the mapping are told apart, that is the token
that the instrument answered with, so a routine can put it into a further command. -/

namespace InstrumentControl

open Text

namespace Registry

open Conversation

variable {r : Registry} {name : String} {p : Parameter} {m : Mapping}

/-- `getWire` reads the token with which the instrument answers, where `fetch` gets the response
and `get` reads the value of a parameter with the mapping `m`. -/
structure ReadsToken (m : Mapping) (fetch : Conversation (Except GetError String))
    (get : Conversation (Except GetError Value))
    (getWire : Conversation (Except GetError String)) : Prop where
  /-- It makes the calls of `get`, which are those that get the response. -/
  calls : ∀ {σ : Type} (link : Link σ) (s : σ),
    getWire.exchanges link s = get.exchanges link s ∧
      getWire.exchanges link s = fetch.exchanges link s ∧
      (getWire.run link s).2 = (get.run link s).2
  /-- It fails when `get` fails, with the same error. -/
  error : ∀ {σ : Type} (link : Link σ) (s : σ) e,
    (getWire.run link s).1 = .error e ↔ (get.run link s).1 = .error e
  /-- It gives a response without the blanks around it, if that is a token of the table. -/
  token : ∀ {σ : Type} (link : Link σ) (s : σ) token,
    (getWire.run link s).1 = .ok token ↔
      ∃ raw, (fetch.run link s).1 = .ok raw ∧ token = strip raw ∧ token ∈ m.tokens

/-- The value that a response stands for is written as that response. -/
theorem map_interpret (hm : p.mapping = some m) (hseparated : m.Separated)
    {f : Value → String} (hf : ∀ value token, m.toWire value = some token → f value = token)
    (raw token : String) :
    (interpret p raw).map f = .ok token ↔ token = strip raw ∧ token ∈ m.tokens := by
  cases hread : interpret p raw with
  | error e =>
    obtain ⟨hforeign, -⟩ := (interpret_eq_error hm).mp hread
    simp only [Except.map, reduceCtorEq, false_iff, not_and]
    rintro rfl
    exact hforeign
  | ok value =>
    have hpair := Mapping.mem_of_fromWire ((interpret_eq_ok hm).mp hread)
    have hvalue : f value = strip raw := hf _ _ (hseparated.toWire_of_mem hpair)
    simp only [Except.map, Except.ok.injEq, hvalue]
    constructor
    · rintro rfl
      exact ⟨rfl, List.mem_map_of_mem hpair⟩
    · rintro ⟨rfl, -⟩
      rfl

namespace WellFormed

variable (hr : r.WellFormed) (hp : r.Declares name p)
include hr hp

/-- A parameter's value is what the response to the reading stands for. -/
theorem getThrough_declared (a : Access) : r.getThrough a name =
    (fetch a p).bind fun response => .done (response.bind (interpret p)) := by
  obtain ⟨template, hentry, -⟩ := hr.entry?_of_declares hp
  simp only [getThrough, hentry]
  rfl

theorem wireToken_mapped (hm : p.mapping = some m) {value : Value} {token : String}
    (htoken : m.toWire value = some token) : r.wireToken name value = token := by
  obtain ⟨template, hentry, -⟩ := hr.entry?_of_declares hp
  simp [wireToken, parameter?, hentry, hm, htoken]

theorem readsToken (hm : p.mapping = some m) (hseparated : m.Separated) (a : Access) :
    ReadsToken m (fetch a p) (r.getThrough a name) (r.getWireThrough a name) := by
  have hget := hr.getThrough_declared hp a
  have hwire : r.getWireThrough a name =
      (r.getThrough a name).bind fun value => .done (value.map (r.wireToken name)) := rfl
  refine ⟨fun link s => ?_, fun link s e => ?_, fun link s token => ?_⟩
  · have hcalls : (r.getWireThrough a name).exchanges link s =
        (r.getThrough a name).exchanges link s := by rw [hwire, exchanges_bind_done]
    refine ⟨hcalls, ?_, ?_⟩
    · rw [hcalls, hget, exchanges_bind_done]
    · rw [hwire, run_bind, run_done]
  · rw [hwire, run_bind, run_done]
    cases ((r.getThrough a name).run link s).1 <;> simp [Except.map]
  · rw [hwire, run_bind, run_done, hget, run_bind, run_done]
    cases hraw : ((fetch a p).run link s).1 with
    | error e => simp [Except.bind, Except.map]
    | ok raw =>
      have hread := map_interpret hm hseparated (fun _ _ => hr.wireToken_mapped hp hm) raw token
      simpa [Except.bind] using hread

end WellFormed

/-- Reading the token of a mapped parameter gives back what the instrument answered, as long as the
keys of the mapping are told apart.  This goes for the reading that a caller asks for and, at any
depth, for the reading that a routine asks for. -/
theorem token_readings_give_responses (calls : List Registration) (name : String) (p : Parameter)
    (m : Mapping) (hp : (after {} calls).Declares name p) (hm : p.mapping = some m)
    (hseparated : m.Separated) :
    let r := after {} calls
    ReadsToken m (fetch (r.access (2 * r.entries.length)) p) (r.get name) (r.getWire name) ∧
    ∀ depth, ReadsToken m (fetch (r.access depth) p) ((r.access (depth + 1)).get name)
      ((r.access (depth + 1)).getWire name) := by
  intro r
  have hr : r.WellFormed := (grows_after {} calls).wellFormed wellFormed_empty
  exact ⟨hr.readsToken hp hm hseparated _, fun depth => hr.readsToken hp hm hseparated _⟩

/-- A switch with two words for the same state. -/
def lampParameter : Parameter where
  name := "lamp"
  getter := .custom (Parameter.switchState "LAMP?")
  mapping := some ⟨[(.text "ON", "ON"), (.text "BRIGHT", "ON"), (.text "OFF", "OFF")]⟩

/-- The state of a switch, read by a routine, and an answer that is no state. -/
theorem token_readings_give_responses_lamp :
    let m : Mapping := ⟨[(.text "ON", "ON"), (.text "BRIGHT", "ON"), (.text "OFF", "OFF")]⟩
    let r := after {} [.parameter lampParameter]
    r.Declares "lamp" lampParameter ∧ m.Separated ∧
      ((r.getWire "lamp").run Scripted.link { script := [" 1\r\n"] }).1 = .ok "ON" ∧
      (r.getWire "lamp").exchanges Scripted.link { script := [" 1\r\n"] } =
        [⟨.query "LAMP?", .ok " 1\r\n"⟩] ∧
      ((r.getWire "lamp").run Scripted.link { script := ["2"] }).1 =
        .error (.unmapped "lamp" "2") := by
  intro m r
  have hp : r.Declares "lamp" lampParameter := ⟨List.mem_singleton.mpr rfl, rfl⟩
  have hm : m.Separated := ⟨by decide, by decide⟩
  obtain ⟨hcalls, herror, htoken⟩ :=
    (token_readings_give_responses [.parameter lampParameter] "lamp" lampParameter m hp rfl hm).1
  refine ⟨hp, hm, ?_, ?_, ?_⟩
  · exact (htoken Scripted.link _ "ON").mpr ⟨"ON", rfl, by decide, by decide⟩
  · exact (hcalls Scripted.link _).1.trans rfl
  · exact (herror Scripted.link _ _).mpr rfl

end Registry

end InstrumentControl
