import InstrumentControl.Proofs.Registry.Calling
import InstrumentControl.Proofs.Template.Segment

/-! Functions from their declaration to their command.  Where the template of a function is that of a
draft, the function is registered exactly if its name is new and the draft has a site for each of its
arguments and no other; the order in which the sites are compared with the arguments plays no part as
long as a word counts the arguments.  Every later call of it with arguments that fit sends one
command: the draft with the wire texts of the arguments in it. -/

namespace InstrumentControl.Registry

open Template

variable {draft : Draft} {f : Function}

/-- A draft is the template of a function if it has the sites of the arguments. -/
theorem exists_wellFormed_iff (hf : f.template = String.ofList draft.source)
    (hfew : f.arguments.length ≤ greatestWord + 1) :
    (∃ t, FunctionEntry.WellFormed ⟨f, t⟩) ↔ Text.trim draft.source ≠ [] ∧
      ∀ key, key ∈ draft.keys ↔ ∃ i < f.arguments.length, key = Decimal.decimalText i := by
  constructor
  · rintro ⟨t, ht, hsites, -⟩
    replace ht : parse (String.ofList draft.source) = .ok t := hf ▸ ht
    exact ⟨exists_parse_source.mp ⟨t, ht⟩, fun key => (mem_keys_source ht).symm.trans (hsites key)⟩
  · rintro ⟨hblank, hsites⟩
    obtain ⟨t, ht⟩ := exists_parse_source.mpr hblank
    have hparse : parse f.template = .ok t := hf.symm ▸ ht
    exact ⟨t, FunctionEntry.wellFormed_of_sites hfew hparse fun key =>
      (mem_keys_source ht).trans (hsites key)⟩

/-- Arguments that fit give the command of the draft with their wire texts in it. -/
theorem exists_commandFor {entry : FunctionEntry} (hentry : entry.WellFormed)
    (hsource : entry.function.template = String.ofList draft.source) {values : List Value}
    (hfit : Fit entry.function.arguments values) : ∃ token : String → String,
      (∀ (i : Nat) value, values[i]? = some value → token (Decimal.decimalText i) = value.toWire) ∧
      commandFor entry values = .ok (String.ofList (draft.command token)) := by
  have ht : parse (String.ofList draft.source) = .ok entry.template := hsource ▸ hentry.template
  let named (key : String) : Option String :=
    (((values.map Value.toWire).zipIdx).find? fun p => argumentKey p.2 = key).map Prod.fst
  have hnamed : ∀ (i : Nat) value, values[i]? = some value →
      named (Decimal.decimalText i) = some value.toWire := fun i value hvalue => by
    rw [show named (Decimal.decimalText i) = _ from argumentToken_eq _ i, List.getElem?_map, hvalue]
    rfl
  refine ⟨fun key => (named key).getD "", fun i value hvalue => ?_,
    commandFor_eq_ok.mpr ⟨hfit, render_source ht fun key hkey => ?_⟩⟩
  · simp only [hnamed i value hvalue, Option.getD_some]
  · -- a site of the draft is that of an argument, and there are as many arguments as domains
    obtain ⟨i, hi, rfl⟩ := (hentry.sites key).mp ((mem_keys_source ht).mpr hkey)
    have hplace : i < values.length := hfit.length_eq ▸ hi
    have hsite := hnamed i values[i] (List.getElem?_eq_getElem hplace)
    exact hsite.trans (congrArg some (by rw [hsite, Option.getD_some]))

/-- A table that was built in any way takes a function whose template is that of a draft exactly if
the name is new and the sites are those of the arguments, in any order and number; the arguments are
no more than a word counts, as in any list that is held in memory.  From then on, a call with
arguments that fit sends the draft with their wire texts in it, once, and succeeds exactly if that
does; a call with others makes no call on the link and is refused for their number or for the first
that does not fit. -/
theorem registered_functions_send_once (calls : List Registration) (draft : Draft) (name : String)
    (arguments : List Domain) (doc : Option String) :
    let r := after {} calls
    let f : Function := ⟨name, String.ofList draft.source, arguments, doc⟩
    (arguments.length ≤ greatestWord + 1 → ((∃ r', r.registerFunction f = .ok r') ↔
      name ∉ r.names ++ r.functionNames ∧ Text.trim draft.source ≠ [] ∧
        ∀ key, key ∈ draft.keys ↔ ∃ i < arguments.length, key = Decimal.decimalText i)) ∧
    ∀ r' more, r.registerFunction f = .ok r' → ∀ values,
      let call := (r'.after more).call name values
      (Fit arguments values → ∃ token : String → String,
        (∀ (i : Nat) value, values[i]? = some value →
          token (Decimal.decimalText i) = value.toWire) ∧
        ∀ {σ : Type} (link : Link σ) (s : σ),
          let command := String.ofList (draft.command token)
          let reply := (link (.send command) s).1
          call.exchanges link s = [⟨.send command, reply⟩] ∧
            (call.run link s).1 = reply.mapError .link ∧
            ((call.run link s).1 = .ok () ↔ reply = .ok ())) ∧
      (¬ Fit arguments values → ∃ e, Misfit f values e ∧ ∀ {σ : Type} (link : Link σ) (s : σ),
        call.exchanges link s = [] ∧ call.run link s = (.error e, s)) := by
  intro r f
  have hr : r.WellFormed := (grows_after {} calls).wellFormed wellFormed_empty
  refine ⟨fun hfew => ?_, fun r' more h values => ?_⟩
  · rw [← exists_wellFormed_iff (f := f) rfl hfew]
    constructor
    · rintro ⟨r', h⟩
      obtain ⟨t, -, hname, hf⟩ := (registerFunction_eq_ok hr).mp h
      exact ⟨hname, t, hf⟩
    · rintro ⟨hname, t, hf⟩
      exact ⟨_, (registerFunction_eq_ok hr).mpr ⟨t, rfl, hname, hf⟩⟩
  · intro call
    obtain ⟨t, hf, hfound⟩ := functionEntry?_after_registerFunction hr h more
    constructor
    · intro hfit
      obtain ⟨token, htoken, hcommand⟩ := exists_commandFor hf rfl hfit
      refine ⟨token, htoken, fun link s => ?_⟩
      intro command reply
      have hcall : call = do return (← Conversation.send command).mapError .link :=
        call_commanded hfound hcommand
      have hresult : (call.run link s).1 = reply.mapError .link := by
        rw [hcall]
        rfl
      refine ⟨?_, hresult, ?_⟩
      · rw [hcall]
        rfl
      · rw [hresult, mapError_eq_ok]
    · intro hmisfit
      rcases commandFor_cases ⟨f, t⟩ values with ⟨e, he, hcommand⟩ | ⟨hfit, -⟩
      · have hcall : call = return .error e := call_refused hfound hcommand
        refine ⟨e, he, fun link s => ?_⟩
        rw [hcall]
        exact ⟨rfl, rfl⟩
      · exact absurd hfit hmisfit

/-- A mask of eleven bits, with the sites in falling order. -/
def maskSegments : List Segment :=
  .literal "MASK " :: (List.range 11).reverse.map fun i => .site (.argument i)

/-- The mask is registered, its last bit is sent first, and ten bits are no mask. -/
theorem registered_functions_send_once_mask :
    let draft : Draft := maskSegments.map Segment.part
    let mask : Function := ⟨"mask", String.ofList draft.source, List.replicate 11 .bool, none⟩
    let bits (count : Nat) : List Value := List.replicate count (.bool false) ++ [.bool true]
    Fit mask.arguments (bits 10) ∧ ¬ Fit mask.arguments (bits 9) ∧
    ∃ r, Registry.registerFunction {} mask = .ok r ∧
      (r.call "mask" (bits 10)).exchanges (Link.parrot "") () =
        [⟨.send "MASK 10000000000", .ok ()⟩] ∧
      ((r.call "mask" (bits 10)).run (Link.parrot "") ()).1 = .ok () ∧
      (r.call "mask" (bits 9)).exchanges (Link.parrot "") () = [] := by
  intro draft mask bits
  have hfit : Fit mask.arguments (bits 10) := by simp [mask, bits, Domain.check]
  have hmisfit : ¬ Fit mask.arguments (bits 9) := fun h => absurd h.length_eq (by decide)
  have hsites : ∀ key, key ∈ draft.keys ↔ ∃ i < 11, key = Decimal.decimalText i := by
    intro key
    rw [mem_keys_part]
    simp [maskSegments, Site.key, argumentKey]
  obtain ⟨hregister, hcall⟩ :=
    registered_functions_send_once [] draft "mask" (List.replicate 11 .bool) none
  obtain ⟨r, hr⟩ := (hregister (by decide)).mpr ⟨List.not_mem_nil, by decide, hsites⟩
  obtain ⟨token, htoken, hsent⟩ := (hcall r [] hr (bits 10)).1 hfit
  obtain ⟨e, -, hrefused⟩ := (hcall r [] hr (bits 9)).2 hmisfit
  let named (s : Site) : String := (Value.bool (s = .argument 10)).toWire
  have hcommand : String.ofList (draft.command token) = "MASK 10000000000" := by
    have hnamed : ∀ s, Segment.site s ∈ maskSegments → token s.key = named s := by
      intro s hs
      obtain ⟨i, hi, rfl⟩ : ∃ i < 11, Site.argument i = s := by simpa [maskSegments] using hs
      have hbit : (bits 10)[i]? = some (.bool (i = 10)) := by
        revert i
        decide
      exact (htoken i _ hbit).trans (by simp [named])
    rw [← meant_eq hnamed]
    decide
  rw [hcommand] at hsent
  obtain ⟨hlog, -, hok⟩ := hsent (Link.parrot "") ()
  exact ⟨hfit, hmisfit, r, hr, hlog, hok.mpr rfl, (hrefused _ _).1⟩

end InstrumentControl.Registry
