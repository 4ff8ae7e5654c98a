import InstrumentControl.Catalogue.Known
import InstrumentControl.Proofs.Model.Mcls
import InstrumentControl.Proofs.Registry.Asking

/-! The tables of the known models.  Most parameters have no custom routines but getters that query
the instrument themselves.  The parameters of a multimeter's measurement function and the current of
a laser diode are set after another parameter was read.  So all routines of all tables begin by
asking the instrument. -/

namespace InstrumentControl

open Conversation

namespace Parameter

/-- No routine sets the parameter, and one that reads it queries the instrument itself. -/
structure AsksItself (p : Parameter) : Prop where
  getter : ∀ script, p.getter = .custom script → ∀ a : Access,
    Asks GetError.link (a.runScript script)
  setter : ∀ script, p.setter ≠ .custom script

theorem AsksItself.asking {r : Registry} {p : Parameter} (h : p.AsksItself) : p.Asking r where
  getter script hscript _ := h.getter script hscript _
  setter script hscript := absurd hscript (h.setter script)

section

variable (name label command : String) (p : Parameter)

@[simp] theorem asksItself_reading : (reading name label command).AsksItself := ⟨nofun, nofun⟩

@[simp] theorem asksItself_action : (action name label command).AsksItself := ⟨nofun, nofun⟩

@[simp] theorem asksItself_scpi : (scpi name label command).AsksItself := ⟨nofun, nofun⟩

@[simp] theorem asksItself_assigned : (assigned name label command).AsksItself := ⟨nofun, nofun⟩

theorem asks_switchState (query : String) (a : Access) :
    Asks GetError.link (a.runScript (switchState query)) := ⟨query, _, rfl, fun _ => rfl⟩

@[simp] theorem asksItself_switch (query : String) :
    (switch name label query command).AsksItself where
  getter script hscript a := by
    cases hscript
    exact asks_switchState query a
  setter := nofun

@[simp] theorem asksItself_inUnit (unit : String) : (p.inUnit unit).AsksItself ↔ p.AsksItself :=
  ⟨fun h => ⟨h.getter, h.setter⟩, fun h => ⟨h.getter, h.setter⟩⟩

@[simp] theorem asksItself_mapped (m : Mapping) : (p.mapped m).AsksItself ↔ p.AsksItself := by
  unfold mapped
  split
  · rfl
  · exact ⟨fun h => ⟨h.getter, h.setter⟩, fun h => ⟨h.getter, h.setter⟩⟩

@[simp] theorem asksItself_parsed (format : ResponseFormat) :
    (p.parsed format).AsksItself ↔ p.AsksItself :=
  ⟨fun h => ⟨h.getter, h.setter⟩, fun h => ⟨h.getter, h.setter⟩⟩

@[simp] theorem asksItself_valued (domain : Domain) (format : ResponseFormat) :
    (p.valued domain format).AsksItself ↔ p.AsksItself :=
  ⟨fun h => ⟨h.getter, h.setter⟩, fun h => ⟨h.getter, h.setter⟩⟩

@[simp] theorem asksItself_within (min max : Float) :
    (p.within min max).AsksItself ↔ p.AsksItself := asksItself_valued p _ _

end

end Parameter

open Parameter

theorem B2902b.asksItself : ∀ p ∈ model.parameters, p.AsksItself := by
  have hsettings : ∀ p ∈ settings, p.AsksItself := by
    rw [settings, List.forall_mem_cons]
    exact ⟨⟨nofun, nofun⟩, by simp [quantity]⟩
  rw [model]
  simp only [List.forall_mem_append]
  exact ⟨⟨⟨⟨⟨by simp, by simp [channels, outputSwitch]⟩, hsettings⟩,
    by simp [channels, voltages, quantity]⟩, by simp [channels, currents, quantity]⟩,
    by simp [channels, measurements]⟩

theorem Hmc8043.asksItself : ∀ p ∈ model.parameters, p.AsksItself := by
  rw [show model.parameters = parameters from rfl, parameters]
  simp only [List.forall_mem_cons]
  refine ⟨by simp, by simp, ⟨fun script hscript a => ?_, nofun⟩, by simp⟩
  cases hscript
  exact ⟨"INST:SEL?", _, rfl, fun cause => rfl⟩

theorem Hmf2550.asksItself : ∀ p ∈ model.parameters, p.AsksItself := by
  simp [model, keywords, quantities, quantity, keyword, waveform]

theorem Mc2000b.asksItself : ∀ p ∈ model.parameters, p.AsksItself := by
  simp [model, parameters]

theorem MokuGo.asksItself : ∀ p ∈ model.parameters, p.AsksItself := by
  simp [model, commonParameters, oscilloscope, generator, spectrum, acquisition, trigger, quantity,
    keyword]

namespace Dmm6500

/-- The parameter is one of the measurement function in use. -/
def OfFunction (p : Parameter) : Prop :=
  ∃ label command, p.getter = (modeParameter p.name label command).getter ∧
    p.setter = (modeParameter p.name label command).setter

section

variable (name label command : String) (p : Parameter)

@[simp] theorem ofFunction_modeParameter : OfFunction (modeParameter name label command) :=
  ⟨label, command, rfl, rfl⟩

@[simp] theorem ofFunction_inUnit (unit : String) : OfFunction (p.inUnit unit) ↔ OfFunction p :=
  Iff.rfl

@[simp] theorem ofFunction_valued (domain : Domain) (format : ResponseFormat) :
    OfFunction (p.valued domain format) ↔ OfFunction p := Iff.rfl

@[simp] theorem ofFunction_within (min max : Float) :
    OfFunction (p.within min max) ↔ OfFunction p := Iff.rfl

end

/-- The parameter that tells the measurement function. -/
def mode : Parameter where
  name := "mode"
  label := some "Measurement Function"
  getter := .custom readMode
  setter := .template ("SENS:FUNC '" ++ valueSite ++ "'")
  mapping := some (.ofWords modeWords)

theorem asks_readMode (a : Access) : Asks GetError.link (a.runScript readMode) :=
  ⟨"SENS:FUNC?", _, rfl, fun _ => rfl⟩

theorem mem_parameters : ∀ p ∈ model.parameters, p.AsksItself ∨ OfFunction p := by
  have hmode : mode.AsksItself := by
    refine ⟨fun script hscript a => ?_, nofun⟩
    cases hscript
    exact asks_readMode a
  have hmodes : ∀ p ∈ modeParameters, p.AsksItself ∨ OfFunction p := by
    rw [modeParameters, List.forall_mem_cons]
    exact ⟨.inl hmode, by simp⟩
  rw [show model.parameters = parameters from rfl, parameters]
  simp only [List.forall_mem_append]
  exact ⟨⟨⟨⟨⟨by simp, hmodes⟩, by simp [displayParameters]⟩, by simp [scanCount]⟩,
    by simp [timerParameters]⟩, by simp⟩

theorem mode_mem_parameters : mode ∈ model.parameters := by
  have hmodes : mode ∈ modeParameters := List.mem_cons_self
  rw [show model.parameters = parameters from rfl, parameters]
  simp only [List.mem_append]
  exact .inl (.inl (.inl (.inl (.inr hmodes))))

variable {r : Registry}

theorem asks_activeFunction (hr : r.WellFormed) (hmode : r.Declares "mode" mode) (depth : Nat) :
    Asks GetError.link ((r.access (depth + 1)).getWire "mode") := by
  obtain ⟨template, hentry, -⟩ := hr.entry?_of_declares hmode
  have hget : Asks GetError.link (r.getThrough (r.access depth) "mode") := by
    rw [Registry.getThrough, hentry]
    exact (asks_readMode _).bind fun cause => rfl
  exact hget.bind fun cause => rfl

theorem OfFunction.asking (hr : r.WellFormed) (hmode : r.Declares "mode" mode) {p : Parameter}
    (hp : OfFunction p) : p.Asking r := by
  obtain ⟨label, command, hgetter, hsetter⟩ := hp
  constructor
  · intro script hscript depth
    rw [hgetter] at hscript
    cases hscript
    exact (asks_activeFunction hr hmode depth).bind fun cause => rfl
  · intro script hscript value token _ depth
    rw [hsetter] at hscript
    cases hscript
    exact (asks_activeFunction hr hmode depth).bind fun cause => rfl

theorem asking (hr : r.WellFormed) (hentries : r.entries.map Entry.parameter = model.parameters) :
    r.Asking where
  wellFormed := hr
  parameters p hp := by
    have hmode : r.Declares "mode" mode := ⟨hentries ▸ mode_mem_parameters, rfl⟩
    exact (mem_parameters p (hentries ▸ hp)).elim AsksItself.asking (OfFunction.asking hr hmode)

end Dmm6500

theorem Mcls.IsTable.asking {r : Registry} (hr : Mcls.IsTable r) : r.Asking where
  wellFormed := hr.wellFormed
  parameters p hp := by
    obtain ⟨hgetter, hsetter, -⟩ := Mcls.of_mem_parameters (hr.entries ▸ hp)
    refine ⟨fun script hscript => absurd hscript (hgetter script), ?_⟩
    intro script hscript value token htoken depth
    obtain rfl := hsetter script hscript
    cases hscript
    obtain rfl := (Mcls.current_accepts.mp htoken).1
    rw [hr.runScript_setCurrent]
    exact ⟨"channel?", _, rfl, fun cause => rfl⟩

namespace Catalogue

theorem mem_of_get?_register {c : Catalogue} {models : List Model} {type : String} {m : Model}
    (h : (models.foldl register c).get? type = some m) : m ∈ models ∨ c.get? type = some m := by
  induction models generalizing c with
  | nil => exact .inr h
  | cons first models ih =>
    rcases ih h with hmem | hfirst
    · exact .inl (List.mem_cons_of_mem first hmem)
    · by_cases htype : type = first.type
      · rw [register, htype, Keyed.get?_insert_self, Option.some.injEq] at hfirst
        exact .inl (hfirst ▸ List.mem_cons_self)
      · rw [register, Keyed.get?_insert_ne htype] at hfirst
        exact .inr hfirst

theorem mem_of_get?_ofModels {models : List Model} {type : String} {m : Model}
    (h : (ofModels models).get? type = some m) : m ∈ models :=
  (mem_of_get?_register h).elim id nofun

theorem registry_eq_ok {c : Catalogue} {type : String} {m : Model} {r : Registry}
    (hm : c.require type = .ok m) (hbuild : Registry.build m.parameters m.functions = .ok r) :
    c.registry type = .ok r := by
  have hresult : c.registry type =
      (Registry.build m.parameters m.functions).mapError (.table type) := by
    rw [registry, hm]
    rfl
  rw [hresult, hbuild]
  rfl

/-- The table of a type is that of a model. -/
theorem exists_model_of_registry {models : List Model} {type : String} {r : Registry}
    (h : (ofModels models).registry type = .ok r) :
    ∃ m ∈ models, Registry.build m.parameters m.functions = .ok r := by
  cases hfound : (ofModels models).get? type with
  | none =>
    rw [registry, require, hfound] at h
    cases h
  | some m =>
    rw [registry, require, hfound] at h
    refine ⟨m, mem_of_get?_ofModels hfound, ?_⟩
    have hresult : (Registry.build m.parameters m.functions).mapError (OpenError.table type) =
        .ok r := h
    cases hbuild : Registry.build m.parameters m.functions with
    | error cause =>
      rw [hbuild] at hresult
      cases hresult
    | ok built =>
      rw [hbuild] at hresult
      cases hresult
      rfl

/-- In the tables of all known models, every routine begins by asking the instrument. -/
theorem asking_of_known {type : String} {r : Registry} (h : known.registry type = .ok r) :
    r.Asking := by
  obtain ⟨m, hm, hbuild⟩ := exists_model_of_registry h
  obtain ⟨hr, hentries, hfunctions⟩ := Registry.build_eq_ok hbuild
  have hitself (hparameters : ∀ p ∈ m.parameters, p.AsksItself) : r.Asking :=
    ⟨hr, fun p hp => (hparameters p (hentries ▸ hp)).asking⟩
  simp only [List.mem_cons, List.not_mem_nil, or_false] at hm
  rcases hm with rfl | rfl | rfl | rfl | rfl | rfl | rfl
  · exact hitself B2902b.asksItself
  · exact Dmm6500.asking hr hentries
  · exact hitself Hmc8043.asksItself
  · exact hitself Hmf2550.asksItself
  · exact hitself Mc2000b.asksItself
  · exact Mcls.IsTable.asking ⟨hr, hentries, List.map_eq_nil_iff.mp hfunctions⟩
  · exact hitself MokuGo.asksItself

theorem models_known : known.models = [B2902b.model, Hmc8043.model, Hmf2550.model, Dmm6500.model,
    Mc2000b.model, Mcls.model, MokuGo.model] := rfl

theorem isOk_build : ∀ m ∈ known.models, (Registry.build m.parameters m.functions).isOk = true := by
  rw [models_known]
  simp only [List.forall_mem_cons]
  -- one evaluation for each table
  refine ⟨?_, ?_, ?_, ?_, ?_, ?_, ?_, nofun⟩ <;> decide +kernel

theorem require_known : ∀ m ∈ known.models, known.require m.type = .ok m := by
  rw [models_known]
  simp only [List.forall_mem_cons]
  exact ⟨rfl, rfl, rfl, rfl, rfl, rfl, rfl, nofun⟩

theorem exists_known_table {m : Model} (hm : m ∈ known.models) :
    ∃ r, known.registry m.type = .ok r ∧ Registry.build m.parameters m.functions = .ok r := by
  have hok := isOk_build m hm
  cases hbuild : Registry.build m.parameters m.functions with
  | error cause =>
    rw [hbuild] at hok
    cases hok
  | ok r => exact ⟨r, registry_eq_ok (require_known m hm) hbuild, rfl⟩

end Catalogue

end InstrumentControl
