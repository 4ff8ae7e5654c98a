import InstrumentControl.Proofs.CommandLine.Arguments
import InstrumentControl.Proofs.CommandLine.Routing
import InstrumentControl.Proofs.Model.Positive
import InstrumentControl.Proofs.Registry.Calling

/-! Numbers on the command line.  A number with a minus sign has a leading dash, so it is taken for an
option and the arguments are refused, unless the separator stands before it. -/

namespace InstrumentControl

open Decimal

namespace Decimal

variable {s : List Char} {q : ℚ}

/-- A literal begins with no dash, or with the dash of a number that is not above zero.  Neither a
second dash nor a letter follows. -/
theorem Writes.head_cases (h : Writes s q) : (∃ c rest, s = c :: rest ∧ c ≠ '-') ∨
    (∃ c rest, s = '-' :: c :: rest ∧ c ≠ '-' ∧ c ≠ 'h') ∧ q ≤ 0 := by
  obtain ⟨negative, c, e, hliteral, rfl⟩ := h
  obtain @⟨_, sign, whole, ds, fraction, exponent, _, hsign, hwhole, hfraction, hne, -⟩ := hliteral
  obtain ⟨c, rest, heq, hc⟩ := exists_head_number hwhole hfraction hne exponent
  have hother {c' : Char} (hnot : ¬ (c'.isDigit = true ∨ c' = '.')) : c ≠ c' := fun heq =>
    hnot (heq ▸ hc)
  have hdash : c ≠ '-' := hother (by decide)
  rw [heq]
  cases hsign with
  | none => exact .inl ⟨c, rest, rfl, hdash⟩
  | plus => exact .inl ⟨'+', c :: rest, rfl, by decide⟩
  | minus =>
    refine .inr ⟨⟨c, rest, rfl, hdash, hother (by decide)⟩, ?_⟩
    rw [signed, if_pos rfl]
    exact neg_nonpos.mpr (by positivity)

end Decimal

namespace CommandLine

variable {text device name : String} {texts arguments : List String} {q : ℚ}

/-- The text writes a number, between blanks if need be. -/
def IsNumber (text : String) : Prop := ∃ q, Writes (Text.trim text.toList) q

/-- A number with a leading dash is a short option, and it is not positive. -/
theorem isShort_of_writes (h : Writes (Text.trim text.toList) q) (hdashed : isDashed text = true) :
    IsShort text ∧ q ≤ 0 := by
  obtain ⟨c, rest, htext⟩ := isDashed_iff.mp hdashed
  -- no blank stands before the dash, so the literal begins with it
  have hstart : Text.trimStart text.toList = text.toList := by
    rw [htext]
    exact Text.trimStart_cons_eq_self.mpr (by decide)
  obtain ⟨after, -, hafter⟩ := Text.exists_blank_trimEnd text.toList
  rw [Text.trim, hstart] at h
  rcases h.head_cases with ⟨c', rest', hs, hne⟩ | ⟨⟨c', rest', hs, hne⟩, hq⟩
  · rw [hs, htext, List.cons_append] at hafter
    exact absurd (List.cons.inj hafter).1.symm hne
  · rw [hs] at hafter
    exact ⟨⟨c', rest' ++ after, hafter, hne⟩, hq⟩

theorem IsNumber.isShort (h : IsNumber text) (hdashed : isDashed text = true) : IsShort text := by
  obtain ⟨q, hq⟩ := h
  exact (isShort_of_writes hq hdashed).1

theorem IsNumber.not_isDashed (h : IsNumber text) (hpositive : ¬ (Value.infer text).NotPositive) :
    isDashed text = false := by
  obtain ⟨q, hq⟩ := h
  rw [Bool.eq_false_iff]
  exact fun hdashed => hpositive (Value.notPositive_infer hq (isShort_of_writes hq hdashed).2)

/-! ### Running commands -/

/-- The arguments are read as the command.  A run with them does `act` on the device and ends as
that ends. -/
structure Performs {ε : Type} (arguments : List String) (command : Command) (device : String)
    (act : Registry → Conversation (Except ε Unit)) (failure : ε → Failure) : Prop where
  parsed : parse? arguments = some { command }
  performed {c : Catalogue} {s : Surroundings} {settings : Configuration} {d : DeviceConfig}
    {instrument : Instrument} {channel : Channel}
    (hsettings : ({ command } : Invocation).configuration c s = .ok settings)
    (hd : settings.device? device = some d)
    (hready : c.openDevice s.ports d = .ready instrument channel) :
    run c s arguments = match ((act instrument.registry).run Channel.link channel).1 with
      | .ok _ => { exitCode := 0 }
      | .error e => { exitCode := 1, report := (failure e).report.lines }

/-- The arguments set a parameter of the device to what the text stands for. -/
def Assigns (arguments : List String) (device name text : String) : Prop :=
  Performs arguments (.set device name text) device (·.set name (Value.infer text)) .set

/-- The arguments call a function of the device with what the texts stand for. -/
def Invokes (arguments : List String) (device name : String) (texts : List String) : Prop :=
  Performs arguments (.call device name texts) device (·.call name (texts.map Value.infer)) .call

/-- The arguments are not understood, and nothing is done. -/
def Refused (arguments : List String) : Prop :=
  parse? arguments = none ∧ ∀ c s, run c s arguments = { exitCode := 2 }

theorem refused_of_tokens? (h : tokens? arguments = none) : Refused arguments := by
  have hparse : parse? arguments = none := by
    rw [parse?, h]
    rfl
  have hhelp : asksHelp arguments = false := by rw [asksHelp, h]
  exact ⟨hparse, fun c s => by simp [run, hparse, hhelp]⟩

section

variable {ε : Type} {command : Command} {act : Registry → Conversation (Except ε Unit)}
  {failure : ε → Failure}

/-- A command on a device that does `act` there and prints nothing is performed when it is read. -/
theorem performs_of_parse? (hparse : parse? arguments = some { command })
    (hrun : ∀ c s, ({ command } : Invocation).run c s = ({ command } : Invocation).runOn c s device)
    (hperform : ∀ instrument, command.perform instrument false =
      (act instrument.registry).bind fun
        | .ok _ => .done (.ok "")
        | .error e => .done (.error (failure e))) :
    Performs arguments command device act failure where
  parsed := hparse
  performed {c s _ d instrument channel} hsettings hd hready := by
    have hopen : ({ command } : Invocation).run c s =
        ((command.perform instrument false).run Channel.link channel).1 := by
      rw [hrun, Invocation.runOn_eq hsettings, hd]
      simp [Invocation.runOpen, hready]
    rw [run, hparse]
    simp only [hopen, hperform, Conversation.run_bind]
    cases ((act instrument.registry).run Channel.link channel).1 <;> rfl

end

theorem assigns_iff : Assigns arguments device name text ↔
    parse? arguments = some { command := .set device name text } := by
  refine ⟨Performs.parsed, fun h => performs_of_parse? h (fun _ _ => rfl) fun _ => ?_⟩
  exact congrArg (Program.bind _) (funext fun result => by cases result <;> rfl)

theorem invokes_iff : Invokes arguments device name texts ↔
    parse? arguments = some { command := .call device name texts } := by
  refine ⟨Performs.parsed, fun h => performs_of_parse? h (fun _ _ => rfl) fun _ => ?_⟩
  exact congrArg (Program.bind _) (funext fun result => by cases result <;> rfl)

/-! ### Known models -/

/-- No parameter and no function of a known model has a name with a leading dash. -/
theorem not_isDashed_of_known : ∀ m ∈ Catalogue.known.models,
    (∀ p ∈ m.parameters, isDashed p.name = false) ∧
      ∀ f ∈ m.functions, isDashed f.name = false := by
  have hall : Catalogue.known.models.all fun m =>
      (m.parameters.all fun p => !isDashed p.name) &&
        m.functions.all fun f => !isDashed f.name := by decide +kernel
  simpa [List.all_eq_true] using hall

/-- Without the separator a number is given to a parameter or to a function of a known model exactly
if neither the id of the device nor the number has a leading dash, and a number that has one is
refused.  After the separator every number is given.  What takes positive numbers only is not
affected, so no call is. -/
theorem negated_numbers_need_separator {m : Model} (hm : m ∈ Catalogue.known.models)
    (device : String) :
    (∀ p ∈ m.parameters, ∀ text, IsNumber text →
      (Assigns ["set", device, p.name, text] device p.name text ↔
        isDashed device = false ∧ isDashed text = false) ∧
      (isDashed device = false → isDashed text = true →
        Refused ["set", device, p.name, text]) ∧
      Assigns ["set", "--", device, p.name, text] device p.name text ∧
      (p.isPositive = true → (∃ token, p.Accepts (Value.infer text) token) →
        isDashed text = false)) ∧
    ∀ f ∈ m.functions, ∀ texts, (∀ text ∈ texts, IsNumber text) →
      (Invokes ("call" :: device :: f.name :: texts) device f.name texts ↔
        isDashed device = false ∧ ∀ text ∈ texts, isDashed text = false) ∧
      (isDashed device = false → (∃ text ∈ texts, isDashed text = true) →
        Refused ("call" :: device :: f.name :: texts)) ∧
      Invokes ("call" :: "--" :: device :: f.name :: texts) device f.name texts ∧
      (Registry.Fit f.arguments (texts.map Value.infer) → ∀ text ∈ texts, isDashed text = false) := by
  obtain ⟨hparameters, hfunctions⟩ := not_isDashed_of_known m hm
  refine ⟨fun p hp text hnumber => ⟨?_, fun hdevice hdashed => ?_, ?_, ?_⟩,
    fun f hf texts hnumbers => ⟨?_, fun hdevice hdashed => ?_, ?_, ?_⟩⟩
  · refine assigns_iff.trans ((parse?_iff (.set device p.name text)).trans ?_)
    simp [Command.arguments, hparameters p hp]
  · refine refused_of_tokens? (tokens?_eq_none_of_short (by decide) ?_ ?_) <;>
      simp [hdevice, hparameters p hp, hdashed, hnumber.isShort hdashed]
  · exact assigns_iff.mpr (parse?_separated (.set device p.name text))
  · rintro hpositive ⟨token, haccepts⟩
    exact hnumber.not_isDashed fun hv => p.not_accepts_of_isPositive hpositive hv haccepts
  · refine invokes_iff.trans ((parse?_iff (.call device f.name texts)).trans ?_)
    simp [Command.arguments, hfunctions f hf]
  · refine refused_of_tokens? (tokens?_eq_none_of_short (by decide) ?_ ?_)
    · simpa [hdevice, hfunctions f hf] using fun text htext => (hnumbers text htext).isShort
    · simpa [hdevice, hfunctions f hf] using hdashed
  · exact invokes_iff.mpr (parse?_separated (.call device f.name texts))
  · intro hfit text htext
    obtain ⟨d, hd, htakes⟩ := hfit.exists_domain (List.mem_map_of_mem htext)
    have hpositive := Catalogue.isPositive_of_known m hm f hf d hd
    exact (hnumbers text htext).not_isDashed fun hv =>
      Domain.not_check_of_isPositive hv d hpositive htakes

/-- The offset of a generator, which may be negative. -/
def offset : Parameter :=
  Hmf2550.quantity "voltage_offset" "Voltage Offset" "V" "VOLT:OFFS" (-10) 10

/-- The amplitude of a generator. -/
def amplitude : Parameter := Hmf2550.quantity "voltage" "Voltage" "V" "VOLT" 1e-2 20

theorem mem_generator : Hmf2550.model ∈ Catalogue.known.models ∧
    offset ∈ Hmf2550.model.parameters ∧ amplitude ∈ Hmf2550.model.parameters := by
  refine ⟨by simp [Catalogue.models_known], ?_, ?_⟩ <;>
    simp [Hmf2550.model, Hmf2550.quantities, offset, amplitude]

theorem isNumber_two : IsNumber "2" := ⟨_, false, 2, 0, read?_eq_some.mp (by decide), rfl⟩

theorem isNumber_neg_two : IsNumber "-2" := ⟨_, true, 2, 0, read?_eq_some.mp (by decide), rfl⟩

/-- The generator of the laboratory can be opened. -/
theorem laboratory_opens : ∃ settings d instrument channel,
    ({ command := .set "generator" offset.name "2" } : Invocation).configuration .known
      Configuration.laboratory = .ok settings ∧
    settings.device? "generator" = some d ∧
    Catalogue.known.openDevice Configuration.laboratory.ports d = .ready instrument channel := by
  have hopen : (({ command := .set "generator" offset.name "2" } :
      Invocation).configuration .known Configuration.laboratory).toOption.any
        (fun settings => (settings.device? "generator").any fun d =>
          match Catalogue.known.openDevice Configuration.laboratory.ports d with
          | .failed .. => false
          | .ready .. => true) = true := by decide +kernel
  obtain ⟨settings, hsettings, hdevice⟩ := exists_ok_of_any hopen
  obtain ⟨d, hd, hready⟩ := (Option.any_eq_true _ _).mp hdevice
  split at hready
  · cases hready
  · next instrument channel heq => exact ⟨settings, d, instrument, channel, hsettings, hd, heq⟩

/-- The offset of a generator is set to a voltage, and to the opposite one after the separator only.
A supply is given a voltage and a current. -/
theorem negated_numbers_need_separator_laboratory :
    (Assigns ["set", "generator", offset.name, "2"] "generator" offset.name "2" ∧
      Refused ["set", "generator", offset.name, "-2"] ∧
      Assigns ["set", "--", "generator", offset.name, "-2"] "generator" offset.name "-2") ∧
    (amplitude.isPositive = true ∧ amplitude.Accepts (Value.infer "2") "2" ∧
      isDashed "2" = false) ∧
    (∃ f ∈ Hmc8043.model.functions, f.name = "apply" ∧
      Registry.Fit f.arguments (["2", "2"].map Value.infer) ∧
      (∀ text ∈ ["2", "2"], isDashed text = false) ∧
      Invokes ["call", "psu", f.name, "2", "2"] "psu" f.name ["2", "2"] ∧
      Refused ["call", "psu", f.name, "2", "-2"] ∧
      Invokes ["call", "--", "psu", f.name, "2", "-2"] "psu" f.name ["2", "-2"]) ∧
    ∃ settings d instrument channel,
      ({ command := .set "generator" offset.name "2" } : Invocation).configuration .known
        Configuration.laboratory = .ok settings ∧
      settings.device? "generator" = some d ∧
      Catalogue.known.openDevice Configuration.laboratory.ports d = .ready instrument channel := by
  obtain ⟨hgenerator, hoffset, hamplitude⟩ := mem_generator
  have hsupply : Hmc8043.model ∈ Catalogue.known.models := by simp [Catalogue.models_known]
  obtain ⟨hset, -⟩ := negated_numbers_need_separator hgenerator "generator"
  obtain ⟨-, hcall⟩ := negated_numbers_need_separator hsupply "psu"
  refine ⟨?_, ?_, ?_, laboratory_opens⟩
  · obtain ⟨hplain, -⟩ := hset _ hoffset "2" isNumber_two
    obtain ⟨-, hrefused, hseparated, -⟩ := hset _ hoffset "-2" isNumber_neg_two
    exact ⟨hplain.mpr (by decide), hrefused (by decide) (by decide), hseparated⟩
  · have hpositive : amplitude.isPositive = true := by decide +kernel
    have htoken : Registry.tokenFor amplitude (Value.infer "2") = .ok "2" := by decide +kernel
    have haccepts := Parameter.tokenFor_eq_ok.mp htoken
    obtain ⟨-, -, -, hundashed⟩ := hset _ hamplitude "2" isNumber_two
    exact ⟨hpositive, haccepts, hundashed hpositive ⟨_, haccepts⟩⟩
  · obtain ⟨f, hf⟩ : ∃ f, Hmc8043.functions.head? = some f := ⟨_, rfl⟩
    have hmem : f ∈ Hmc8043.model.functions := List.mem_of_mem_head? hf
    cases hf
    have hvoltage : Hmc8043.voltageRange.check (Value.infer "2") = .ok () := by decide +kernel
    have hcurrent : Hmc8043.currentRange.check (Value.infer "2") = .ok () := by decide +kernel
    have hfit : Registry.Fit [Hmc8043.voltageRange, Hmc8043.currentRange]
        (["2", "2"].map Value.infer) := .cons hvoltage (.cons hcurrent .nil)
    obtain ⟨hplain, -, -, hundashed⟩ := hcall _ hmem ["2", "2"] (by simp [isNumber_two])
    obtain ⟨-, hrefused, hseparated, -⟩ :=
      hcall _ hmem ["2", "-2"] (by simp [isNumber_two, isNumber_neg_two])
    exact ⟨_, hmem, rfl, hfit, hundashed hfit, hplain.mpr (by decide),
      hrefused (by decide) (by decide), hseparated⟩

/-- A generator takes a negative offset and is sent it, but arguments that ask for it are refused
unless the separator stands before it. -/
theorem accepted_offset_refused :
    Hmf2550.model ∈ Catalogue.known.models ∧ offset ∈ Hmf2550.model.parameters ∧
    offset.isSettable = true ∧ IsNumber "-2" ∧
    (∃ r, Catalogue.known.registry Hmf2550.model.type = .ok r ∧
      ((r.set offset.name (Value.infer "-2")).run Scripted.link {}).1.toOption = some () ∧
      ((r.set offset.name (Value.infer "-2")).run Scripted.link {}).2.sent =
        ["VOLT:OFFS -2"]) ∧
    ¬ Assigns ["set", "generator", offset.name, "-2"] "generator" offset.name "-2" ∧
    (run .known Configuration.laboratory ["set", "generator", offset.name, "-2"]).exitCode = 2 ∧
    (run .known Configuration.laboratory ["set", "--", "generator", offset.name, "-2"]).exitCode =
      0 := by
  refine ⟨mem_generator.1, mem_generator.2.1, by decide +kernel, isNumber_neg_two, ?_,
    fun h => absurd h.parsed (by decide +kernel), by decide +kernel, by decide +kernel⟩
  have hsent : (Catalogue.known.registry Hmf2550.model.type).toOption.any (fun r =>
      ((r.set offset.name (Value.infer "-2")).run Scripted.link {}).1.toOption = some () ∧
      ((r.set offset.name (Value.infer "-2")).run Scripted.link {}).2.sent =
        ["VOLT:OFFS -2"]) = true := by decide +kernel
  obtain ⟨r, hr, hsent⟩ := exists_ok_of_any hsent
  exact ⟨r, hr, of_decide_eq_true hsent⟩

end CommandLine

end InstrumentControl
