import InstrumentControl.Proofs.Catalogue.Opening
import InstrumentControl.Proofs.Keyed
import InstrumentControl.Proofs.Model.Known
import InstrumentControl.Proofs.Registry.Reading

/-! The calls of opening a device.  A multimeter is asked for its command language first, and one of
another language is sent nothing.  Then it is prepared, up to the first command that fails.  The
other models are not prepared.  An instrument that is ready is asked who it is if its table has a
parameter for that, and whatever it answers, the device is open. -/

namespace InstrumentControl

open Conversation

/-! ### The handshake of a multimeter -/

namespace Dmm6500

/-- The options tell whether the multimeter is reset; without any it is not. -/
inductive Configures : Options → (reset : Bool) → Prop
  | default : Configures [] false
  | given {reset : Bool} : Configures [("reset_device", .bool reset)] reset

theorem resets_eq_ok {options : Options} {reset : Bool} :
    resets options = .ok reset ↔ Configures options reset := by
  constructor
  · intro h
    unfold resets at h
    split at h
    · cases h
      exact .default
    · cases h
      exact .given
    · cases h
  · intro h
    cases h <;> rfl

theorem resets_eq_error {options : Options} (h : ∀ reset, ¬ Configures options reset) :
    resets options = .error (.malformed "Keithley 6500") := by
  unfold resets
  split
  · exact absurd .default (h false)
  · next reset => exact absurd .given (h reset)
  · rfl

/-- Commands, each with the step that it belongs to, are sent one after the other.  The first that
fails is the last that is sent. -/
inductive Sends : (commands : List (String × String)) → List Exchange →
    Except HandshakeError Unit → Prop
  | all : Sends [] [] (.ok ())
  | failed {step command : String} {commands : List (String × String)} {cause : LinkError} :
    Sends ((step, command) :: commands) [⟨.send command, .error cause⟩] (.error (.link step cause))
  | sent {step command : String} {commands : List (String × String)} {log : List Exchange}
    {result : Except HandshakeError Unit} (h : Sends commands log result) :
    Sends ((step, command) :: commands) (⟨.send command, .ok ()⟩ :: log) result

/-- What a multimeter that takes SCPI commands is sent. -/
def preparations (reset : Bool) : List (String × String) :=
  (if reset then [("Failed to reset", "*RST")] else []) ++
    [("Failed to select ASCII data format", "FORM:DATA ASCII")]

/-- The calls of a handshake with their replies, and what comes of it. -/
inductive Handshakes (reset : Bool) : List Exchange → Except HandshakeError Unit → Prop
  | unanswered {cause : LinkError} :
    Handshakes reset [⟨.query "*LANG?", .error cause⟩]
      (.error (.link "Failed to query command set" cause))
  | foreign {response : String} (h : Text.strip response ≠ "SCPI") :
    Handshakes reset [⟨.query "*LANG?", .ok response⟩]
      (.error (.language "SCPI" (Text.strip response)))
  | understood {response : String} {log : List Exchange} {result : Except HandshakeError Unit}
    (h : Text.strip response = "SCPI") (hsends : Sends (preparations reset) log result) :
    Handshakes reset (⟨.query "*LANG?", .ok response⟩ :: log) result

def sendAll : List (String × String) → Handshake
  | [] => return .ok ()
  | (step, command) :: commands => do
    match ← prepare step command with
    | .error e => return .error e
    | .ok _ => sendAll commands

section

variable (a : Access) {σ : Type} (link : Link σ)

theorem runScript_sendAll (step command : String) (commands : List (String × String)) :
    a.runScript (sendAll ((step, command) :: commands)) =
      .step (.send command) fun reply =>
        match reply with
        | .error cause => .done (.error (.link step cause))
        | .ok _ => a.runScript (sendAll commands) := by
  refine congrArg _ (funext fun reply => ?_)
  cases reply <;> rfl

theorem sends_sendAll (commands : List (String × String)) (s : σ) :
    Sends commands ((a.runScript (sendAll commands)).exchanges link s)
      ((a.runScript (sendAll commands)).run link s).1 := by
  induction commands generalizing s with
  | nil => exact .all
  | cons first commands ih =>
    obtain ⟨step, command⟩ := first
    rw [runScript_sendAll, exchanges_step, run_step]
    rcases link (.send command) s with ⟨reply, s'⟩
    cases reply with
    | error cause => exact .failed
    | ok done => exact .sent (ih s')

theorem runScript_handshake (reset : Bool) :
    a.runScript (handshake reset) = .step (.query "*LANG?") fun reply =>
      match reply with
      | .error cause => .done (.error (.link "Failed to query command set" cause))
      | .ok response =>
        if Text.strip response = "SCPI" then a.runScript (sendAll (preparations reset))
        else .done (.error (.language "SCPI" (Text.strip response))) := by
  have hformat (step command : String) :
      a.runScript (prepare step command) = a.runScript (sendAll [(step, command)]) := by
    rw [runScript_sendAll]
    refine congrArg _ (funext fun reply => ?_)
    cases reply <;> rfl
  refine congrArg _ (funext fun reply => ?_)
  cases reply with
  | error cause => rfl
  | ok response =>
    simp only [Program.done_bind]
    by_cases h : Text.strip response = "SCPI"
    · rw [if_neg (not_not.mpr h), if_pos h]
      cases reset with
      | false => exact hformat _ _
      | true =>
        have hboth : preparations true = [("Failed to reset", "*RST"),
            ("Failed to select ASCII data format", "FORM:DATA ASCII")] := rfl
        rw [hboth, runScript_sendAll, ← hformat]
        refine congrArg _ (funext fun reply => ?_)
        cases reply <;> rfl
    · rw [if_pos h, if_neg h]
      rfl

theorem handshakes (reset : Bool) (s : σ) :
    Handshakes reset ((a.runScript (handshake reset)).exchanges link s)
      ((a.runScript (handshake reset)).run link s).1 := by
  rw [runScript_handshake, exchanges_step, run_step]
  rcases link (.query "*LANG?") s with ⟨reply, s'⟩
  cases reply with
  | error cause => exact .unanswered
  | ok response =>
    by_cases h : Text.strip response = "SCPI"
    · simp only [h, if_true]
      exact .understood h (sends_sendAll a link _ s')
    · simp only [h, if_false]
      exact .foreign h

end

end Dmm6500

/-! ### Asking who the instrument is -/

namespace Instrument

variable {r : Registry} {p : Parameter} {query : String} {σ : Type}

theorem connectMessage_unnamed (hr : r.WellFormed)
    (hnone : ∀ p ∈ r.entries.map Entry.parameter, p.name ≠ identityName) (id : String) :
    connectMessage ⟨id, r⟩ = .done none := by
  have hname : identityName ∉ r.names := by
    intro hmem
    obtain ⟨e, he, hname⟩ := List.mem_map.mp hmem
    exact hnone e.parameter (List.mem_map_of_mem he) hname
  have hnone : (r.entry? identityName).isNone = true :=
    Option.isNone_iff_eq_none.mpr (hr.entry?_eq_none.mpr hname)
  rw [connectMessage, if_pos hnone]
  rfl

theorem exchanges_connectMessage (hr : r.WellFormed) (hp : r.Declares identityName p)
    (hgetter : p.getter = .query query) (id : String) (link : Link σ) (s : σ) :
    (connectMessage ⟨id, r⟩).exchanges link s = [⟨.query query, (link (.query query) s).1⟩] := by
  obtain ⟨template, hentry, -⟩ := hr.entry?_of_declares hp
  have hget : r.get identityName = _ := hr.getThrough_query hp hgetter _
  rw [connectMessage, if_neg (by simp [hentry]), hget]
  show _ :: exchanges link _ _ = _
  simp only [Program.done_bind]
  split <;> rfl

end Instrument

/-! ### Opening -/

namespace Catalogue

variable {c : Catalogue} {d : DeviceConfig} {m : Model} {r : Registry}

theorem require_unknown {type : String} (h : type ∉ c.types) :
    c.require type = .error (.unknownDriver type c.types) := by
  rw [require, Keyed.get?_eq_none.mpr h]

theorem setUp_unknown (h : d.driver ∉ c.types) :
    c.setUp d = return .error (.unknownDriver d.driver c.types) := by
  have hprepare : c.prepare d = .error (.unknownDriver d.driver c.types) := by
    rw [prepare, require_unknown h]
    rfl
  rw [setUp, hprepare]

/-- The handshake comes first, then the question who the instrument is. -/
theorem setUp_prepared (hm : c.require d.driver = .ok m) {handshake : Handshake}
    (hoptions : m.handshake d.options = .ok handshake) (hr : c.registry d.driver = .ok r) :
    c.setUp d = (r.session.runScript handshake).bind fun result =>
      match result with
      | .error e => .done (.error (.handshake d.id e))
      | .ok _ => (Instrument.connectMessage ⟨d.id, r⟩).bind fun _ => .done (.ok ⟨d.id, r⟩) := by
  have hprepare : c.prepare d = .ok (⟨d.id, r⟩, handshake) := by
    rw [prepare, hm]
    simp only [bind, Except.bind, hoptions, hr]
    rfl
  rw [setUp, hprepare]
  rfl

/-- Without a handshake, the question who the instrument is is all that is asked. -/
theorem setUp_unprepared (hm : c.require d.driver = .ok m)
    (hoptions : m.handshake d.options = .ok (return .ok ())) (hr : c.registry d.driver = .ok r) :
    c.setUp d =
      (Instrument.connectMessage ⟨d.id, r⟩).bind fun _ => .done (.ok ⟨d.id, r⟩) := by
  rw [setUp_prepared hm hoptions hr]
  rfl

theorem unprepared_of_known : ∀ m ∈ known.models, m.type ≠ "keithley_6500" →
    ∀ options, m.handshake options = .ok (return .ok ()) := by
  rw [models_known]
  simp only [List.forall_mem_cons]
  exact ⟨fun _ _ => rfl, fun _ _ => rfl, fun _ _ => rfl, fun h => absurd rfl h, fun _ _ => rfl,
    fun _ _ => rfl, fun _ _ => rfl, nofun⟩

/-- One table has no parameter for who the instrument is, the others have a fixed query for it. -/
theorem identity_of_known : ∀ m ∈ known.models,
    (m.type = "hmf2550" → ∀ p ∈ m.parameters, p.name ≠ Instrument.identityName) ∧
      (m.type ≠ "hmf2550" → ∃ p ∈ m.parameters, p.name = Instrument.identityName ∧
        ∃ query, p.getter = .query query) := by
  have hfirst {m : Model} {query : String} (htype : m.type ≠ "hmf2550")
      (hp : m.parameters.head? = some (Parameter.reading "identity" "Identity" query)) :
      (m.type = "hmf2550" → ∀ p ∈ m.parameters, p.name ≠ Instrument.identityName) ∧
        (m.type ≠ "hmf2550" → ∃ p ∈ m.parameters, p.name = Instrument.identityName ∧
          ∃ query, p.getter = .query query) :=
    ⟨fun h => absurd h htype, fun _ => ⟨_, List.mem_of_head? hp, rfl, _, rfl⟩⟩
  rw [models_known]
  simp only [List.forall_mem_cons]
  refine ⟨hfirst (by decide) rfl, hfirst (by decide) rfl, ⟨fun _ => ?_, fun h => absurd rfl h⟩,
    hfirst (by decide) rfl, hfirst (by decide) rfl, hfirst (by decide) rfl,
    hfirst (by decide) rfl, nofun⟩
  decide +kernel

/-- The calls of opening a multimeter with their replies, and what comes of it: the reply to who it
is does not matter. -/
inductive Readies (i : Instrument) (reset : Bool) : List Exchange →
    Except OpenError Instrument → Prop
  | failed {log : List Exchange} {cause : HandshakeError}
    (h : Dmm6500.Handshakes reset log (.error cause)) :
    Readies i reset log (.error (.handshake i.name cause))
  | ready {log : List Exchange} {reply : Except LinkError String}
    (h : Dmm6500.Handshakes reset log (.ok ())) :
    Readies i reset (log ++ [⟨.query "*IDN?", reply⟩]) (.ok i)

theorem setUp_multimeter (hm : c.require d.driver = .ok Dmm6500.model)
    (hbuild : Registry.build Dmm6500.model.parameters Dmm6500.model.functions = .ok r)
    {reset : Bool} (hreset : Dmm6500.Configures d.options reset)
    {σ : Type} (link : Link σ) (s : σ) :
    Readies ⟨d.id, r⟩ reset ((c.setUp d).exchanges link s) ((c.setUp d).run link s).1 := by
  have hoptions : Dmm6500.model.handshake d.options = .ok (Dmm6500.handshake reset) := by
    show (Dmm6500.resets d.options).map _ = _
    rw [Dmm6500.resets_eq_ok.mpr hreset]
    rfl
  obtain ⟨hr, hentries, -⟩ := Registry.build_eq_ok hbuild
  have hidentity : r.Declares Instrument.identityName
      (Parameter.reading "identity" "Identity" "*IDN?") := ⟨hentries ▸ List.mem_of_head? rfl, rfl⟩
  have hhandshake := Dmm6500.handshakes r.session link reset s
  rw [setUp_prepared hm hoptions (registry_eq_ok hm hbuild), exchanges_bind, run_bind]
  rcases hrun : (r.session.runScript (Dmm6500.handshake reset)).run link s with ⟨result, s'⟩
  rw [hrun] at hhandshake
  cases result with
  | error cause =>
    rw [exchanges_done, List.append_nil]
    exact .failed hhandshake
  | ok done =>
    rw [exchanges_bind_done, run_bind, Instrument.exchanges_connectMessage hr hidentity rfl]
    exact .ready hhandshake

theorem setUp_other (hm : c.require d.driver = .ok m)
    (hoptions : m.handshake d.options = .ok (return .ok ())) (hr : c.registry d.driver = .ok r)
    {σ : Type} (link : Link σ) (s : σ) :
    ((c.setUp d).run link s).1 = .ok ⟨d.id, r⟩ ∧
      (c.setUp d).exchanges link s = (Instrument.connectMessage ⟨d.id, r⟩).exchanges link s := by
  rw [setUp_unprepared hm hoptions hr, run_bind, exchanges_bind_done]
  exact ⟨rfl, rfl⟩

/-! ### The known models -/

/-- A known multimeter goes through its handshake, unless its options are refused. -/
theorem setUp_known_multimeter (hdriver : d.driver = "keithley_6500") {σ : Type} (link : Link σ)
    (s : σ) :
    ((∀ reset, ¬ Dmm6500.Configures d.options reset) ∧ (known.setUp d).exchanges link s = [] ∧
      ((known.setUp d).run link s).1 = .error (.options d.id (.malformed "Keithley 6500"))) ∨
    ∃ reset r, Dmm6500.Configures d.options reset ∧ known.registry d.driver = .ok r ∧
      Readies ⟨d.id, r⟩ reset ((known.setUp d).exchanges link s)
        ((known.setUp d).run link s).1 := by
  have hm : known.require d.driver = .ok Dmm6500.model := by
    rw [hdriver]
    rfl
  by_cases hreset : ∃ reset, Dmm6500.Configures d.options reset
  · obtain ⟨reset, hreset⟩ := hreset
    obtain ⟨r, hr, hbuild⟩ := exists_known_table (m := Dmm6500.model) (by simp [models_known])
    exact .inr ⟨reset, r, hreset, hdriver ▸ hr, setUp_multimeter hm hbuild hreset link s⟩
  · have hnone := not_exists.mp hreset
    have hrefused : Dmm6500.model.handshake d.options = .error (.malformed "Keithley 6500") := by
      show (Dmm6500.resets d.options).map _ = _
      rw [Dmm6500.resets_eq_error hnone]
      rfl
    rw [setUp_refused hm hrefused]
    exact .inl ⟨hnone, rfl, rfl⟩

/-- Any other known device is ready after the question who it is, if there is a parameter for
that. -/
theorem setUp_known_other (hmem : m ∈ known.models) (htype : m.type = d.driver)
    (hother : m.type ≠ "keithley_6500") {σ : Type} (link : Link σ) (s : σ) :
    (∃ r, known.registry d.driver = .ok r ∧ ((known.setUp d).run link s).1 = .ok ⟨d.id, r⟩) ∧
    ((∀ p ∈ m.parameters, p.name ≠ Instrument.identityName) →
      (known.setUp d).exchanges link s = []) ∧
    ∀ p ∈ m.parameters, p.name = Instrument.identityName → ∀ query, p.getter = .query query →
      (known.setUp d).exchanges link s = [⟨.query query, (link (.query query) s).1⟩] := by
  obtain ⟨r, hr, hbuild⟩ := exists_known_table hmem
  obtain ⟨hwellFormed, hentries, -⟩ := Registry.build_eq_ok hbuild
  have hm := require_known m hmem
  rw [htype] at hr hm
  obtain ⟨hready, hlog⟩ := setUp_other hm (unprepared_of_known m hmem hother d.options) hr link s
  rw [hlog]
  refine ⟨⟨r, hr, hready⟩, fun hnone => ?_, fun p hp hname query hgetter => ?_⟩
  · rw [Instrument.connectMessage_unnamed hwellFormed (hentries ▸ hnone)]
    rfl
  · exact Instrument.exchanges_connectMessage hwellFormed ⟨hentries ▸ hp, hname⟩ hgetter d.id link s

/-- Opening a device of an unknown type, or with options that its driver refuses, fails without a
call.  A multimeter goes through its handshake.  Every other known device is ready at once: the
query of the parameter for who it is, if there is one, is the only call, and every reply to it will
do. -/
theorem opening_performs_handshake (d : DeviceConfig) {σ : Type} (link : Link σ) (s : σ) :
    (∀ c : Catalogue, d.driver ∉ c.types → (c.setUp d).exchanges link s = [] ∧
      ((c.setUp d).run link s).1 = .error (.unknownDriver d.driver c.types)) ∧
    (∀ (c : Catalogue) m cause, c.require d.driver = .ok m → m.handshake d.options = .error cause →
      (c.setUp d).exchanges link s = [] ∧
        ((c.setUp d).run link s).1 = .error (.options d.id cause)) ∧
    (d.driver = "keithley_6500" →
      ((∀ reset, ¬ Dmm6500.Configures d.options reset) ∧ (known.setUp d).exchanges link s = [] ∧
        ((known.setUp d).run link s).1 = .error (.options d.id (.malformed "Keithley 6500"))) ∨
      ∃ reset r, Dmm6500.Configures d.options reset ∧ known.registry d.driver = .ok r ∧
        Readies ⟨d.id, r⟩ reset ((known.setUp d).exchanges link s)
          ((known.setUp d).run link s).1) ∧
    ∀ m ∈ known.models, m.type = d.driver → m.type ≠ "keithley_6500" →
      (∃ r, known.registry d.driver = .ok r ∧ ((known.setUp d).run link s).1 = .ok ⟨d.id, r⟩) ∧
      (m.type = "hmf2550" → (∀ p ∈ m.parameters, p.name ≠ Instrument.identityName) ∧
        (known.setUp d).exchanges link s = []) ∧
      (m.type ≠ "hmf2550" → ∃ p ∈ m.parameters, p.name = Instrument.identityName ∧
        ∃ query, p.getter = .query query ∧
          (known.setUp d).exchanges link s = [⟨.query query, (link (.query query) s).1⟩]) := by
  refine ⟨fun c hunknown => ?_, fun c m cause hm hrefused => ?_,
    fun hdriver => setUp_known_multimeter hdriver link s, fun m hmem htype hother => ?_⟩
  · rw [setUp_unknown hunknown]
    exact ⟨rfl, rfl⟩
  · rw [setUp_refused hm hrefused]
    exact ⟨rfl, rfl⟩
  · obtain ⟨hready, hsilent, hasks⟩ := setUp_known_other hmem htype hother link s
    obtain ⟨hnone, hquery⟩ := identity_of_known m hmem
    refine ⟨hready, fun h => ⟨hnone h, hsilent (hnone h)⟩, fun h => ?_⟩
    obtain ⟨p, hp, hname, query, hgetter⟩ := hquery h
    exact ⟨p, hp, hname, query, hgetter, hasks p hp hname query hgetter⟩

/-- A device of any driver with the option of a multimeter. -/
def resetting (driver : String) : DeviceConfig where
  id := "device"
  driver := driver
  connection := .mock []
  options := [("reset_device", .bool true)]

/-- The option resets a multimeter, and means nothing to a generator. -/
theorem opening_performs_handshake_resetting :
    let s : Scripted := { script := ["SCPI\n"] }
    let log := fun d => (known.setUp d).exchanges Scripted.link s
    let result := fun d => ((known.setUp d).run Scripted.link s).1
    ("dmm6500" ∉ known.types ∧ log (resetting "dmm6500") = []) ∧
    (Dmm6500.model.handshake (misconfigured (.mock [])).options =
      .error (.malformed "Keithley 6500") ∧ log (misconfigured (.mock [])) = []) ∧
    (Dmm6500.Configures (resetting "keithley_6500").options true ∧
      (log (resetting "keithley_6500")).map Exchange.call = [.query "*LANG?", .send "*RST",
        .send "FORM:DATA ASCII", .query "*IDN?"] ∧
      ∃ r, known.registry "keithley_6500" = .ok r ∧
        Readies ⟨"device", r⟩ true (log (resetting "keithley_6500"))
          (result (resetting "keithley_6500"))) ∧
    (Hmf2550.model ∈ known.models ∧ log (resetting "hmf2550") = [] ∧
      ∃ r, result (resetting "hmf2550") = .ok ⟨"device", r⟩) := by
  intro s log result
  have hunknown : "dmm6500" ∉ known.types := by decide +kernel
  have hmem : Hmf2550.model ∈ known.models := by simp [models_known]
  obtain ⟨hfails, -, -, -⟩ := opening_performs_handshake (resetting "dmm6500") Scripted.link s
  obtain ⟨-, hrefused, -, -⟩ :=
    opening_performs_handshake (misconfigured (.mock [])) Scripted.link s
  obtain ⟨-, -, hmultimeter, -⟩ :=
    opening_performs_handshake (resetting "keithley_6500") Scripted.link s
  obtain ⟨-, -, -, hother⟩ := opening_performs_handshake (resetting "hmf2550") Scripted.link s
  refine ⟨⟨hunknown, (hfails known hunknown).1⟩, ⟨rfl, (hrefused known _ _ rfl rfl).1⟩,
    ⟨.given, by decide +kernel, ?_⟩, hmem, ?_⟩
  · rcases hmultimeter rfl with ⟨hnone, -⟩ | ⟨reset, r, hreset, hr, hreadies⟩
    · exact absurd .given (hnone true)
    · cases hreset
      exact ⟨r, hr, hreadies⟩
  · obtain ⟨⟨r, -, hready⟩, hlog, -⟩ := hother Hmf2550.model hmem rfl (by decide)
    exact ⟨(hlog rfl).2, r, hready⟩

end Catalogue

end InstrumentControl
