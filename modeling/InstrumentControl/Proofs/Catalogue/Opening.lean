import InstrumentControl.Catalogue.Known
import InstrumentControl.Proofs.Conversation

/-! Which fault of a configured device is reported.  Opening connects the device and then checks its
options.  So options that the driver refuses are noticed before the first call, but a connection
that does not open hides them, be it a port, a host or the settings of a port that is at fault. -/

namespace InstrumentControl.Catalogue

open Conversation

variable {c : Catalogue} {ports : Ports} {d : DeviceConfig} {m : Model} {channel : Channel}

theorem connect_eq (hm : c.require d.driver = .ok m) :
    c.connect ports d = (d.connection.connect ports m.defaults).mapError (.connection d.id) := by
  rw [connect, hm]
  rfl

/-! ### Stages -/

theorem openDevice_unconnected (henabled : d.enabled = true) (hm : c.require d.driver = .ok m)
    {cause : ConnectionError} (hconnect : d.connection.connect ports m.defaults = .error cause) :
    c.openDevice ports d = .failed (.connection d.id cause) none := by
  have hfails : c.connect ports d = .error (.connection d.id cause) := by
    rw [connect_eq hm, hconnect]
    rfl
  rw [openDevice, henabled, hfails]
  rfl

theorem openDevice_connected (henabled : d.enabled = true) (hm : c.require d.driver = .ok m)
    (hconnect : d.connection.connect ports m.defaults = .ok channel) :
    c.openDevice ports d = match (c.setUp d).run Channel.link channel with
      | (.ok instrument, channel) => .ready instrument channel
      | (.error e, channel) => .failed e (some channel) := by
  have hopens : c.connect ports d = .ok channel := by
    rw [connect_eq hm, hconnect]
    rfl
  rw [openDevice, henabled, hopens]
  rfl

theorem setUp_refused (hm : c.require d.driver = .ok m) {cause : OptionError}
    (hrefused : m.handshake d.options = .error cause) :
    c.setUp d = return .error (.options d.id cause) := by
  have hprepare : c.prepare d = .error (.options d.id cause) := by
    have hoptions : (m.handshake d.options).mapError (OpenError.options d.id) =
        .error (.options d.id cause) := by
      rw [hrefused]
      rfl
    rw [prepare, hm]
    simp only [bind, Except.bind, hoptions]
  rw [setUp, hprepare]

/-! ### Refused options -/

/-- Over any link, a device with refused options fails for them without a call.  Opening it fails
for them exactly if its connection opens, and leaves the channel as it was; otherwise it fails for
the connection. -/
theorem refused_options_fail_opening (henabled : d.enabled = true)
    (hm : c.require d.driver = .ok m) {cause : OptionError}
    (hrefused : m.handshake d.options = .error cause) :
    (∀ {σ : Type} (link : Link σ) (s : σ), (c.setUp d).exchanges link s = [] ∧
      (c.setUp d).run link s = (.error (.options d.id cause), s)) ∧
    (∀ channel, d.connection.connect ports m.defaults = .ok channel →
      c.openDevice ports d = .failed (.options d.id cause) (some channel)) ∧
    ∀ unreachable, d.connection.connect ports m.defaults = .error unreachable →
      c.openDevice ports d = .failed (.connection d.id unreachable) none := by
  refine ⟨fun link s => ?_, fun channel hconnect => ?_, fun unreachable hconnect => ?_⟩
  · rw [setUp_refused hm hrefused]
    exact ⟨rfl, rfl⟩
  · rw [openDevice_connected henabled hm hconnect, setUp_refused hm hrefused]
    rfl
  · exact openDevice_unconnected henabled hm hconnect

/-- A multimeter with an option that its driver does not have. -/
def misconfigured (connection : Connection) : DeviceConfig where
  id := "dmm"
  driver := "keithley_6500"
  connection := connection
  options := [("reset", .bool true)]

/-- A far end that takes commands and never answers. -/
def mute : Responder := { terminator := "\n", replies := [] }

/-- One host that can be reached. -/
def mutePorts : Ports := fun address => if address = .host "127.0.0.1" 1 then some mute else none

/-- The option is reported where the connection needs no instrument, and where the host answers. -/
theorem refused_options_fail_opening_reached :
    let host := Connection.tcp "127.0.0.1" (some 1) none none none
    (misconfigured (.mock [])).enabled = true ∧
      known.require (misconfigured (.mock [])).driver = .ok Dmm6500.model ∧
      Dmm6500.model.handshake (misconfigured (.mock [])).options =
        .error (.malformed "Keithley 6500") ∧
      known.openDevice (fun _ => none) (misconfigured (.mock [])) =
        .failed (.options "dmm" (.malformed "Keithley 6500")) (some (.scripted {})) ∧
      known.openDevice mutePorts (misconfigured host) =
        .failed (.options "dmm" (.malformed "Keithley 6500"))
          (some (.serial (.socket {}) .plain { device := mute })) :=
  ⟨rfl, rfl, rfl, (refused_options_fail_opening rfl rfl rfl).2.1 _ rfl,
    (refused_options_fail_opening rfl rfl rfl).2.1 _ rfl⟩

/-- Where no host answers, the option is not reported; where one does, it is reported by a device
that has been connected. -/
theorem unreachable_host_hides_options :
    let d := misconfigured (.tcp "127.0.0.1" (some 1) none none none)
    (d.enabled = true ∧ ∃ m, known.require d.driver = .ok m ∧
      m.handshake d.options = .error (.malformed "Keithley 6500")) ∧
    known.openDevice (fun _ => none) d = .failed (.connection "dmm" (.noHost "127.0.0.1" 1)) none ∧
    (∀ cause channel, known.openDevice (fun _ => none) d ≠ .failed (.options "dmm" cause) channel) ∧
    ∃ channel, known.openDevice mutePorts d =
      .failed (.options "dmm" (.malformed "Keithley 6500")) (some channel) :=
  ⟨⟨rfl, _, rfl, rfl⟩, rfl, nofun, _, rfl⟩

end InstrumentControl.Catalogue
