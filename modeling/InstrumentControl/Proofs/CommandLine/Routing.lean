import InstrumentControl.Catalogue.Known
import InstrumentControl.CommandLine.Run
import InstrumentControl.Proofs.Configuration.Validity

/-! Which device a command goes to.  A command on a device is only performed with a configuration that
was checked, so it goes to the one device that has the id. -/

namespace InstrumentControl

namespace CommandLine

theorem exists_ok_of_any {ε α : Type} {result : Except ε α} {p : α → Bool}
    (h : result.toOption.any p = true) : ∃ a, result = .ok a ∧ p a = true := by
  cases result with
  | ok a => exact ⟨a, rfl, h⟩
  | error e => cases h

namespace Invocation

variable {i : Invocation} {c : Catalogue} {s : Surroundings} {settings : Configuration}

/-- The configuration in force was checked. -/
theorem check_of_configuration (h : i.configuration c s = .ok settings) :
    settings.check c = .ok () := by
  rw [configuration] at h
  cases hload : Configuration.load s.files s.environment i.path with
  | error cause =>
    rw [hload] at h
    cases h
  | ok loaded =>
    simp only [hload, Except.mapError, bind, Except.bind] at h
    split at h
    · cases h
    · cases hcheck : loaded.check c with
      | error fault =>
        rw [hcheck] at h
        cases h
      | ok =>
        rw [hcheck] at h
        cases h
        exact hcheck

theorem runOn_eq (h : i.configuration c s = .ok settings) (id : String) :
    i.runOn c s id = match settings.device? id with
      | none => .error (.noDevice id i.path)
      | some d => if i.isDry then i.runDry c d else i.runOpen c s.ports d := by
  rw [runOn, h]
  rfl

end Invocation

end CommandLine

namespace Configuration

open CommandLine

/-- The check succeeds for the valid configurations.  For any other it reports the level, or else the
fault of the first device that has one.  After the check ids lead to the devices that have them, and
a command with the id of a device goes to that device. -/
theorem check_reports_first_fault (s : Configuration) (c : Catalogue) :
    (s.check c = .ok () ↔ s.Valid c) ∧
    (∀ fault, s.check c = .error fault ↔
      Text.lowercase s.logLevel ∉ levels ∧ fault = .logLevel s.logLevel ∨
      Text.lowercase s.logLevel ∈ levels ∧ FirstFault c s.devices fault) ∧
    (s.check c = .ok () → ∀ id d, s.device? id = some d ↔ d ∈ s.devices ∧ d.id = id) ∧
    ∀ (i : Invocation) (surroundings : Surroundings), i.configuration c surroundings = .ok s →
      ∀ d ∈ s.devices, i.runOn c surroundings d.id =
        if i.isDry then i.runDry c d else i.runOpen c surroundings.ports d := by
  have hfound (hcheck : s.check c = .ok ()) (id : String) (d : DeviceConfig) :
      s.device? id = some d ↔ d ∈ s.devices ∧ d.id = id := (check_eq_ok.mp hcheck).device?_eq_some
  refine ⟨check_eq_ok, fun fault => check_eq_error, hfound, fun i surroundings h d hd => ?_⟩
  rw [Invocation.runOn_eq h, (hfound (Invocation.check_of_configuration h) d.id d).mpr ⟨hd, rfl⟩]

/-- A file with a supply and a generator. -/
def laboratory : Surroundings where
  files path := if path = "labinstr.toml" then some
      ("log_level = \"Info\"\n" ++
        "[[devices]]\nid = \"psu\"\ndriver = \"hmc8043\"\nconnection.type = \"mock\"\n" ++
        "[[devices]]\nid = \"generator\"\ndriver = \"hmf2550\"\nconnection.type = \"mock\"")
    else none
  environment := []
  ports _ := none

/-- A device without an instrument. -/
def absent (id driver : String) : DeviceConfig := { id, driver, connection := .mock [] }

/-- Two faults of the third device, and one of the fourth. -/
def crowded : Configuration where
  devices := [absent "psu" "hmc8043", absent "chopper" "mc2000b", absent "psu" "hmc9000",
    absent "spare" "hmc9000"]

/-- The devices of the file are told apart, and of the crowded configuration the repeated id is
reported. -/
theorem check_reports_first_fault_laboratory :
    let i : Invocation := { isDry := true, command := .get "generator" "frequency" }
    (∃ s, i.configuration .known laboratory = .ok s ∧ s.check .known = .ok () ∧
      ∃ d ∈ s.devices, d.id = "generator" ∧ s.device? "generator" = some d ∧
        i.runOn .known laboratory "generator" = i.runDry .known d) ∧
    crowded.check .known = .error (.duplicateId "psu") ∧
      FirstFault .known crowded.devices (.duplicateId "psu") := by
  intro i
  have hreport : crowded.check .known = .error (.duplicateId "psu") := by decide +kernel
  have hfirst := ((check_reports_first_fault crowded .known).2.1 _).mp hreport
  refine ⟨?_, hreport, (hfirst.resolve_left fun h => absurd h.2 nofun).2⟩
  have hloaded : (i.configuration .known laboratory).toOption.any
      (·.devices.any (·.id = "generator")) = true := by decide +kernel
  obtain ⟨s, hs, hdevice⟩ := exists_ok_of_any hloaded
  obtain ⟨d, hd, hid⟩ := List.any_eq_true.mp hdevice
  have hid : d.id = "generator" := of_decide_eq_true hid
  have hcheck := Invocation.check_of_configuration hs
  obtain ⟨-, -, hfound, hroute⟩ := check_reports_first_fault s .known
  exact ⟨s, hs, hcheck, d, hd, hid, (hfound hcheck "generator" d).mpr ⟨hd, hid⟩,
    hid ▸ hroute i laboratory hs d hd⟩

end Configuration

end InstrumentControl
