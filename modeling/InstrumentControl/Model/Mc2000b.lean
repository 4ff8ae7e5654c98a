import InstrumentControl.Model.Basic
import InstrumentControl.Model.Shape

/-! The Thorlabs MC2000B, a controller of optical choppers.  It echoes each command before the
response and ends every exchange with a prompt. -/

namespace InstrumentControl.Mc2000b

open Parameter

def prompt : String := ">"

def blades : List (String × String) := [
  ("MC1F2", "1"), ("MC1F10", "2"), ("MC1F30", "3"), ("MC1F60", "4"), ("MC1F100", "5"),
  ("MC1F10HP", "6"), ("MC1F2P10", "7"), ("MC1F6P10", "8"), ("MC1F10A", "9"), ("MC2F330", "10"),
  ("MC2F47", "11"), ("MC2F57F", "12"), ("MC2F860", "13"), ("MC2F5360", "14")]

def references : List (String × String) := [
  ("int-outer", "0"), ("int-inner", "1"), ("ext-outer", "2"), ("ext-inner", "3")]

def parameters : List Parameter := [
  reading "identity" "Identity" "id?",
  reading "commands" "Commands" "?",
  assigned "frequency" "Frequency" "freq" |>.inUnit "Hz" |>.within 20 1000,
  (assigned "enable" "Enable" "enable").mapped (.ofWords [("ON", "1"), ("OFF", "0")]),
  (assigned "blade" "Blade" "blade").mapped (.ofWords blades),
  assigned "phase" "Phase" "phase" |>.inUnit "deg" |>.within 0 360,
  (assigned "refin" "Reference Input" "ref").mapped (.ofWords references)]

def model : Model where
  type := "mc2000b"
  name := "Thorlabs MC2000B Optical Chopper"
  defaults :=
    { terminators := ⟨"\r", prompt⟩
      serial := { baudRate := 115200 }
      framing := .echoPrompt prompt
      limit := 5000 }
  parameters

end InstrumentControl.Mc2000b
