import InstrumentControl.Model.Basic
import InstrumentControl.Model.Shape

/-! The Rohde & Schwarz HMC8043, a power supply with three outputs.  Voltage and current are those
of the selected output. -/

namespace InstrumentControl.Hmc8043

open Parameter

/-- The name of the output of a channel number; any other response stays as it is. -/
def outputName (response : String) : String :=
  let number := Text.strip response
  if number = "1" then "OUT1"
  else if number = "2" then "OUT2"
  else if number = "3" then "OUT3"
  else number

def selectedOutput : Script (Except GetError String) := do
  match ← Script.query "INST:SEL?" with
  | .error e => return .error (.link e)
  | .ok response => return .ok (outputName response)

def voltageRange : Domain := .numbers 1e-3 32.05

def currentRange : Domain := .numbers 5e-4 3

def parameters : List Parameter := [
  reading "identity" "Identity" "*IDN?",
  action "reset" "Reset" "*RST",
  { name := "select_output"
    label := some "Output"
    getter := .custom selectedOutput
    setter := .template ("INST:SEL " ++ valueSite)
    mapping := some (.ofWords [("out1", "OUT1"), ("out2", "OUT2"), ("out3", "OUT3")]) },
  (scpi "select_channel" "Channel" "INST:NSEL").valued (.oneOf [.int 1, .int 2, .int 3]) .integer,
  scpi "voltage" "Voltage" "VOLT" |>.inUnit "V" |>.within 0 32.05,
  scpi "voltage_step" "Voltage Step" "VOLT:STEP" |>.inUnit "V" |>.valued voltageRange .real,
  scpi "current" "Current" "CURR" |>.inUnit "A" |>.valued currentRange .real,
  scpi "current_step" "Current Step" "CURR:STEP" |>.inUnit "A" |>.valued currentRange .real,
  switch "output" "Output Status" "OUTP?" "OUTP",
  switch "output_channel" "Output Channel" "OUTP:CHAN?" "OUTP:CHAN",
  switch "output_master" "Output Master" "OUTP:MAST?" "OUTP:MAST"]

def functions : List Function := [
  { name := "apply"
    template := "APPL \x7b0\x7d,\x7b1\x7d"
    arguments := [voltageRange, currentRange]
    doc := some "Set voltage and current of the selected channel" },
  { name := "voltage_up", template := "VOLT UP", doc := some "Raise voltage by one step" },
  { name := "voltage_down", template := "VOLT DOWN", doc := some "Lower voltage by one step" },
  { name := "current_up", template := "CURR UP", doc := some "Raise current by one step" },
  { name := "current_down", template := "CURR DOWN", doc := some "Lower current by one step" }]

def model : Model where
  type := "hmc8043"
  name := "Rohde & Schwarz HMC8043 Power Supply"
  parameters
  functions

end InstrumentControl.Hmc8043
