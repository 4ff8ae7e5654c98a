import InstrumentControl.Model.Basic
import InstrumentControl.Model.Shape

/-! The Keysight B2902B, a source and measure unit with two channels.  Parameters of a channel end
in its letter and address it by its number. -/

namespace InstrumentControl.B2902b

open Parameter

structure Channel where
  letter : String
  number : String

def channels : List Channel := [⟨"A", "1"⟩, ⟨"B", "2"⟩]

/-- The greatest current of a source in amperes. -/
def maxSourceCurrent : Float := 3

/-- The greatest voltage of a source in volts. -/
def maxSourceVoltage : Float := 20

def quantity (name label unit command : String) (min max : Float) : Parameter :=
  scpi name label command |>.inUnit unit |>.within min max

def outputSwitch (c : Channel) : Parameter :=
  switch ("output_" ++ c.letter) ("Output" ++ c.letter ++ "Channel") ("OUTP" ++ c.number ++ "?")
    (":OUTP" ++ c.number)

def settings : List Parameter := [
  { reading "output_mode" "OutputMode" ":OUTP:FUNC:MODE?" with
    setter := .template (":OUTP:FUNC:MODE " ++ valueSite)
    mapping := some (.ofTokens ["CURR", "VOLT"]) },
  switch "waittime_status" "WaitTimeStatus" "SOUR:WAIT?" ":SOUR:WAIT",
  quantity "waittime" "WaitTime" "s" "SOUR:WAIT:OFFS" 1e-3 10,
  switch "autorange" "AutoRange" "SOUR:VOLT:RANG:AUTO?" ":SOUR:VOLT:RANG:AUTO"]

def voltages (c : Channel) : List Parameter :=
  let source := "SOUR" ++ c.number ++ ":VOLT"
  let sense := "SENS" ++ c.number ++ ":VOLT"
  [quantity ("voltage_range_" ++ c.letter) ("VoltageRange" ++ c.letter) "V" (source ++ ":RANG")
      0.2 200,
    quantity ("voltage_source_" ++ c.letter) ("Voltage" ++ c.letter) "V" source
      (-maxSourceVoltage) maxSourceVoltage,
    quantity ("voltage_limit_" ++ c.letter) ("VoltageLimit" ++ c.letter) "V"
      (sense ++ ":RANG:AUTO:LLIM") 0.2 200,
    quantity ("voltage_compliance_" ++ c.letter) ("VoltageCompliance" ++ c.letter) "V"
      (sense ++ ":PROT") 1e-6 2]

def currents (c : Channel) : List Parameter :=
  let source := "SOUR" ++ c.number ++ ":CURR"
  let sense := "SENS" ++ c.number ++ ":CURR"
  [quantity ("current_range_" ++ c.letter) ("CurrentRange" ++ c.letter) "A" (source ++ ":RANG")
      1e-9 maxSourceCurrent,
    quantity ("current_source_" ++ c.letter) ("Current" ++ c.letter) "A" source
      (-maxSourceCurrent) maxSourceCurrent,
    quantity ("current_limit_" ++ c.letter) ("CurrentLimit" ++ c.letter) "A"
      (sense ++ ":RANG:AUTO:LLIM") 1e-6 2,
    quantity ("current_compliance_" ++ c.letter) ("CurrentCompliance" ++ c.letter) "A"
      (sense ++ ":PROT") 1e-8 1]

/-- Spot measurements of a channel. -/
def measurements (c : Channel) : List Parameter :=
  let target := "? (@" ++ c.number ++ ")"
  [reading ("current_measure_" ++ c.letter) ("Current" ++ c.letter) ("MEAS:CURR" ++ target)
      |>.inUnit "A" |>.parsed .real,
    reading ("voltage_measure_" ++ c.letter) ("Voltage" ++ c.letter) ("MEAS:VOLT" ++ target)
      |>.inUnit "V" |>.parsed .real]

def model : Model where
  type := "b2902b"
  name := "Keysight B2902B Source/Measure Unit"
  parameters :=
    [reading "identity" "Identity" "*IDN?", action "reset" "Reset" "*RST"] ++
      channels.map outputSwitch ++ settings ++ channels.flatMap voltages ++
      channels.flatMap currents ++ channels.flatMap measurements

end InstrumentControl.B2902b
