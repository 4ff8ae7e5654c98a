import InstrumentControl.Model.Basic
import InstrumentControl.Model.Shape
import InstrumentControl.Text.Case

/-! The Keithley DMM6500, a multimeter.  Some of its parameters belong to the measurement function
in use: each access to them first reads which function that is, and addresses the function by its
token in lower case.  The handshake makes sure that the multimeter takes SCPI commands. -/

namespace InstrumentControl.Dmm6500

open Parameter

/-- The greatest delay of a timer and between scans, in seconds. -/
def maxDelay : Float := 999999.999

/-- The command tree of the measurement function in use. -/
def activeFunction : Script (Except GetError String) := do
  return (← Script.getWire "mode").map Text.lowercase

def readMode : Script (Except GetError String) := do
  match ← Script.query "SENS:FUNC?" with
  | .error e => return .error (.link e)
  | .ok response => return .ok (Text.unquote response)

/-- Reads what `command` addresses under the measurement function in use. -/
def readUnder (command : String) : Script (Except GetError String) := do
  match ← activeFunction with
  | .error e => return .error e
  | .ok function => return (← Script.query (function ++ ":" ++ command ++ "?")).mapError .link

/-- Sets what `command` addresses under the measurement function in use. -/
def setUnder (name command : String) (_ : Value) (token : String) :
    Script (Except SetError Unit) := do
  match ← activeFunction with
  | .error e => return .error (.dependency name e)
  | .ok function =>
    return (← Script.send (function ++ ":" ++ command ++ " " ++ token)).mapError .link

/-- A parameter of the measurement function in use, addressed by `command` under it. -/
def modeParameter (name label command : String) : Parameter where
  name
  label := some label
  getter := .custom (readUnder command)
  setter := .custom (setUnder name command)

/-- The type of the averaging filter by its short name, in any case; any other response stays, in
lower case. -/
def readFilter (raw : String) : Except FormatError Value :=
  let word := Text.lowercase (Text.unquote raw)
  .ok (.text (if word = "mov" then "moving" else if word = "rep" then "repeat" else word))

def modeWords : List (String × String) := [
  ("ac current", "CURR:AC"), ("dc current", "CURR:DC"), ("ac voltage", "VOLT:AC"),
  ("dc voltage", "VOLT:DC"), ("2w resistance", "RES"), ("4w resistance", "FRES"),
  ("temperature", "TEMP"), ("frequency", "FREQ")]

def modeParameters : List Parameter := [
  { name := "mode"
    label := some "Measurement Function"
    getter := .custom readMode
    setter := .template ("SENS:FUNC '" ++ valueSite ++ "'")
    mapping := some (.ofWords modeWords) },
  modeParameter "nplc" "Integration Time" "NPLC" |>.inUnit "PLC" |>.within 0.01 10,
  (modeParameter "range" "Range" "RANG").within (Decimal.infinity true) (Decimal.infinity false),
  (modeParameter "auto_range_enabled" "Auto Range" "RANG:AUTO").valued .bool .bool,
  (modeParameter "averaging_type" "Averaging Filter" "AVER:TCON").valued
    (.oneOf [.text "moving", .text "repeat"]) (.custom readFilter),
  (modeParameter "averaging_count" "Averaging Count" "AVER:COUN").valued (.ints 1 100) .integer,
  (modeParameter "averaging_enabled" "Averaging" "AVER:STAT").valued .bool .bool]

def displayParameters : List Parameter := [
  (scpi "digits" "Display Digits" "DISP:VOLT:DC:DIG").valued (.ints 4 7) .integer,
  (scpi "display_backlight" "Display Backlight" "DISP:LIGH:STAT").mapped (.ofWords
    [("On 100", "ON100"), ("On 75", "ON75"), ("On 50", "ON50"), ("On 25", "ON25"),
      ("Off", "OFF"), ("Blackout", "BLACkout")])]

def scanCount : Parameter :=
  (scpi "trigger_count" "Scan Count" "ROUT:SCAN:COUN:SCAN").valued
    (.anyOf [.ints 1 9999,
      .oneOf [.text "inf", .text "default", .text "minimum", .text "maximum"]]) .integer

/-- The parameters of one of the four timers. -/
def timerParameters (n : String) : List Parameter :=
  let timer := "TRIG:TIM" ++ n
  [scpi ("trigger" ++ n ++ "_delay") ("Timer " ++ n ++ " Delay") (timer ++ ":DEL")
      |>.inUnit "s" |>.within 0 maxDelay,
    (scpi ("trigger" ++ n ++ "_source") ("Timer " ++ n ++ " Source")
      (timer ++ ":STAR:STIM")).mapped (.ofWords
        [("immediate", "NONE"), ("timer1", "TIM1"), ("timer2", "TIM2"), ("timer3", "TIM3"),
          ("timer4", "TIM4"), ("notify1", "NOT1"), ("notify2", "NOT2"), ("notify3", "NOT3"),
          ("front-panel", "DISP"), ("bus", "COMM"), ("external", "EXT")])]

def parameters : List Parameter :=
  [reading "identity" "Identity" "*IDN?"] ++ modeParameters ++ displayParameters ++ [scanCount] ++
    ["1", "2", "3", "4"].flatMap timerParameters ++
    [scpi "trigger_timer" "Scan Interval" "ROUT:SCAN:INT" |>.inUnit "s" |>.within 0 maxDelay,
      reading "amplitude" "Reading" "READ?" |>.inUnit "a.u." |>.parsed .real]

/-- The options have no entry but `reset_device`, which tells whether the handshake resets the
multimeter. -/
def resets : Options → Except OptionError Bool
  | [] => .ok false
  | [("reset_device", .bool b)] => .ok b
  | _ => .error (.malformed "Keithley 6500")

/-- Sends a command of the handshake. -/
def prepare (step command : String) : Handshake := do
  return (← Script.send command).mapError (.link step)

/-- Asks for the command language, resets the multimeter if wanted, and selects the data format. -/
def handshake (reset : Bool) : Handshake := do
  match ← Script.query "*LANG?" with
  | .error e => return .error (.link "Failed to query command set" e)
  | .ok response =>
    if Text.strip response ≠ "SCPI" then
      return .error (.language "SCPI" (Text.strip response))
    else
      match ← (if reset then prepare "Failed to reset" "*RST" else return .ok ()) with
      | .error e => return .error e
      | .ok _ => prepare "Failed to select ASCII data format" "FORM:DATA ASCII"

def model : Model where
  type := "keithley_6500"
  name := "Keithley DMM6500 Multimeter"
  parameters
  functions := [{ name := "reset", template := "*RST", doc := some "Reset the instrument" }]
  handshake options := (resets options).map handshake

end InstrumentControl.Dmm6500
