import InstrumentControl.Model.Basic
import InstrumentControl.Model.Shape

/-! The Thorlabs MCLS, a source of four laser diodes.  The diodes bear different currents: setting
the current first reads which channel is selected, and a current above the limit of that channel is
not sent.  The source echoes each command on a line of its own. -/

namespace InstrumentControl.Mcls

open Parameter

/-- The greatest currents of the channels from the first on, in milliamperes. -/
def maxCurrents : List Float := [38.3, 97.8, 51.5, 21.6]

/-- The greatest current of a channel, if there is such a channel. -/
def maxCurrent (channel : Int) : Option Float :=
  if channel < 1 then none else maxCurrents[channel.toNat - 1]?

/-- The greatest current of all channels. -/
def highestLimit : Float := maxCurrents.foldl (fun a b => if a < b then b else a) 0

/-- Why `requested` may not be sent to the selected channel. -/
def currentRefusal (channel requested : Value) : Option String :=
  match channel.integer?.bind fun n => maxCurrent n.toInt with
  | none => some ("no current limit known for channel " ++ channel.display)
  | some limit =>
    match requested.number? with
    | none => some "expected a number"
    | some x =>
      if x > limit then
        some ("exceeds maximum " ++ Value.realText limit ++ " mA of channel " ++ channel.display)
      else none

def setCurrent (requested : Value) (token : String) : Script (Except SetError Unit) := do
  match ← Script.get "channel" with
  | .error e => return .error (.dependency "current" e)
  | .ok channel =>
    match currentRefusal channel requested with
    | some reason => return .error (.invalidValue "current" requested.display (.rule reason))
    | none => return (← Script.send ("current=" ++ token)).mapError .link

def channel : Parameter :=
  (assigned "channel" "Channel" "channel").valued
    (.ints 1 (Int64.ofNat maxCurrents.length)) .integer

def current : Parameter :=
  { (reading "current" "Current" "current?").inUnit "mA" |>.within 0 highestLimit with
    setter := .custom setCurrent }

/-- A parameter that is `0` or `1`. -/
def bit (name label command : String) : Parameter :=
  (assigned name label command).valued (.oneOf [.int 0, .int 1]) .integer

def parameters : List Parameter := [
  reading "identity" "Identity" "id?",
  channel,
  assigned "target" "Target Temperature" "target" |>.inUnit "°C" |>.within 20 30,
  reading "temp" "Temperature" "temp?" |>.inUnit "°C" |>.parsed .real,
  current,
  reading "power" "Power" "power?" |>.inUnit "mW" |>.parsed .real,
  bit "enable" "Enable" "enable",
  bit "system" "System" "system",
  reading "specs" "Specs" "specs?",
  (assigned "step" "Step" "step").within 0 (Decimal.infinity false),
  action "save" "Save" "save",
  reading "statword" "Status Word" "statword"]

def model : Model where
  type := "mcls"
  name := "Thorlabs MCLS Laser Diode Source"
  defaults :=
    { terminators := ⟨"\r", "\r"⟩
      serial := { baudRate := 115200 }
      framing := .echoLine
      limit := 5000 }
  parameters

end InstrumentControl.Mcls
