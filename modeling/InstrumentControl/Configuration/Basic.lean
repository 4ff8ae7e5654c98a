import InstrumentControl.Catalogue.Basic
import InstrumentControl.Device.Format
import InstrumentControl.Text.Case

/-! Configurations of a laboratory: the level of the log and the devices.  A configuration is valid
when its level is one of five words in any case, the ids of its devices differ, and every device has
a driver of the catalogue. -/

namespace InstrumentControl

structure Configuration where
  logLevel : String := "info"
  devices : List DeviceConfig := []

namespace Configuration

/-- Why a configuration is not valid. -/
inductive Fault where
  | logLevel (level : String)
  | duplicateId (id : String)
  | unknownDriver (id driver : String)
deriving DecidableEq

def levels : List String := ["trace", "debug", "info", "warn", "error"]

def Fault.message : Fault → String
  | logLevel level =>
    "Invalid log_level '" ++ level ++ "'. Must be one of: " ++ String.intercalate ", " levels
  | duplicateId id => "Duplicate device id: " ++ id
  | unknownDriver id driver => "Device '" ++ id ++ "' uses unknown driver '" ++ driver ++ "'"

/-- The first fault of devices that follow those with the ids `seen`. -/
def checkDevices (c : Catalogue) (seen : List String) : List DeviceConfig → Except Fault Unit
  | [] => .ok ()
  | d :: rest =>
    if seen.contains d.id then .error (.duplicateId d.id)
    else if !c.contains d.driver then .error (.unknownDriver d.id d.driver)
    else checkDevices c (d.id :: seen) rest

/-- The first fault: of the level, or of the devices in order. -/
def check (s : Configuration) (c : Catalogue) : Except Fault Unit :=
  if levels.contains (Text.lowercase s.logLevel) then checkDevices c [] s.devices
  else .error (.logLevel s.logLevel)

/-- The device with the given id. -/
def device? (s : Configuration) (id : String) : Option DeviceConfig :=
  s.devices.find? (·.id = id)

def enabledDevices (s : Configuration) : List DeviceConfig := s.devices.filter DeviceConfig.enabled

/-- Nothing differs from the configuration of an empty document. -/
def isDefault (s : Configuration) : Bool := s.logLevel = "info" && s.devices.isEmpty

def toData (s : Configuration) : Data :=
  .table [("log_level", .text s.logLevel), ("devices", .list (s.devices.map DeviceConfig.toData))]

def devicesOfData? : Data → Option (List DeviceConfig)
  | .list items => items.mapM (DeviceConfig.ofData? true)
  | _ => none

def ofData? : Data → Option Configuration
  | .table entries => return {
      logLevel := ← Data.defaulted? entries "log_level" "info" Data.text?
      devices := ← Data.defaulted? entries "devices" [] devicesOfData? }
  | _ => none

end Configuration

end InstrumentControl
