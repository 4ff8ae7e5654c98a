import InstrumentControl.Data
import InstrumentControl.Framing
import InstrumentControl.Link.Serial

/-! The configuration of devices: which driver a device has, how it is reached, and the options of
its driver.  What a connection leaves open is taken from the driver's `ConnectionDefaults`. -/

namespace InstrumentControl

/-- The options of a driver, in the order of their names. -/
abbrev Options := Keyed Data

inductive Connection where
  | serial (port : String) (baudRate dataBits : Option Nat) (parity : Option String)
      (stopBits limit : Option Nat) (writeTerminator readTerminator : Option String)
  | tcp (host : String) (port limit : Option Nat)
      (writeTerminator readTerminator : Option String)
  /-- No instrument; queries get fixed responses. -/
  | mock (responses : Keyed String)
deriving DecidableEq, Inhabited

namespace Connection

def describe : Connection → String
  | serial port _ _ _ _ _ _ _ => "serial:" ++ port
  | tcp host port _ _ _ =>
    "tcp:" ++ host ++ (match port with
      | some n => ":" ++ Decimal.decimalText n
      | none => "")
  | mock _ => "mock"

end Connection

structure DeviceConfig where
  id : String
  driver : String
  enabled : Bool := true
  connection : Connection
  options : Options := []

/-- What a driver expects of a connection unless the configuration says otherwise. -/
structure ConnectionDefaults where
  terminators : Terminators := {}
  serial : SerialSettings := {}
  framing : Framing := .plain
  /-- The time limit of a response in milliseconds. -/
  limit : Nat := 2000
  tcpPort : Nat := 5025

namespace ConnectionDefaults

/-- How lines are read and written, with the overrides of a connection. -/
def lineRules (d : ConnectionDefaults) (limit : Option Nat) (write read : Option String) :
    LineRules where
  terminators := ⟨write.getD d.terminators.write, read.getD d.terminators.read⟩
  limit := limit.getD d.limit

end ConnectionDefaults

end InstrumentControl
