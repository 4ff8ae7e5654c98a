import InstrumentControl.Device.Config
import InstrumentControl.Parameter

/-! Models of instruments.  A model has a command table, what it expects of a connection, and a
handshake that follows connecting, which may depend on the options of the device. -/

namespace InstrumentControl

/-- Why the options of a device are refused. -/
inductive OptionError where
  | unknown (key : String)
  /-- They are not the options of `product`. -/
  | malformed (product : String)
deriving DecidableEq

def OptionError.message : OptionError → String
  | unknown key => "unknown option '" ++ key ++ "'"
  | malformed product => "Invalid " ++ product ++ " options"

/-- Why a handshake failed. -/
inductive HandshakeError where
  | link (step : String) (cause : LinkError)
  /-- The instrument takes commands of another language than `expected`. -/
  | language (expected found : String)
deriving DecidableEq

/-- The message and the messages of what caused it. -/
def HandshakeError.chain : HandshakeError → List String
  | link step cause => step :: cause.chain
  | language expected found =>
    ["Driver is only compatible with the '" ++ expected ++ "' command set, not '" ++ found ++ "'"]

/-- What is exchanged with an instrument before its first use. -/
abbrev Handshake : Type := Script (Except HandshakeError Unit)

structure Model where
  /-- The name by which configurations ask for the model. -/
  type : String
  /-- The name of the product. -/
  name : String
  defaults : ConnectionDefaults := {}
  parameters : List Parameter
  functions : List Function := []
  /-- The handshake for a device with the given options. -/
  handshake : Options → Except OptionError Handshake := fun _ => .ok (return .ok ())

end InstrumentControl
