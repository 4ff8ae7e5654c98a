import InstrumentControl.Instrument
import InstrumentControl.Link.Channel
import InstrumentControl.Model.Basic

/-! Catalogues of instrument models, and the opening of configured devices.  A device is opened in
three steps: connecting, checking its options and table, and the handshake, after which the
instrument is asked who it is.  Every step has its own errors, and what fails first is reported.

What can be reached is given: a port that is not there and a host that does not answer have the one
error each that a run can meet, and names of hosts are not resolved. -/

namespace InstrumentControl

/-- Why a connection could not be opened. -/
inductive ConnectionError where
  | settings (cause : SettingsError)
  | noPort (port : String) (baudRate : Nat)
  | noHost (host : String) (port : Nat)
deriving DecidableEq

/-- The message and the messages of what caused it. -/
def ConnectionError.chain : ConnectionError → List String
  | settings cause => [cause.message]
  | noPort port baudRate =>
    ["Failed to open serial port '" ++ port ++ "' at " ++ Decimal.decimalText baudRate ++ " baud",
      "No such file or directory"]
  | noHost host port => ["Failed to connect to " ++ host ++ ":" ++ Decimal.decimalText port]

/-- Why a device could not be opened. -/
inductive OpenError where
  | unknownDriver (type : String) (available : List String)
  | disabled (id : String)
  | connection (id : String) (cause : ConnectionError)
  | options (id : String) (cause : OptionError)
  | table (type : String) (cause : RegistrationError)
  | handshake (id : String) (cause : HandshakeError)
deriving DecidableEq

/-- The message and the messages of what caused it. -/
def OpenError.chain : OpenError → List String
  | unknownDriver type available =>
    ["Unknown driver type '" ++ type ++ "' (available: " ++ String.intercalate ", " available ++
      ")"]
  | disabled id => ["Device '" ++ id ++ "' is disabled"]
  | connection id cause => ("Failed to connect device '" ++ id ++ "'") :: cause.chain
  | options id cause => ["Invalid options for device '" ++ id ++ "'", cause.message]
  | table type cause => ["Invalid command table in driver '" ++ type ++ "'", cause.message]
  | handshake id cause => ("Failed to initialize device '" ++ id ++ "'") :: cause.chain

/-- Where a connection leads. -/
inductive Address where
  | port (name : String)
  | host (name : String) (port : Nat)
deriving DecidableEq

/-- What stands at the far end of an address, if it can be reached: the serial ports that there are
and the hosts that answer.  A far end stays there. -/
abbrev Ports : Type := Address → Option Responder

namespace Connection

/-- Opens a connection with what `defaults` says of what it leaves open. -/
def connect (ports : Ports) (defaults : ConnectionDefaults) :
    Connection → Except ConnectionError Channel
  | mock responses => .ok (.scripted { fixed := responses })
  | tcp host port limit write read =>
    let number := port.getD defaults.tcpPort
    match ports (.host host number) with
    | none => .error (.noHost host number)
    | some device =>
      .ok (.serial (.socket (defaults.lineRules limit write read)) defaults.framing { device })
  | serial port baudRate dataBits parity stopBits limit write read =>
    let settings : SerialSettings :=
      { baudRate := baudRate.getD defaults.serial.baudRate
        dataBits := dataBits.getD defaults.serial.dataBits
        parity := parity.getD defaults.serial.parity
        stopBits := stopBits.getD defaults.serial.stopBits }
    match settings.check with
    | .error e => .error (.settings e)
    | .ok _ =>
      match ports (.port port) with
      | none => .error (.noPort port settings.baudRate)
      | some device =>
        .ok (.serial (.port (defaults.lineRules limit write read)) defaults.framing { device })

end Connection

/-- Models by their type. -/
abbrev Catalogue : Type := Keyed Model

namespace Catalogue

/-- Enters a model, in place of one of the same type. -/
def register (c : Catalogue) (m : Model) : Catalogue := c.insert m.type m

def ofModels (models : List Model) : Catalogue := models.foldl register []

/-- The types of the models, in order. -/
def types (c : Catalogue) : List String := c.keys

/-- The models, in the order of their types. -/
def models (c : Catalogue) : List Model := c.map Prod.snd

def require (c : Catalogue) (type : String) : Except OpenError Model :=
  match c.get? type with
  | some m => .ok m
  | none => .error (.unknownDriver type c.types)

/-- The command table of a model. -/
def registry (c : Catalogue) (type : String) : Except OpenError Registry := do
  let m ← c.require type
  (Registry.build m.parameters m.functions).mapError (.table type)

/-- Opens the connection of a device. -/
def connect (c : Catalogue) (ports : Ports) (d : DeviceConfig) : Except OpenError Channel := do
  let m ← c.require d.driver
  (d.connection.connect ports m.defaults).mapError (.connection d.id)

/-- The instrument of a device and the handshake with it. -/
def prepare (c : Catalogue) (d : DeviceConfig) : Except OpenError (Instrument × Handshake) := do
  let m ← c.require d.driver
  let handshake ← (m.handshake d.options).mapError (.options d.id)
  let registry ← c.registry d.driver
  return (⟨d.id, registry⟩, handshake)

/-- Makes a connected device ready for use: its options are checked before the first call, and the
answer of the instrument to who it is does not matter. -/
def setUp (c : Catalogue) (d : DeviceConfig) : Conversation (Except OpenError Instrument) :=
  match c.prepare d with
  | .error e => return .error e
  | .ok (instrument, handshake) => do
    match ← instrument.registry.session.runScript handshake with
    | .error e => return .error (.handshake d.id e)
    | .ok _ =>
      let _ ← instrument.connectMessage
      return .ok instrument

/-- What came of opening a device. -/
inductive Opening where
  /-- The device is not ready; if it was connected, its channel stays. -/
  | failed (cause : OpenError) (channel : Option Channel)
  | ready (instrument : Instrument) (channel : Channel)

/-- Connects a device unless it is disabled, and makes it ready for use. -/
def openDevice (c : Catalogue) (ports : Ports) (d : DeviceConfig) : Opening :=
  if !d.enabled then .failed (.disabled d.id) none
  else
    match c.connect ports d with
    | .error e => .failed e none
    | .ok channel =>
      match (c.setUp d).run Channel.link channel with
      | (.ok instrument, channel) => .ready instrument channel
      | (.error e, channel) => .failed e (some channel)

end Catalogue

end InstrumentControl
