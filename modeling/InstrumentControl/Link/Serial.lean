import InstrumentControl.Link.Line
import InstrumentControl.Text.Case

/-! Serial ports.  The settings of a port are checked in the order data bits, parity, stop bits.  A
`Responder` is a far end that takes commands up to its terminator and answers each with the next of
its replies, or stays silent when the reply is empty or none is left. -/

namespace InstrumentControl

structure SerialSettings where
  baudRate : Nat := 9600
  dataBits : Nat := 8
  parity : String := "none"
  stopBits : Nat := 1
deriving DecidableEq, Inhabited

/-- Why the settings of a port cannot be used. -/
inductive SettingsError where
  | dataBits (n : Nat)
  | parity (word : String)
  | stopBits (n : Nat)
deriving DecidableEq

def SettingsError.message : SettingsError → String
  | dataBits n => "Unsupported data bits: " ++ Decimal.decimalText n
  | parity word => "Unsupported parity: " ++ word
  | stopBits n => "Unsupported stop bits: " ++ Decimal.decimalText n

namespace SerialSettings

def parityWords : List String := ["none", "n", "odd", "o", "even", "e"]

def check (s : SerialSettings) : Except SettingsError Unit :=
  let parity := Text.lowercaseAscii s.parity
  if s.dataBits < 5 || 8 < s.dataBits then .error (.dataBits s.dataBits)
  else if !parityWords.contains parity then .error (.parity parity)
  else if s.stopBits ≠ 1 && s.stopBits ≠ 2 then .error (.stopBits s.stopBits)
  else .ok ()

end SerialSettings

/-- A far end that answers commands with replies set beforehand. -/
structure Responder where
  terminator : String
  replies : List String
  /-- What was written since the last terminator. -/
  partialCommand : List Char := []
  /-- The commands taken, in order. -/
  received : List String := []
deriving DecidableEq

namespace Responder

/-- Takes one command and gives what arrives in answer. -/
def take (r : Responder) (command : List Char) : List Arrival × Responder :=
  let r := { r with received := r.received ++ [String.ofList command] }
  match r.replies with
  | [] => ([], r)
  | reply :: replies =>
    let bytes := Text.Utf8.encode reply.toList
    (if bytes.isEmpty then [] else [.bytes bytes], { r with replies })

/-- Takes the commands that end in `text`, and keeps what follows the last of them.  No more than
`fuel` commands are taken. -/
def absorb (fuel : Nat) (r : Responder) (text : List Char) : List Arrival × Responder :=
  match fuel, Text.cutAt? r.terminator.toList text with
  | fuel + 1, some (command, rest) =>
    let (first, r) := r.take command
    let (others, r) := absorb fuel r rest
    (first ++ others, r)
  | _, _ => ([], { r with partialCommand := text })

def write (text : String) (r : Responder) : Except String (List Arrival) × Responder :=
  let pending := r.partialCommand ++ text.toList
  let (arrivals, r) := absorb pending.length r pending
  (.ok arrivals, r)

/-- The far end of an open wire.  Clearing a serial port discards what it has received. -/
def device : Device Responder where
  write := write
  drained := .silent
  discardsArrivals := true

end Responder

end InstrumentControl
