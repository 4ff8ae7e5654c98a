import InstrumentControl.Device.Config
import InstrumentControl.Domain
import InstrumentControl.Toml.Moment

/-! The forms in which values, domains and device configurations are written and read as data.  A
value is the plain scalar; a domain is a table of one entry, named for its kind; a framing and a
connection are tables with a `type`.  A record may also be a list of its members in order, and
members that a record does not have are ignored. -/

namespace InstrumentControl

namespace Value

def toData : Value → Data
  | bool b => .bool b
  | int i => .int i.toInt
  | float x => .real x
  | text s => .text s

/-- Integers beyond 64 bits become reals. -/
def ofData? : Data → Option Value
  | .bool b => some (bool b)
  | .int i =>
    some (((Decimal.int64? i).map int).getD (float (Decimal.ofInt i)))
  | .real x => some (float x)
  | .text s => some (text s)
  | _ => none

end Value

namespace Domain

mutual

def toData : Domain → Data
  | numbers min max => .table [("numbers", .table [("min", .real min), ("max", .real max)])]
  | ints min max =>
    .table [("ints", .table [("min", .int min.toInt), ("max", .int max.toInt)])]
  | oneOf choices => .table [("enum", .list (choices.map Value.toData))]
  | bool => .text "bool"
  | anyOf members => .table [("multi_type", .list (allToData members))]

def allToData : List Domain → List Data
  | [] => []
  | d :: ds => toData d :: allToData ds

end

def realBound? : Data → Option Float
  | .int i => some (Decimal.ofInt i)
  | .real x => some x
  | _ => none

def integerBound? : Data → Option Int64
  | .int i => Decimal.int64? i
  | _ => none

/-- The lower and the upper bound of a range. -/
def range? {α : Type} (bound? : Data → Option α) (d : Data) : Option (α × α) := do
  let entries ← d.fields? ["min", "max"]
  return (← Data.required? entries "min" bound?, ← Data.required? entries "max" bound?)

/-- The lists and tables that may be nested in one another. -/
def nesting : Nat := 127

mutual

/-- The domain of a data value inside which `room` further lists and tables may be nested. -/
def ofDataWithin? (room : Nat) : Data → Option Domain
  | .text "bool" => some bool
  | .table [("bool", .null)] => if room < 1 then none else some bool
  | .table [("numbers", d)] =>
    if room < 2 then none else (range? realBound? d).map fun p => numbers p.1 p.2
  | .table [("ints", d)] =>
    if room < 2 then none else (range? integerBound? d).map fun p => ints p.1 p.2
  | .table [("enum", .list items)] =>
    if room < 2 then none else (items.mapM Value.ofData?).map oneOf
  | .table [("multi_type", .list items)] =>
    if room < 2 then none else (allOfDataWithin? (room - 2) items).map anyOf
  | _ => none

def allOfDataWithin? (room : Nat) : List Data → Option (List Domain)
  | [] => some []
  | d :: ds => do return (← ofDataWithin? room d) :: (← allOfDataWithin? room ds)

end

def ofData? (d : Data) : Option Domain := ofDataWithin? nesting d

end Domain

namespace Framing

def toData : Framing → Data
  | plain => .table [("type", .text "plain")]
  | echoPrompt prompt => .table [("type", .text "echo_prompt"), ("prompt", .text prompt)]
  | echoLine => .table [("type", .text "echo_line")]

/-- Nothing but the tag may stand in a list of a framing without members. -/
def withoutMembers? (framing : Framing) : Data → Option Framing
  | .list (_ :: _) => none
  | _ => some framing

def variants : List String := ["plain", "echo_prompt", "echo_line"]

def ofData? (d : Data) : Option Framing := do
  if Domain.nesting < d.depth then none
  let (tag, rest) ← d.tagged? "type" variants
  if tag = "plain" then withoutMembers? plain rest
  else if tag = "echo_line" then withoutMembers? echoLine rest
  else if tag = "echo_prompt" then
    let entries ← rest.fields? ["prompt"]
    return echoPrompt (← Data.required? entries "prompt" Data.text?)
  else none

end Framing

namespace Terminators

def toData (t : Terminators) : Data :=
  .table [("write", .text t.write), ("read", .text t.read)]

def ofData? (d : Data) : Option Terminators := do
  let entries ← d.fields? ["write", "read"]
  return ⟨← Data.required? entries "write" Data.text?, ← Data.required? entries "read" Data.text?⟩

end Terminators

namespace SerialSettings

def toData (s : SerialSettings) : Data :=
  .table [("baud_rate", .int s.baudRate), ("data_bits", .int s.dataBits),
    ("parity", .text s.parity), ("stop_bits", .int s.stopBits)]

def ofData? (d : Data) : Option SerialSettings := do
  let entries ← d.fields? ["baud_rate", "data_bits", "parity", "stop_bits"]
  let base : SerialSettings := {}
  return {
    baudRate := ← Data.defaulted? entries "baud_rate" base.baudRate (Data.natBelow? 0x100000000)
    dataBits := ← Data.defaulted? entries "data_bits" base.dataBits (Data.natBelow? 0x100)
    parity := ← Data.defaulted? entries "parity" base.parity Data.text?
    stopBits := ← Data.defaulted? entries "stop_bits" base.stopBits (Data.natBelow? 0x100) }

end SerialSettings

/-- A text that may be absent. -/
def Data.ofText? (s : Option String) : Data := (s.map Data.text).getD .null

/-- A number that may be absent. -/
def Data.ofNat? (n : Option Nat) : Data := (n.map fun n => Data.int n).getD .null

namespace Connection

def toData : Connection → Data
  | serial port baudRate dataBits parity stopBits limit write read =>
    .table [("type", .text "serial"), ("port", .text port), ("baud_rate", .ofNat? baudRate),
      ("data_bits", .ofNat? dataBits), ("parity", .ofText? parity),
      ("stop_bits", .ofNat? stopBits), ("timeout_ms", .ofNat? limit),
      ("write_terminator", .ofText? write), ("read_terminator", .ofText? read)]
  | tcp host port limit write read =>
    .table [("type", .text "tcp"), ("host", .text host), ("port", .ofNat? port),
      ("timeout_ms", .ofNat? limit), ("write_terminator", .ofText? write),
      ("read_terminator", .ofText? read)]
  | mock responses =>
    .table [("type", .text "mock"),
      ("responses", .table (responses.map fun p => (p.1, .text p.2)))]

/-- A text that may be absent, or left out. -/
def textMember? (entries : List (String × Data)) (name : String) : Option (Option String) :=
  Data.defaulted? entries name none (Data.optional? Data.text?)

/-- A number below `bound` that may be absent, or left out. -/
def natMember? (bound : Nat) (entries : List (String × Data)) (name : String) :
    Option (Option Nat) :=
  Data.defaulted? entries name none (Data.optional? (Data.natBelow? bound))

def variants : List String := ["serial", "tcp", "mock"]

def ofData? (d : Data) : Option Connection := do
  let (tag, rest) ← d.tagged? "type" variants
  if tag = "serial" then
    let entries ← rest.fields? ["port", "baud_rate", "data_bits", "parity", "stop_bits",
      "timeout_ms", "write_terminator", "read_terminator"]
    return serial (← Data.required? entries "port" Data.text?)
      (← natMember? 0x100000000 entries "baud_rate") (← natMember? 0x100 entries "data_bits")
      (← textMember? entries "parity") (← natMember? 0x100 entries "stop_bits")
      (← natMember? 0x10000000000000000 entries "timeout_ms")
      (← textMember? entries "write_terminator") (← textMember? entries "read_terminator")
  else if tag = "tcp" then
    let entries ← rest.fields? ["host", "port", "timeout_ms", "write_terminator",
      "read_terminator"]
    return tcp (← Data.required? entries "host" Data.text?) (← natMember? 0x10000 entries "port")
      (← natMember? 0x10000000000000000 entries "timeout_ms")
      (← textMember? entries "write_terminator") (← textMember? entries "read_terminator")
  else if tag = "mock" then
    let entries ← rest.fields? ["responses"]
    return mock (← Data.defaulted? entries "responses" [] Data.textTable?)
  else none

end Connection

namespace Options

mutual

/-- The value of an option: data without absent values, in which the keys of a table are distinct.
A table whose first key is the one that stands for a point in time holds the time in its standard
form; a lenient reading leaves further entries aside. -/
def value? (lenient : Bool) : Data → Option Data
  | .bool b => some (.bool b)
  | .int i => (Decimal.int64? i).map fun _ => .int i
  | .unsigned n => (Decimal.int64? n).map fun _ => .int n
  | .real x => some (.real x)
  | .text s => some (.text s)
  | .char c => some (.text (String.singleton c))
  | .list items => (values? lenient items).map .list
  | .table entries =>
    match entries.head?.filter (·.1 = Toml.momentKey) with
    | some (key, d) =>
      if entries.length = 1 || lenient then do
        let m ← Toml.Moment.read? (← d.text?)
        return .table [(key, .text m.text)]
      else none
    | none =>
      if (entries.map Prod.fst).Nodup then
        (entryValues? lenient entries).map fun es => .table (Keyed.ofList es)
      else none
  | .null | .unreadable => none

def values? (lenient : Bool) : List Data → Option (List Data)
  | [] => some []
  | d :: ds => do return (← value? lenient d) :: (← values? lenient ds)

def entryValues? (lenient : Bool) : List (String × Data) → Option (List (String × Data))
  | [] => some []
  | (key, d) :: rest => do return (key, ← value? lenient d) :: (← entryValues? lenient rest)

end

def ofData? (lenient : Bool) : Data → Option Options
  | .table entries => (entryValues? lenient entries).map Keyed.ofList
  | _ => none

end Options

namespace DeviceConfig

def toData (c : DeviceConfig) : Data :=
  .table [("id", .text c.id), ("driver", .text c.driver), ("enabled", .bool c.enabled),
    ("connection", c.connection.toData), ("options", .table c.options)]

/-- A connection, or options, for which one level of nesting is used up. -/
def nested? {α : Type} (lenient : Bool) (read : Data → Option α) (d : Data) : Option α :=
  if !lenient && Domain.nesting - 1 < d.depth then none else read d

def members : List String := ["id", "driver", "enabled", "connection", "options"]

/-- The configuration of a device.  A lenient reading leaves aside what follows the last member in a
list, and sets no limit to nesting. -/
def ofData? (lenient : Bool) (d : Data) : Option DeviceConfig := do
  let entries ← (if lenient then d.take members.length else d).fields? members
  return {
    id := ← Data.required? entries "id" Data.text?
    driver := ← Data.required? entries "driver" Data.text?
    enabled := ← Data.defaulted? entries "enabled" true Data.bool?
    connection := ← Data.required? entries "connection" (nested? lenient Connection.ofData?)
    options := ← Data.defaulted? entries "options" [] (nested? lenient (Options.ofData? lenient)) }

end DeviceConfig

end InstrumentControl
