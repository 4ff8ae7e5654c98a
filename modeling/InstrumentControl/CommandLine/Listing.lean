import InstrumentControl.Catalogue.Basic
import InstrumentControl.Device.Format
import InstrumentControl.Json.Writer
import InstrumentControl.Registry.Description

/-! What the commands print: listings in columns, or JSON texts. -/

namespace InstrumentControl

/-- A table of the entries that are there. -/
def Data.present (entries : List (String × Option Data)) : Data :=
  .table (entries.filterMap fun e => e.2.map fun d => (e.1, d))

def ParameterInfo.toData (p : ParameterInfo) : Data :=
  .present [("name", some (.text p.name)), ("label", some (.text p.label)),
    ("unit", p.unit.map .text), ("readable", some (.bool p.readable)),
    ("settable", some (.bool p.settable)), ("domain", p.domain.map .text),
    ("query", p.query.map .text), ("command", p.command.map .text)]

def FunctionInfo.toData (f : FunctionInfo) : Data :=
  .present [("name", some (.text f.name)), ("command", some (.text f.command)),
    ("args", some (.list (f.arguments.map .text))), ("doc", f.doc.map .text)]

def Reading.toData : Reading → Data
  | value v => .table [("value", v.toData)]
  | failed message => .table [("error", .text message)]

namespace Listing

/-- The text with blanks after it up to a width. -/
def column (width : Nat) (s : String) : String :=
  s ++ String.ofList (List.replicate (width - s.length) ' ')

/-- Lines, each with its end. -/
def ofLines (lines : List String) : String := String.join (lines.map (· ++ "\n"))

def json (d : Data) : String := ofLines [Json.pretty d]

def models (c : Catalogue) (asJson : Bool) : String :=
  if asJson then
    json (.list (c.models.map fun m =>
      .table [("driver_type", .text m.type), ("name", .text m.name)]))
  else ofLines (c.models.map fun m => column 16 m.type ++ " " ++ m.name)

/-- How a parameter can be used. -/
def access (p : ParameterInfo) : String :=
  match p.readable, p.settable with
  | true, true => "rw"
  | true, false => "r"
  | false, true => "w"
  | false, false => "-"

def parameterLine (p : ParameterInfo) : String :=
  column 24 p.name ++ " " ++ column 3 (access p) ++ " " ++ column 6 (p.unit.getD "") ++ " " ++
    p.domain.getD ""

def functionLine (f : FunctionInfo) : String :=
  column 24 f.name ++ " fn  " ++ column 6 "" ++ " " ++ f.doc.getD f.command

def registry (type : String) (r : Registry) (asJson : Bool) : String :=
  if asJson then
    json (Data.sorted (.table [("driver", .text type),
      ("parameters", .list (r.describe.map ParameterInfo.toData)),
      ("functions", .list (r.describeFunctions.map FunctionInfo.toData))]))
  else ofLines (r.describe.map parameterLine ++ r.describeFunctions.map functionLine)

def value (device parameter : String) (v : Value) (asJson : Bool) : String :=
  if asJson then
    ofLines [Json.compact (.table [("device", .text device), ("parameter", .text parameter),
      ("value", v.toData)])]
  else ofLines [v.display]

def readingText : Reading → String
  | .value v => v.display
  | .failed message => "<error: " ++ message ++ ">"

def snapshot (readings : Keyed Reading) (asJson : Bool) : String :=
  if asJson then json (.table (readings.map fun e => (e.1, e.2.toData)))
  else ofLines (readings.map fun e => column 24 e.1 ++ " " ++ readingText e.2)

/-- The commands and queries among calls. -/
def commands (calls : List Call) : List String :=
  calls.filterMap fun
    | .send c => some ("send  " ++ c)
    | .query c => some ("query " ++ c)
    | .receive | .clear => none

def dryRun (calls : List Call) (asJson : Bool) : String :=
  if asJson then json (.table [("dry_run", .list ((commands calls).map .text))])
  else ofLines (commands calls)

end Listing

end InstrumentControl
