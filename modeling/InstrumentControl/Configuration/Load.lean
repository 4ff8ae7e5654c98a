import InstrumentControl.Configuration.Basic
import InstrumentControl.Configuration.Variables
import InstrumentControl.Toml.Document

/-! Loading configurations: from the text of a document, or from a file with the overrides of the
environment. -/

namespace InstrumentControl.Configuration

/-- Why there is no configuration. -/
inductive LoadError where
  | notFound (path : String)
  /-- The file, with the overrides, is no configuration. -/
  | malformedFile (path : String)
  | malformedText
deriving DecidableEq

def LoadError.message : LoadError → String
  | notFound path => "Config file not found: " ++ path
  | malformedFile path => "Failed to parse config file: " ++ path
  | malformedText => "Failed to parse TOML content"

/-- The key of the entry that a table stands for. -/
def contentKey : String := "___figment_value_value"

/-- The key that no table may have but the document itself. -/
def sourceKey : String := "___figment_value_id"

mutual

/-- The data with each table that has an entry of the content key replaced by that entry. -/
def unwrap? : Data → Option Data
  | .list items => (unwrapItems? items).map .list
  | .table entries => do
    let entries ← unwrapEntries? entries
    if entries.any (·.1 = sourceKey) then none
    return ((entries.find? (·.1 = contentKey)).map Prod.snd).getD (.table entries)
  | d => some d

def unwrapItems? : List Data → Option (List Data)
  | [] => some []
  | d :: ds => do return (← unwrap? d) :: (← unwrapItems? ds)

def unwrapEntries? : List (String × Data) → Option (List (String × Data))
  | [] => some []
  | (key, d) :: rest => do return (key, ← unwrap? d) :: (← unwrapEntries? rest)

end

/-- The entries of a document, in the order of their keys. -/
def readDocument? (text : String) : Option Data := do
  match ← Toml.read? text with
  | .table entries => return (Data.table (← unwrapEntries? entries)).sorted
  | _ => none

/-- The configuration of a document. -/
def ofText (text : String) : Except LoadError Configuration :=
  match (readDocument? text).bind ofData? with
  | some s => .ok s
  | none => .error .malformedText

/-- The configuration of the file of the given path, with the overrides of variables. -/
def load (files : String → Option String) (environment : List Variable) (path : String) :
    Except LoadError Configuration :=
  match files path with
  | none => .error (.notFound path)
  | some text =>
    match (readDocument? text).bind fun d => ofData? (d.merge (overrides environment)) with
    | some s => .ok s
    | none => .error (.malformedFile path)

end InstrumentControl.Configuration
