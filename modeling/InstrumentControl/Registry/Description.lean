import InstrumentControl.Registry.Basic

/-! Descriptions of tables for listings: what each parameter and function is called, what it takes
and which command or query stands behind it. -/

namespace InstrumentControl

structure ParameterInfo where
  name : String
  label : String
  unit : Option String
  readable : Bool
  settable : Bool
  domain : Option String
  query : Option String
  command : Option String
deriving DecidableEq

structure FunctionInfo where
  name : String
  command : String
  arguments : List String
  doc : Option String
deriving DecidableEq

def Entry.info (e : Entry) : ParameterInfo where
  name := e.parameter.name
  label := e.parameter.label.getD e.parameter.name
  unit := e.parameter.unit
  readable := e.parameter.isReadable
  settable := e.parameter.isSettable
  domain := e.parameter.domainText
  query := match e.parameter.getter with
    | .query command => some command
    | _ => none
  command := e.template.map Template.source

def FunctionEntry.info (f : FunctionEntry) : FunctionInfo where
  name := f.function.name
  command := f.template.source
  arguments := f.function.arguments.map Domain.describe
  doc := f.function.doc

namespace Registry

/-- The parameters in the order of registration. -/
def describe (r : Registry) : List ParameterInfo := r.entries.map Entry.info

/-- The functions in the order of registration. -/
def describeFunctions (r : Registry) : List FunctionInfo := r.functions.map FunctionEntry.info

end Registry

end InstrumentControl
