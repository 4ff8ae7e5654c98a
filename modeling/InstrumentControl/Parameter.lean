import InstrumentControl.AccessError
import InstrumentControl.Mapping

/-! Parameters and functions of an instrument as its command table declares them.  A parameter says
how it is read and set and how logical values relate to wire tokens: by a mapping, or by a domain
and a response format, or not at all.  A custom routine is a `Script`: a program that makes calls on
the link and may read and set other parameters of the same table and call its functions. -/

namespace InstrumentControl

/-- What a script can do. -/
inductive Operation where
  | link (c : Call)
  | get (name : String)
  | getWire (name : String)
  | set (name : String) (value : Value)
  | call (name : String) (values : List Value)

namespace Operation

abbrev Reply : Operation → Type
  | link c => c.Reply
  | get _ => Except GetError Value
  | getWire _ => Except GetError String
  | set _ _ => Except SetError Unit
  | call _ _ => Except CallError Unit

end Operation

/-- A custom routine of a parameter. -/
abbrev Script (α : Type) : Type := Program Operation.Reply α

namespace Script

def send (command : String) : Script (Except LinkError Unit) :=
  Program.perform (Operation.link (Call.send command))

def query (command : String) : Script (Except LinkError String) :=
  Program.perform (Operation.link (Call.query command))

/-- Reads a parameter. -/
def get (name : String) : Script (Except GetError Value) :=
  Program.perform (Operation.get name)

/-- Reads a parameter and gives the wire token of its value. -/
def getWire (name : String) : Script (Except GetError String) :=
  Program.perform (Operation.getWire name)

/-- Sets a parameter. -/
def set (name : String) (value : Value) : Script (Except SetError Unit) :=
  Program.perform (Operation.set name value)

/-- Calls a function. -/
def call (name : String) (values : List Value) : Script (Except CallError Unit) :=
  Program.perform (Operation.call name values)

end Script

/-- How a parameter is read. -/
inductive Getter where
  | none
  | query (command : String)
  | custom (script : Script (Except GetError String))

/-- How a parameter is set.  A custom routine gets the logical value and its wire token. -/
inductive Setter where
  | none
  | template (source : String)
  | custom (script : Value → String → Script (Except SetError Unit))

/-- The declaration of a parameter. -/
structure Parameter where
  name : String
  label : Option String := none
  unit : Option String := none
  getter : Getter := .none
  setter : Setter := .none
  /-- A mapping without pairs marks a declaration that was given none; no table takes it. -/
  mapping : Option Mapping := none
  domain : Option Domain := none
  format : Option ResponseFormat := none

namespace Parameter

def isReadable (p : Parameter) : Bool :=
  match p.getter with
  | .none => false
  | _ => true

def isSettable (p : Parameter) : Bool :=
  match p.setter with
  | .none => false
  | _ => true

/-- The declaration was given a mapping without pairs. -/
def hasEmptyMapping (p : Parameter) : Bool := p.mapping.any Mapping.isEmpty

/-- The text of the values that the parameter takes, if it declares them. -/
def domainText (p : Parameter) : Option String :=
  match p.mapping with
  | some m => some m.describe
  | none => p.domain.map Domain.describe

/-- Reads the state of a switch: `1` is `ON`, `0` is `OFF`, and any other response stays as it
is. -/
def switchState (query : String) : Script (Except GetError String) := do
  match ← Script.query query with
  | .error e => return .error (.link e)
  | .ok response =>
    let state := Text.strip response
    return .ok (if state = "1" then "ON" else if state = "0" then "OFF" else state)

/-- The declaration as messages for developers show it. -/
def tagged (p : Parameter) : String :=
  let option (text : Option String) : String :=
    match text with
    | some t => "Some(" ++ t ++ ")"
    | none => "None"
  let getter := match p.getter with
    | .none => "None"
    | .query command => "FixedQuery(" ++ Text.quoted command ++ ")"
    | .custom _ => "Custom(..)"
  let setter := match p.setter with
    | .none => "None"
    | .template source => "Template(" ++ Text.quoted source ++ ")"
    | .custom _ => "Custom(..)"
  let mapping := if p.hasEmptyMapping then none else p.mapping.map Mapping.tagged
  "ParameterSpec \x7b name: " ++ Text.quoted p.name ++
    ", label: " ++ option (p.label.map Text.quoted) ++
    ", unit: " ++ option (p.unit.map Text.quoted) ++
    ", get: " ++ getter ++ ", set: " ++ setter ++
    ", mapping: " ++ option mapping ++
    ", validator: " ++ option (p.domain.map Domain.tagged) ++
    ", parser: " ++ option (p.format.map ResponseFormat.tagged) ++
    ", empty_mapping: " ++ Value.boolText p.hasEmptyMapping ++ " \x7d"

end Parameter

/-- The declaration of a command with arguments, written at the sites `0`, `1` and so on. -/
structure Function where
  name : String
  template : String
  arguments : List Domain := []
  doc : Option String := none

end InstrumentControl
