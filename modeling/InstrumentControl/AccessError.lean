import InstrumentControl.Domain
import InstrumentControl.Link
import InstrumentControl.Response
import InstrumentControl.Template.Basic

/-! What can go wrong when a table of parameters is built and when parameters are read and set.
Each error has one message; `chain` adds the messages of its causes.  A failure of the link keeps
its own message and causes. -/

namespace InstrumentControl

/-- Why the command template of a parameter or function is refused. -/
inductive TemplateRefusal where
  | malformed (cause : Template.ParseError)
  /-- A parameter's template has a site other than `val`. -/
  | foreignSite (source key : String)
  /-- A function's sites are not those of its arguments. -/
  | wrongSites (source : String) (count : Nat)
deriving DecidableEq

/-- The keys of the sites of `count` arguments. -/
def argumentKeys (count : Nat) : List String := (List.range count).map Template.argumentKey

def TemplateRefusal.message : TemplateRefusal → String
  | malformed cause => cause.message
  | foreignSite source key =>
    Text.quoted source ++ " names site '" ++ Text.braced [key] ++
      "', parameters only substitute '" ++ Text.braced [Template.valueKey] ++ "'"
  | wrongSites source count =>
    Text.quoted source ++ " must use sites " ++
      Text.bracketed ((argumentKeys count).map Text.quoted) ++ " for " ++
      Decimal.decimalText count ++ " argument(s)"

/-- Why a parameter or a function is not entered into a table. -/
inductive RegistrationError where
  | duplicateName (name : String)
  | incompleteSpec (name : String)
  | conflictingConversion (name : String)
  | emptyMapping (name : String)
  | invalidTemplate (name : String) (refusal : TemplateRefusal)
deriving DecidableEq

def RegistrationError.message : RegistrationError → String
  | duplicateName name => "Parameter '" ++ name ++ "' is already registered"
  | incompleteSpec name =>
    "Parameter '" ++ name ++ "' has neither a get nor a set strategy"
  | conflictingConversion name =>
    "Parameter '" ++ name ++ "' combines a value mapping with a validator or parser"
  | emptyMapping name => "Parameter '" ++ name ++ "' has an empty value mapping"
  | invalidTemplate name refusal =>
    "Invalid command template for '" ++ name ++ "': " ++ refusal.message

/-- Why a parameter could not be read. -/
inductive GetError where
  | unknownParameter (name : String)
  | notReadable (name : String)
  | unmapped (name response : String)
  | unparsed (name response : String) (cause : FormatError)
  /-- Reading the parameter leads back to the parameter itself. -/
  | circular (name : String)
  | link (cause : LinkError)
deriving DecidableEq

namespace GetError

def message : GetError → String
  | unknownParameter name => "Unknown parameter '" ++ name ++ "'"
  | notReadable name => "Parameter '" ++ name ++ "' is not readable"
  | unmapped name response =>
    "Parameter '" ++ name ++ "': response " ++ Text.quoted response ++
      " matches no known wire token"
  | unparsed name response cause =>
    "Parameter '" ++ name ++ "': cannot parse " ++ Text.quoted response ++ ": " ++ cause.message
  | circular name => "Parameter '" ++ name ++ "' is defined through itself"
  | link cause => cause.message

def chain (e : GetError) : List String :=
  match e with
  | link cause => cause.chain
  | _ => [e.message]

end GetError

/-- Why a value was not accepted. -/
inductive Refusal where
  | domain (rejection : Rejection)
  /-- No pair of the parameter's mapping agrees with the value. -/
  | mapping (values : String)
  /-- A rule of the instrument. -/
  | rule (reason : String)
deriving DecidableEq

def Refusal.message : Refusal → String
  | domain rejection => rejection.message
  | mapping values => "not one of " ++ values
  | rule reason => reason

/-- Why a parameter could not be set. -/
inductive SetError where
  | unknownParameter (name : String)
  | notSettable (name : String)
  | invalidValue (name value : String) (refusal : Refusal)
  /-- Setting the parameter needs the value of another one, which could not be read. -/
  | dependency (name : String) (cause : GetError)
  | format (name : String) (fault : Template.Fault)
  /-- Setting the parameter leads back to the parameter itself. -/
  | circular (name : String)
  | link (cause : LinkError)
deriving DecidableEq

namespace SetError

def message : SetError → String
  | unknownParameter name => "Unknown parameter '" ++ name ++ "'"
  | notSettable name => "Parameter '" ++ name ++ "' is not settable"
  | invalidValue name value refusal =>
    "Invalid value " ++ value ++ " for '" ++ name ++ "': " ++ refusal.message
  | dependency name cause =>
    "Parameter '" ++ name ++ "' depends on a read that failed: " ++ cause.message
  | format name fault => "Failed to format command for '" ++ name ++ "': " ++ fault.message
  | circular name => "Parameter '" ++ name ++ "' is defined through itself"
  | link cause => cause.message

def chain (e : SetError) : List String :=
  match e with
  | dependency _ cause => e.message :: cause.chain
  | link cause => cause.chain
  | _ => [e.message]

end SetError

/-- Why a function could not be called. -/
inductive CallError where
  | unknownFunction (name : String)
  | argumentCount (name : String) (expected got : Nat)
  | invalidArgument (name : String) (index : Nat) (value : String) (rejection : Rejection)
  | format (name : String) (fault : Template.Fault)
  | link (cause : LinkError)
deriving DecidableEq

namespace CallError

def message : CallError → String
  | unknownFunction name => "Unknown function '" ++ name ++ "'"
  | argumentCount name expected got =>
    "Function '" ++ name ++ "' takes " ++ Decimal.decimalText expected ++
      " argument(s), got " ++ Decimal.decimalText got
  | invalidArgument name index value rejection =>
    "Function '" ++ name ++ "' argument " ++ Decimal.decimalText index ++ ": invalid value " ++
      value ++ ": " ++ rejection.message
  | format name fault => "Failed to format command for '" ++ name ++ "': " ++ fault.message
  | link cause => cause.message

def chain (e : CallError) : List String :=
  match e with
  | link cause => cause.chain
  | _ => [e.message]

end CallError

end InstrumentControl
