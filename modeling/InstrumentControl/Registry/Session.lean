import InstrumentControl.Registry.Basic

/-! Reading and setting the parameters of a table and calling its functions over a link.  Nothing is
remembered between operations: a value is checked before the first call on the link, and every read
asks the instrument.  Custom routines may read and set other parameters and call functions.

A routine that leads back to itself need not end.  Conversations do end, so the chains of routines
are bounded: an access through `n` other parameters is an `Access` of depth `n`, where the chain
fails as circular, and `session` allows the depth that a chain of distinct reads and writes can have.
What is proved of a table for all depths holds of every chain that ends, and no chain of a known table
is cut. -/

namespace InstrumentControl

/-- The operations on a table that a script has at hand. -/
structure Access where
  get : String → Conversation (Except GetError Value)
  getWire : String → Conversation (Except GetError String)
  set : String → Value → Conversation (Except SetError Unit)
  call : String → List Value → Conversation (Except CallError Unit)

namespace Access

/-- The access that is left when a chain of custom routines has come back to a parameter.  Calling a
function runs no routine. -/
def exhausted (call : String → List Value → Conversation (Except CallError Unit)) : Access where
  get name := return .error (.circular name)
  getWire name := return .error (.circular name)
  set name _ := return .error (.circular name)
  call := call

/-- The conversation of one operation of a script. -/
def perform (a : Access) : (op : Operation) → Conversation op.Reply
  | .link c => Program.perform c
  | .get name => a.get name
  | .getWire name => a.getWire name
  | .set name value => a.set name value
  | .call name values => a.call name values

/-- The conversation of a script. -/
def runScript {α : Type} (a : Access) (s : Script α) : Conversation α := s.expand a.perform

end Access

namespace Registry

/-- The logical value of the response `raw` to a read of the parameter `p`. -/
def interpret (p : Parameter) (raw : String) : Except GetError Value :=
  match p.mapping with
  | some m =>
    match m.fromWire raw with
    | some value => .ok value
    | none => .error (.unmapped p.name (Text.strip raw))
  | none =>
    match p.format with
    | some format => (format.parse raw).mapError (.unparsed p.name raw)
    | none => .ok (.text raw)

/-- The wire token of `value` for the parameter `p`, if `p` accepts the value. -/
def tokenFor (p : Parameter) (value : Value) : Except Refusal String :=
  match p.mapping with
  | some m =>
    match m.toWire value with
    | some token => .ok token
    | none => .error (.mapping m.describe)
  | none =>
    match p.domain with
    | some d => (d.check value).map (fun _ => value.toWire) |>.mapError .domain
    | none => .ok value.toWire

/-- The response to a read of `p`, before it is interpreted. -/
def fetch (a : Access) (p : Parameter) : Conversation (Except GetError String) :=
  match p.getter with
  | .none => return .error (.notReadable p.name)
  | .query command => do return (← Conversation.query command).mapError .link
  | .custom script => a.runScript script

def getThrough (r : Registry) (a : Access) (name : String) :
    Conversation (Except GetError Value) :=
  match r.entry? name with
  | none => return .error (.unknownParameter name)
  | some e => do return (← fetch a e.parameter).bind (interpret e.parameter)

/-- The token that stands for `value` as the value of `name`: the mapping's token if there is
one. -/
def wireToken (r : Registry) (name : String) (value : Value) : String :=
  let mapped := ((r.parameter? name).bind Parameter.mapping).bind (·.toWire value)
  mapped.getD value.toWire

def getWireThrough (r : Registry) (a : Access) (name : String) :
    Conversation (Except GetError String) := do
  return (← r.getThrough a name).map (r.wireToken name)

/-- Carries an accepted value to the instrument: one command from the template, or the custom
routine. -/
def deliver (a : Access) (e : Entry) (value : Value) (token : String) :
    Conversation (Except SetError Unit) :=
  match e.parameter.setter, e.template with
  | .custom script, _ => a.runScript (script value token)
  | .template _, some t =>
    match t.renderValue token with
    | .error fault => return .error (.format e.parameter.name fault)
    | .ok command => do return (← Conversation.send command).mapError .link
  | _, _ => return .error (.notSettable e.parameter.name)

def setThrough (r : Registry) (a : Access) (name : String) (value : Value) :
    Conversation (Except SetError Unit) :=
  match r.entry? name with
  | none => return .error (.unknownParameter name)
  | some e =>
    if !e.parameter.isSettable then return .error (.notSettable name)
    else
      match tokenFor e.parameter value with
      | .error refusal => return .error (.invalidValue name value.display refusal)
      | .ok token => deliver a e value token

/-- The wire tokens of arguments, or the position of the first that its domain refuses. -/
def argumentTokens (name : String) :
    (index : Nat) → List Domain → List Value → Except CallError (List String)
  | index, d :: domains, value :: values =>
    match d.check value with
    | .error rejection => .error (.invalidArgument name index value.display rejection)
    | .ok _ => (argumentTokens name (index + 1) domains values).map (value.toWire :: ·)
  | _, _, _ => .ok []

/-- The command of a function with the given arguments. -/
def commandFor (f : FunctionEntry) (values : List Value) : Except CallError String :=
  let domains := f.function.arguments
  if values.length ≠ domains.length then
    .error (.argumentCount f.function.name domains.length values.length)
  else
    match argumentTokens f.function.name 0 domains values with
    | .error e => .error e
    | .ok tokens => (f.template.renderArguments tokens).mapError (.format f.function.name)

/-- Calls a function: one command, if the arguments are accepted. -/
def call (r : Registry) (name : String) (values : List Value) :
    Conversation (Except CallError Unit) :=
  match r.functionEntry? name with
  | none => return .error (.unknownFunction name)
  | some f =>
    match commandFor f values with
    | .error e => return .error e
    | .ok command => do return (← Conversation.send command).mapError .link

/-- The access to the table through `depth` other parameters. -/
def access (r : Registry) : (depth : Nat) → Access
  | 0 => Access.exhausted r.call
  | depth + 1 =>
    let inner := r.access depth
    { get := r.getThrough inner
      getWire := r.getWireThrough inner
      set := r.setThrough inner
      call := r.call }

/-- The access to the table, deep enough for a chain that sets and reads each parameter once. -/
def session (r : Registry) : Access := r.access (2 * r.entries.length + 1)

/-- Reads a parameter. -/
def get (r : Registry) (name : String) : Conversation (Except GetError Value) :=
  r.session.get name

/-- Reads a parameter and gives the wire token of its value. -/
def getWire (r : Registry) (name : String) : Conversation (Except GetError String) :=
  r.session.getWire name

/-- Sets a parameter. -/
def set (r : Registry) (name : String) (value : Value) : Conversation (Except SetError Unit) :=
  r.session.set name value

end Registry

end InstrumentControl
