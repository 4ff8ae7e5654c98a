import InstrumentControl.Parameter
import InstrumentControl.Template.Sites

/-! Tables of the parameters and functions of one instrument model.  `enter` and `enterFunction`
check a declaration and enter it at the end of the table, with its place in the index of names;
names are shared by parameters and functions and occur once.  Building goes on one table: what was
done before a refusal stays done, and a refused declaration leaves the table as it was. -/

namespace InstrumentControl

/-- A parameter of a table, with its template if it is set by one. -/
structure Entry where
  parameter : Parameter
  template : Option Template

structure FunctionEntry where
  function : Function
  template : Template

structure Registry where
  /-- In the order of registration. -/
  entries : List Entry := []
  /-- The places of the parameters in `entries`. -/
  index : Keyed Nat := []
  functions : List FunctionEntry := []
  /-- The places of the functions in `functions`. -/
  functionIndex : Keyed Nat := []

namespace Registry

/-- A step in the building of a table.  A refusal does not undo what was done before it. -/
abbrev Building (α : Type) : Type := ExceptT RegistrationError (StateM Registry) α

def entry? (r : Registry) (name : String) : Option Entry :=
  (r.index.get? name).bind fun place => r.entries[place]?

def parameter? (r : Registry) (name : String) : Option Parameter :=
  (r.entry? name).map Entry.parameter

def functionEntry? (r : Registry) (name : String) : Option FunctionEntry :=
  (r.functionIndex.get? name).bind fun place => r.functions[place]?

def names (r : Registry) : List String := r.entries.map (·.parameter.name)

def functionNames (r : Registry) : List String := r.functions.map (·.function.name)

def isTaken (r : Registry) (name : String) : Bool :=
  r.index.contains name || r.functionIndex.contains name

/-- The template of a parameter that is set by one, with no site but `val`. -/
def compile (p : Parameter) : Except RegistrationError (Option Template) :=
  match p.setter with
  | .template source =>
    match Template.parse source with
    | .error cause => .error (.invalidTemplate p.name (.malformed cause))
    | .ok t =>
      match t.keys.find? (· ≠ Template.valueKey) with
      | some key => .error (.invalidTemplate p.name (.foreignSite source key))
      | none => .ok (some t)
  | _ => .ok none

/-- The entry of a parameter, if the table takes it. -/
def entryFor (r : Registry) (p : Parameter) : Except RegistrationError Entry := do
  if r.isTaken p.name then throw (.duplicateName p.name)
  if !p.isReadable && !p.isSettable then throw (.incompleteSpec p.name)
  if p.hasEmptyMapping then throw (.emptyMapping p.name)
  if p.mapping.isSome && (p.domain.isSome || p.format.isSome) then
    throw (.conflictingConversion p.name)
  return ⟨p, ← compile p⟩

def push (r : Registry) (e : Entry) : Registry :=
  { r with
    index := Keyed.insert e.parameter.name r.entries.length r.index
    entries := r.entries ++ [e] }

def enter (p : Parameter) : Building Unit := do
  let e ← (← get).entryFor p
  modify (·.push e)

/-- Enters parameters up to the first that is refused. -/
def enterAll (parameters : List Parameter) : Building Unit := parameters.forM enter

/-- The sites of the template, in the order of their numbers, are those of `count` arguments. -/
def hasArgumentSites (t : Template) (count : Nat) : Bool :=
  Template.sortByNumber t.keys == argumentKeys count

/-- The entry of a function, if the table takes it. -/
def functionEntryFor (r : Registry) (f : Function) : Except RegistrationError FunctionEntry := do
  if r.isTaken f.name then throw (.duplicateName f.name)
  match Template.parse f.template with
  | .error cause => throw (.invalidTemplate f.name (.malformed cause))
  | .ok t =>
    if !hasArgumentSites t f.arguments.length then
      throw (.invalidTemplate f.name (.wrongSites f.template f.arguments.length))
    return ⟨f, t⟩

def pushFunction (r : Registry) (f : FunctionEntry) : Registry :=
  { r with
    functionIndex := Keyed.insert f.function.name r.functions.length r.functionIndex
    functions := r.functions ++ [f] }

def enterFunction (f : Function) : Building Unit := do
  let e ← (← get).functionEntryFor f
  modify (·.pushFunction e)

/-- The table after a step, and whether the step was refused. -/
def perform (r : Registry) (step : Building Unit) : Registry × Except RegistrationError Unit :=
  let (outcome, r) := step.run.run r
  (r, outcome)

/-- The table after a step, unless it is refused. -/
def extend (r : Registry) (step : Building Unit) : Except RegistrationError Registry :=
  let (r, outcome) := r.perform step
  outcome.map fun _ => r

def register (r : Registry) (p : Parameter) : Except RegistrationError Registry :=
  r.extend (enter p)

/-- Registers parameters up to the first that is refused, and gives the table reached and the
refusal. -/
def registerAll (r : Registry) (parameters : List Parameter) :
    Registry × Except RegistrationError Unit :=
  r.perform (enterAll parameters)

def registerFunction (r : Registry) (f : Function) : Except RegistrationError Registry :=
  r.extend (enterFunction f)

/-- The table of the given parameters and functions, unless one of them is refused. -/
def build (parameters : List Parameter) (functions : List Function) :
    Except RegistrationError Registry :=
  Registry.extend {} do
    enterAll parameters
    functions.forM enterFunction

end Registry

end InstrumentControl
