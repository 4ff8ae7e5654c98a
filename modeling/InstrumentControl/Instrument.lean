import InstrumentControl.Keyed
import InstrumentControl.Registry.Session

/-! Instruments in use.  A snapshot reads every readable parameter in the order of the table and
keeps the failures beside the values. -/

namespace InstrumentControl

/-- The outcome of one read of a snapshot. -/
inductive Reading where
  | value (v : Value)
  | failed (message : String)
deriving DecidableEq

def Reading.ofResult : Except GetError Value → Reading
  | .ok v => .value v
  | .error e => .failed e.message

structure Instrument where
  name : String
  registry : Registry

namespace Instrument

/-- Reads the parameters one after the other. -/
def readAll (a : Access) : List String → Conversation (List (String × Reading))
  | [] => return []
  | name :: names => do
    let result ← a.get name
    return (name, Reading.ofResult result) :: (← readAll a names)

/-- The names of the parameters that can be read, in the order of the table. -/
def readableNames (r : Registry) : List String :=
  (r.entries.filter (·.parameter.isReadable)).map (·.parameter.name)

/-- The readings of all readable parameters of a table, in the order of their names. -/
def snapshotThrough (r : Registry) (a : Access) : Conversation (Keyed Reading) := do
  return Keyed.ofList (← readAll a (readableNames r))

/-- The readings of all readable parameters, in the order of their names. -/
def snapshot (i : Instrument) : Conversation (Keyed Reading) :=
  snapshotThrough i.registry i.registry.session

/-- The name of the parameter by which instruments identify themselves. -/
def identityName : String := "identity"

/-- What the instrument says it is, if it has a parameter for it that can be read. -/
def connectMessage (i : Instrument) : Conversation (Option String) :=
  if (i.registry.entry? identityName).isNone then return none
  else do
    match ← i.registry.get identityName with
    | .ok v => return some v.display
    | .error _ => return none

end Instrument

end InstrumentControl
