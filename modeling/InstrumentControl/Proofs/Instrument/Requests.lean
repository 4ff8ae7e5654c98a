import InstrumentControl.Instrument
import InstrumentControl.Proofs.Conversation
import InstrumentControl.Proofs.Registry.Reading

/-! Runs of an instrument: what a user asks of it, one request after the other.  A run keeps to a
rule if every request does. -/

namespace InstrumentControl

inductive Request where
  | get (name : String)
  | set (name : String) (value : Value)
  | call (name : String) (values : List Value)
  | snapshot

/-- What comes of a request. -/
inductive Outcome where
  | got (result : Except GetError Value)
  | set (result : Except SetError Unit)
  | called (result : Except CallError Unit)
  | readings (table : Keyed Reading)

namespace Instrument

def answer (i : Instrument) : Request → Conversation Outcome
  | .get name => do return .got (← i.registry.get name)
  | .set name value => do return .set (← i.registry.set name value)
  | .call name values => do return .called (← i.registry.call name values)
  | .snapshot => do return .readings (← i.snapshot)

/-- The conversation of a run. -/
def serve (i : Instrument) : List Request → Conversation (List Outcome)
  | [] => return []
  | request :: requests => do
    let outcome ← i.answer request
    return outcome :: (← i.serve requests)

end Instrument

open Conversation

variable {rule : Rule} {r : Registry}

/-- Nothing is sent: the call is a query. -/
def asks : Rule := fun _ e => ∃ command reply, e = ⟨.query command, reply⟩

namespace Registry

theorem fetch_keeps {p : Parameter} {a : Access}
    (hquery : ∀ command, p.getter = .query command →
      ∀ last reply, rule last ⟨.query command, reply⟩)
    (hroutine : ∀ script, p.getter = .custom script → Keeps rule (a.runScript script)) :
    Keeps rule (fetch a p) := by
  unfold fetch
  split
  · exact .done _
  · next command hgetter => exact .call (hquery command hgetter)
  · next script hgetter => exact hroutine script hgetter

theorem getThrough_keeps (hr : r.WellFormed) {a : Access}
    (hfetch : ∀ p ∈ r.entries.map Entry.parameter, Keeps rule (fetch a p)) (name : String) :
    Keeps rule (r.getThrough a name) := by
  unfold getThrough
  split
  · exact .done _
  · next e hfound =>
    have he := (hr.entry?_eq_some.mp hfound).1
    exact (hfetch _ (List.mem_map_of_mem he)).bind fun _ => .done _

end Registry

namespace Instrument

theorem readAll_keeps {a : Access} (hget : ∀ name, Keeps rule (a.get name)) (names : List String) :
    Keeps rule (readAll a names) := by
  induction names with
  | nil => exact .done _
  | cons name names ih => exact (hget name).bind fun _ => ih.bind fun _ => .done _

theorem snapshot_keeps {i : Instrument} (hget : ∀ name, Keeps rule (i.registry.get name)) :
    Keeps rule i.snapshot :=
  (readAll_keeps hget _).bind fun _ => .done _

theorem serve_keeps {i : Instrument} {requests : List Request}
    (h : ∀ request ∈ requests, Keeps rule (i.answer request)) : Keeps rule (i.serve requests) := by
  induction requests with
  | nil => exact .done _
  | cons request requests ih =>
    have hfirst := h request (List.mem_cons_self ..)
    have hrest := ih fun request' hmem => h request' (List.mem_cons_of_mem _ hmem)
    exact hfirst.bind fun _ => hrest.bind fun _ => .done _

end Instrument

end InstrumentControl
