import InstrumentControl.Proofs.Instrument.Requests
import InstrumentControl.Proofs.Registry.Asking

/-! Tables that keep to a rule.  If reading each parameter keeps to it, and so does every command of
a template and every routine that a setting runs, then every run of an instrument does. -/

namespace InstrumentControl

open Conversation

namespace Registry

/-- Reading keeps to a rule if every parameter is fetched by it. -/
theorem WellFormed.get_keeps {rule : Rule} {r : Registry} (hr : r.WellFormed)
    (hreads : ∀ p ∈ r.entries.map Entry.parameter, ∀ depth,
      Keeps rule (fetch (r.access (depth + 1)) p)) (name : String) : Keeps rule (r.get name) := by
  refine getThrough_keeps hr (fun p hp => ?_) name
  obtain ⟨depth, hdepth⟩ := exists_depth ⟨hp, rfl⟩
  rw [hdepth]
  exact hreads p hp depth

/-- Everything that the table does on a link keeps to the rule. -/
structure Keeping (rule : Rule) (r : Registry) : Prop where
  wellFormed : r.WellFormed
  reads : ∀ p ∈ r.entries.map Entry.parameter, ∀ depth,
    Keeps rule (fetch (r.access (depth + 1)) p)
  commands : ∀ {name value command}, r.Commands name value command →
    ∀ last reply, rule last ⟨.send command, reply⟩
  routines : ∀ {name value routine}, r.Delegates name value routine → ∀ depth,
    Keeps rule ((r.access (depth + 1)).runScript routine)
  calls : ∀ f ∈ r.functions, ∀ {values command}, commandFor f values = .ok command →
    ∀ last reply, rule last ⟨.send command, reply⟩

namespace Keeping

variable {rule : Rule} {r : Registry}

theorem get_keeps (hr : r.Keeping rule) (name : String) : Keeps rule (r.get name) :=
  hr.wellFormed.get_keeps hr.reads name

theorem set_keeps (hr : r.Keeping rule) (name : String) (value : Value) :
    Keeps rule (r.set name value) := by
  show Keeps rule (r.setThrough (r.access (2 * r.entries.length)) name value)
  rcases hr.wellFormed.refuses_or_commands_or_delegates name value with
    ⟨error, herror⟩ | ⟨command, hcommand⟩ | ⟨routine, hdelegates⟩
  · rw [hr.wellFormed.setThrough_refused herror]
    exact .done _
  · rw [hr.wellFormed.setThrough_commanded hcommand]
    exact .call (hr.commands hcommand)
  · obtain ⟨p, script, token, hp, -⟩ := id hdelegates
    obtain ⟨depth, hdepth⟩ := exists_depth hp
    rw [hr.wellFormed.setThrough_delegated hdelegates, hdepth]
    exact hr.routines hdelegates depth

theorem call_keeps (hr : r.Keeping rule) (name : String) (values : List Value) :
    Keeps rule (r.call name values) := by
  cases hfound : r.functionEntry? name with
  | none =>
    rw [call, hfound]
    exact .done _
  | some f =>
    cases hcommand : commandFor f values with
    | error e =>
      rw [call_refused hfound hcommand]
      exact .done _
    | ok command =>
      rw [call_commanded hfound hcommand]
      exact .call (hr.calls f (hr.wellFormed.functionEntry?_eq_some.mp hfound).1 hcommand)

theorem answer_keeps (hr : r.Keeping rule) (id : String) (request : Request) :
    Keeps rule (Instrument.answer ⟨id, r⟩ request) := by
  cases request with
  | get name => exact (hr.get_keeps name).bind fun _ => .done _
  | set name value => exact (hr.set_keeps name value).bind fun _ => .done _
  | call name values => exact (hr.call_keeps name values).bind fun _ => .done _
  | snapshot => exact (Instrument.snapshot_keeps hr.get_keeps).bind fun _ => .done _

/-- Every run keeps to the rule. -/
theorem serve_keeps (hr : r.Keeping rule) (id : String) (requests : List Request) :
    Keeps rule (Instrument.serve ⟨id, r⟩ requests) :=
  Instrument.serve_keeps fun request _ => hr.answer_keeps id request

end Keeping

end Registry

end InstrumentControl
