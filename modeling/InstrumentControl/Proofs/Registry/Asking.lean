import InstrumentControl.Link.Scripted
import InstrumentControl.Proofs.Registry.Calling

/-! How operations on a table begin.  If every custom routine begins by asking the instrument, an
operation is refused without a call, sends one command, or begins with a query and passes a failure
of that query on.  So it is known without an instrument how far an operation gets. -/

namespace InstrumentControl

namespace Conversation

variable {α β ε ε' : Type} {wrap : LinkError → ε} {wrap' : LinkError → ε'}

/-- The conversation begins with a query, and when the query fails it ends with that failure. -/
def Asks (wrap : LinkError → ε) (p : Conversation (Except ε α)) : Prop :=
  ∃ command next, p = .step (.query command) next ∧
    ∀ cause, next (.error cause) = .done (.error (wrap cause))

theorem Asks.bind {p : Conversation (Except ε α)} {f : Except ε α → Conversation (Except ε' β)}
    (h : Asks wrap p) (hf : ∀ cause, f (.error (wrap cause)) = .done (.error (wrap' cause))) :
    Asks wrap' (p.bind f) := by
  obtain ⟨command, next, rfl, hnext⟩ := h
  refine ⟨command, _, rfl, fun cause => ?_⟩
  rw [hnext, Program.done_bind, hf]

/-- How a conversation begins: it ends at once with an error that `refusal` allows, it sends one
command and ends, or it asks. -/
inductive Opens (refusal : ε → Prop) (wrap : LinkError → ε) : Conversation (Except ε α) → Prop
  | refused {e : ε} (he : refusal e) : Opens refusal wrap (.done (.error e))
  | sends {command : String} {f : Except LinkError Unit → Except ε α} {a : α}
      (hf : f (.ok ()) = .ok a) :
      Opens refusal wrap (.step (.send command) fun reply => .done (f reply))
  | asks {p : Conversation (Except ε α)} (hp : Asks wrap p) : Opens refusal wrap p

variable {refusal : ε → Prop} {refusal' : ε' → Prop}

/-- What is made of the result afterwards does not change how a conversation begins. -/
theorem Opens.bind {p : Conversation (Except ε α)} {g : Except ε α → Except ε' β}
    (h : Opens refusal wrap p) (hok : ∀ a, ∃ b, g (.ok a) = .ok b)
    (hrefusal : ∀ e, refusal e → ∃ e', g (.error e) = .error e' ∧ refusal' e')
    (hwrap : ∀ cause, g (.error (wrap cause)) = .error (wrap' cause)) :
    Opens refusal' wrap' (p.bind fun result => .done (g result)) := by
  cases h with
  | refused he =>
    obtain ⟨e', hg, he'⟩ := hrefusal _ he
    rw [Program.done_bind, hg]
    exact .refused he'
  | sends hf =>
    obtain ⟨b, hb⟩ := hok _
    exact .sends (f := fun reply => g _) (a := b) (by rw [hf, hb])
  | asks hp => exact .asks (hp.bind fun cause => by rw [hwrap])

/-- A scripted link without responses fails the first query. -/
theorem Asks.run_scripted {p : Conversation (Except ε α)} (h : Asks wrap p) :
    ∃ command, (p.run Scripted.link {}).1 = .error (wrap (.noResponse command)) := by
  obtain ⟨command, next, rfl, hnext⟩ := h
  refine ⟨command, ?_⟩
  have hreply : (Scripted.link (.query command) {}).1 = .error (.noResponse command) := rfl
  rw [run_step, hreply, hnext]
  rfl

/-- Over a scripted link without responses, a conversation gets as far as its first query. -/
theorem Opens.run_scripted {p : Conversation (Except ε α)} (h : Opens refusal wrap p) :
    (∃ e, refusal e ∧ p = .done (.error e)) ∨ (∃ a, (p.run Scripted.link {}).1 = .ok a) ∨
      ∃ command, (p.run Scripted.link {}).1 = .error (wrap (.noResponse command)) := by
  cases h with
  | refused he => exact .inl ⟨_, he, rfl⟩
  | sends hf => exact .inr (.inl ⟨_, hf⟩)
  | asks hp => exact .inr (.inr hp.run_scripted)

end Conversation

open Conversation

/-- The custom routines of the parameter begin by asking the instrument, at any depth of the
table. -/
structure Parameter.Asking (r : Registry) (p : Parameter) : Prop where
  getter : ∀ script, p.getter = .custom script → ∀ depth,
    Asks GetError.link ((r.access (depth + 1)).runScript script)
  setter : ∀ script, p.setter = .custom script → ∀ value token, p.Accepts value token → ∀ depth,
    Asks (fun cause => SetError.dependency p.name (.link cause))
      ((r.access (depth + 1)).runScript (script value token))

namespace Registry

/-- All custom routines of the table begin by asking the instrument. -/
structure Asking (r : Registry) : Prop where
  wellFormed : r.WellFormed
  parameters : ∀ p ∈ r.entries.map Entry.parameter, p.Asking r

variable {r : Registry}

/-- A declared parameter is at hand below the access that callers have. -/
theorem exists_depth {name : String} {p : Parameter} (hp : r.Declares name p) :
    ∃ depth, 2 * r.entries.length = depth + 1 := by
  have hpos : 0 < (r.entries.map Entry.parameter).length := List.length_pos_of_mem hp.1
  rw [List.length_map] at hpos
  exact ⟨2 * r.entries.length - 1, by omega⟩

namespace Asking

theorem refused_or_asks_get (hr : r.Asking) (name : String) :
    (∃ e, (∀ cause, e ≠ .link cause) ∧ r.get name = .done (.error e)) ∨
      Asks GetError.link (r.get name) := by
  have hget : r.get name = r.getThrough (r.access (2 * r.entries.length)) name := rfl
  cases hfound : r.entry? name with
  | none =>
    rw [hget, getThrough, hfound]
    exact .inl ⟨_, by simp, rfl⟩
  | some e =>
    obtain ⟨he, hname⟩ := hr.wellFormed.entry?_eq_some.mp hfound
    have hp : r.Declares name e.parameter := ⟨List.mem_map_of_mem he, hname⟩
    obtain ⟨depth, hdepth⟩ := exists_depth hp
    rw [hget, getThrough, hfound, hdepth]
    cases hgetter : e.parameter.getter with
    | none =>
      simp only [fetch, hgetter]
      exact .inl ⟨_, by simp, rfl⟩
    | query command =>
      simp only [fetch, hgetter]
      exact .inr ⟨command, _, rfl, fun cause => rfl⟩
    | custom script =>
      simp only [fetch, hgetter]
      exact .inr (((hr.parameters _ hp.1).getter script hgetter depth).bind fun cause => rfl)

theorem opens_get (hr : r.Asking) (name : String) :
    Opens (fun e => ∀ cause, e ≠ .link cause) GetError.link (r.get name) := by
  rcases hr.refused_or_asks_get name with ⟨e, he, hget⟩ | hasks
  · exact hget ▸ .refused he
  · exact .asks hasks

/-- Unless a routine is to carry the value out. -/
theorem opens_set (hr : r.Asking) {name : String} {value : Value}
    (hroutine : ∀ routine, ¬ r.Delegates name value routine) :
    Opens (fun e => ∀ cause, e ≠ .link cause) SetError.link (r.set name value) := by
  show Opens _ _ (r.setThrough (r.access (2 * r.entries.length)) name value)
  rcases hr.wellFormed.refuses_or_commands_or_delegates name value with
    ⟨error, herror⟩ | ⟨command, hcommand⟩ | ⟨routine, hdelegates⟩
  · rw [hr.wellFormed.setThrough_refused herror]
    refine .refused fun cause => ?_
    cases herror <;> simp
  · rw [hr.wellFormed.setThrough_commanded hcommand]
    exact .sends (f := Except.mapError SetError.link) (a := ()) rfl
  · exact absurd hdelegates (hroutine routine)

/-- A routine reads before it sets. -/
theorem asks_set (hr : r.Asking) {name : String} {value : Value}
    {routine : Script (Except SetError Unit)} (h : r.Delegates name value routine) :
    Asks (fun cause => SetError.dependency name (.link cause)) (r.set name value) := by
  obtain ⟨p, script, token, hp, hsetter, htoken, rfl⟩ := h
  obtain ⟨depth, hdepth⟩ := exists_depth hp
  show Asks _ (r.setThrough (r.access (2 * r.entries.length)) name value)
  rw [hdepth, hr.wellFormed.setThrough_custom hp hsetter htoken]
  have hasks := (hr.parameters p hp.1).setter script hsetter value token htoken depth
  rwa [hp.2] at hasks

end Asking

theorem commandFor_ne_link {f : FunctionEntry} {values : List Value} {e : CallError}
    (h : commandFor f values = .error e) (cause : LinkError) : e ≠ .link cause := by
  rcases commandFor_cases f values with ⟨e', hmisfit, herror⟩ | ⟨-, hformat⟩
  · rw [herror] at h
    cases h
    cases hmisfit <;> simp
  · rw [hformat] at h
    cases hfill : f.template.renderArguments (values.map Value.toWire) <;>
      rw [hfill] at h <;> cases h
    simp

theorem opens_call (r : Registry) (name : String) (values : List Value) :
    Opens (fun e => ∀ cause, e ≠ .link cause) CallError.link (r.call name values) := by
  rw [call]
  split
  · exact .refused (by simp)
  · next f hfound =>
    cases hcommand : commandFor f values with
    | error e => exact .refused (commandFor_ne_link hcommand)
    | ok command => exact .sends (f := Except.mapError CallError.link) (a := ()) rfl

end Registry

end InstrumentControl
