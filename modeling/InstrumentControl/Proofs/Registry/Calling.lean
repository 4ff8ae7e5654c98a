import InstrumentControl.Proofs.Registry.Setting

/-! Calling a function.  A call has a command exactly if every argument is in the domain that is
declared for it and the template can be filled with the wire texts of the arguments.  The call sends
that command; any other call fails before the first call on the link. -/

namespace InstrumentControl.Registry

variable {f : FunctionEntry} {name command : String} {values : List Value}

/-- Every argument is in the domain that is declared for its place. -/
abbrev Fit (domains : List Domain) (values : List Value) : Prop :=
  List.Forall₂ (fun d value => d.check value = .ok ()) domains values

theorem Fit.length_eq {domains : List Domain} (h : Fit domains values) :
    values.length = domains.length := (List.Forall₂.length_eq h).symm

theorem Fit.exists_domain {domains : List Domain} (h : Fit domains values) {value : Value}
    (hvalue : value ∈ values) : ∃ d ∈ domains, d.check value = .ok () := by
  induction h with
  | nil => cases hvalue
  | cons hcheck _ ih =>
    cases hvalue with
    | head => exact ⟨_, List.mem_cons_self, hcheck⟩
    | tail _ hvalue =>
      obtain ⟨d, hd, htakes⟩ := ih hvalue
      exact ⟨d, List.mem_cons_of_mem _ hd, htakes⟩

/-- As many arguments as there are domains have tokens, or one of them is the first outside its
domain. -/
theorem argumentTokens_cases {index : Nat} {domains : List Domain}
    (hlength : values.length = domains.length) :
    (∃ (place : Nat) (d : Domain) (value : Value) (rejection : Rejection),
      domains[place]? = some d ∧ values[place]? = some value ∧ d.check value = .error rejection ∧
      Fit (domains.take place) (values.take place) ∧
      argumentTokens name index domains values =
        .error (.invalidArgument name (index + place) value.display rejection)) ∨
    Fit domains values ∧
      argumentTokens name index domains values = .ok (values.map Value.toWire) := by
  fun_induction argumentTokens name index domains values with
  | case1 index d domains value values rejection hcheck =>
    exact .inl ⟨0, d, value, rejection, rfl, rfl, hcheck, .nil, rfl⟩
  | case2 index d domains value values done hcheck ih =>
    rcases ih (Nat.succ.inj hlength) with
      ⟨place, d', value', rejection, hdomain, hvalue, hcheck', hfirst, hrest⟩ | ⟨hfit, hrest⟩
    · have hindex : index + 1 + place = index + (place + 1) := by omega
      rw [hrest, hindex]
      exact .inl ⟨place + 1, d', value', rejection, hdomain, hvalue, hcheck',
        .cons hcheck hfirst, rfl⟩
    · rw [hrest]
      exact .inr ⟨.cons hcheck hfit, rfl⟩
  | case3 domains index values hdone =>
    cases domains with
    | nil =>
      obtain rfl := List.length_eq_zero_iff.mp hlength
      exact .inr ⟨.nil, rfl⟩
    | cons d domains =>
      cases values with
      | nil => cases hlength
      | cons value values => exact (hdone d domains value values rfl rfl).elim

/-- Why arguments are not taken: for their number, or for the first that is outside its domain. -/
inductive Misfit (f : Function) (values : List Value) : CallError → Prop
  | count (hcount : values.length ≠ f.arguments.length) :
      Misfit f values (.argumentCount f.name f.arguments.length values.length)
  | argument {place : Nat} {d : Domain} {value : Value} {rejection : Rejection}
      (hcount : values.length = f.arguments.length) (hdomain : f.arguments[place]? = some d)
      (hvalue : values[place]? = some value) (hcheck : d.check value = .error rejection)
      (hfirst : Fit (f.arguments.take place) (values.take place)) :
      Misfit f values (.invalidArgument f.name place value.display rejection)

theorem Misfit.not_fit {f : Function} {e : CallError} (h : Misfit f values e) :
    ¬ Fit f.arguments values := by
  intro hfit
  cases h with
  | count hcount => exact hcount hfit.length_eq
  | argument _ hdomain hvalue hcheck =>
    obtain ⟨hplace, rfl⟩ := List.getElem?_eq_some_iff.mp hdomain
    obtain ⟨hplace', rfl⟩ := List.getElem?_eq_some_iff.mp hvalue
    have hok := hfit.get hplace hplace'
    rw [List.get_eq_getElem, List.get_eq_getElem, hcheck] at hok
    cases hok

/-- Arguments are refused for their number or for the first that is outside its domain, or they go
into the template. -/
theorem commandFor_cases (f : FunctionEntry) (values : List Value) :
    (∃ e, Misfit f.function values e ∧ commandFor f values = .error e) ∨
    Fit f.function.arguments values ∧ commandFor f values =
      (f.template.renderArguments (values.map Value.toWire)).mapError (.format f.function.name) := by
  unfold commandFor
  by_cases hcount : values.length = f.function.arguments.length
  · simp only [hcount, ne_eq, not_true_eq_false, if_false]
    rcases argumentTokens_cases hcount with
      ⟨place, d, value, rejection, hdomain, hvalue, hcheck, hfirst, htokens⟩ | ⟨hfit, htokens⟩
    · rw [htokens, Nat.zero_add]
      exact .inl ⟨_, .argument hcount hdomain hvalue hcheck hfirst, rfl⟩
    · rw [htokens]
      exact .inr ⟨hfit, rfl⟩
  · exact .inl ⟨_, .count hcount, if_pos hcount⟩

theorem commandFor_eq_ok : commandFor f values = .ok command ↔ Fit f.function.arguments values ∧
    f.template.renderArguments (values.map Value.toWire) = .ok command := by
  rcases commandFor_cases f values with ⟨e, hmisfit, h⟩ | ⟨hfit, h⟩
  · simp [h, hmisfit.not_fit]
  · rw [h]
    cases f.template.renderArguments (values.map Value.toWire) <;> simp [hfit, Except.mapError]

theorem commandFor_eq_format {fault : Template.Fault} :
    commandFor f values = .error (.format name fault) ↔ name = f.function.name ∧
      Fit f.function.arguments values ∧
      f.template.renderArguments (values.map Value.toWire) = .error fault := by
  rcases commandFor_cases f values with ⟨e, hmisfit, h⟩ | ⟨hfit, h⟩
  · have hne : e ≠ .format name fault := by cases hmisfit <;> simp
    simp [h, hne, hmisfit.not_fit]
  · rw [h]
    cases f.template.renderArguments (values.map Value.toWire) <;>
      simp [hfit, Except.mapError, eq_comm]

variable {r : Registry}

theorem call_refused (hfound : r.functionEntry? name = some f) {e : CallError}
    (h : commandFor f values = .error e) : r.call name values = return .error e := by
  simp only [call, hfound, h]

theorem call_commanded (hfound : r.functionEntry? name = some f)
    (h : commandFor f values = .ok command) :
    r.call name values = do return (← Conversation.send command).mapError .link := by
  simp only [call, hfound, h]

end InstrumentControl.Registry
