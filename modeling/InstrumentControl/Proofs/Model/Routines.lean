import InstrumentControl.Proofs.Model.Known

/-! The routines of the known tables.  Most of them read a parameter by one query.  The others belong
to the measurement function of a multimeter and to the current of a laser diode: they read another
parameter first. -/

namespace InstrumentControl

open Conversation

namespace Parameter

def getRoutine? (p : Parameter) : Option (Script (Except GetError String)) :=
  match p.getter with
  | .custom script => some script
  | _ => none

def setRoutine? (p : Parameter) : Option (Value → String → Script (Except SetError Unit)) :=
  match p.setter with
  | .custom script => some script
  | _ => none

variable {p : Parameter}

theorem getRoutine?_eq_some {script : Script (Except GetError String)} :
    p.getRoutine? = some script ↔ p.getter = .custom script := by
  cases h : p.getter <;> simp [getRoutine?, h]

theorem setRoutine?_eq_some {script : Value → String → Script (Except SetError Unit)} :
    p.setRoutine? = some script ↔ p.setter = .custom script := by
  cases h : p.setter <;> simp [setRoutine?, h]

end Parameter

namespace Script

variable {α : Type} {script : Script α} {command : String} {rule : Rule}

/-- The routine makes one query and nothing else, whatever it has at hand. -/
def Queries (command : String) (script : Script α) : Prop :=
  ∃ f : Except LinkError String → α, ∀ a : Access,
    a.runScript script = .step (.query command) fun reply => .done (f reply)

theorem Queries.keeps (h : script.Queries command)
    (hquery : ∀ last reply, rule last ⟨.query command, reply⟩) (a : Access) :
    Keeps rule (a.runScript script) := by
  obtain ⟨f, hf⟩ := h
  rw [hf]
  exact .call hquery

/-- What is at hand makes no difference. -/
theorem Queries.runScript_eq (h : script.Queries command) (a a' : Access) :
    a.runScript script = a'.runScript script := by
  obtain ⟨f, hf⟩ := h
  rw [hf, hf]

/-- A routine that passes a failure of its query on and makes a token of the response. -/
theorem runScript_responded (f : String → String) (a : Access) :
    a.runScript (do
      match ← Script.query command with
      | .error e => return .error (.link e)
      | .ok response => return .ok (f response) : Script (Except GetError String)) =
    .step (.query command) fun reply => .done ((reply.mapError GetError.link).map f) := by
  refine congrArg _ (funext fun reply => ?_)
  cases reply <;> rfl

theorem queries_switchState (command : String) : Queries command (Parameter.switchState command) :=
  ⟨_, fun a => runScript_responded _ a⟩

theorem queries_of_mem_switchStates {commands : List String} {script : Script (Except GetError String)}
    (h : script ∈ commands.map Parameter.switchState) : ∃ command ∈ commands, script.Queries command := by
  obtain ⟨command, hcommand, rfl⟩ := List.mem_map.mp h
  exact ⟨command, hcommand, queries_switchState command⟩

end Script

theorem B2902b.getRoutines : model.parameters.filterMap Parameter.getRoutine? =
    ["OUTP1?", "OUTP2?", "SOUR:WAIT?", "SOUR:VOLT:RANG:AUTO?"].map Parameter.switchState := rfl

theorem Hmc8043.getRoutines : model.parameters.filterMap Parameter.getRoutine? =
    selectedOutput :: ["OUTP?", "OUTP:CHAN?", "OUTP:MAST?"].map Parameter.switchState := rfl

theorem Hmc8043.queries_selectedOutput : Script.Queries "INST:SEL?" selectedOutput :=
  ⟨_, fun a => Script.runScript_responded outputName a⟩

theorem B2902b.queries_of_mem : ∀ script ∈ model.parameters.filterMap Parameter.getRoutine?,
    ∃ command ∈ ["OUTP1?", "OUTP2?", "SOUR:WAIT?", "SOUR:VOLT:RANG:AUTO?"],
      Script.Queries command script := by
  rw [getRoutines]
  exact fun script => Script.queries_of_mem_switchStates

theorem Hmc8043.queries_of_mem : ∀ script ∈ model.parameters.filterMap Parameter.getRoutine?,
    ∃ command ∈ ["INST:SEL?", "OUTP?", "OUTP:CHAN?", "OUTP:MAST?"],
      Script.Queries command script := by
  rw [getRoutines, List.forall_mem_cons]
  refine ⟨⟨_, List.mem_cons_self, queries_selectedOutput⟩, fun script hscript => ?_⟩
  obtain ⟨command, hcommand, hqueries⟩ := Script.queries_of_mem_switchStates hscript
  exact ⟨command, List.mem_cons_of_mem _ hcommand, hqueries⟩

end InstrumentControl
