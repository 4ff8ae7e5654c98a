import InstrumentControl.Proofs.Instrument.Keeping
import InstrumentControl.Proofs.Model.Routines

/-! The measurement function of a multimeter.  The routines of its parameters ask which function is
in use before every access.  They go on only after the token of a known function, and then by one
further call, which addresses the parameter under that token in lower case. -/

namespace InstrumentControl.Dmm6500

open Conversation

/-! ### Routines -/

/-- The parameters of the measurement function, with what addresses them under it. -/
def functionCommands : List (String × String) := [
  ("nplc", "NPLC"), ("range", "RANG"), ("auto_range_enabled", "RANG:AUTO"),
  ("averaging_type", "AVER:TCON"), ("averaging_count", "AVER:COUN"),
  ("averaging_enabled", "AVER:STAT")]

theorem getRoutines : model.parameters.filterMap Parameter.getRoutine? =
    readMode :: functionCommands.map fun p => readUnder p.2 := rfl

theorem mem_getRoutines {p : Parameter} (hp : p ∈ model.parameters)
    {script : Script (Except GetError String)} (hscript : p.getter = .custom script) :
    script = readMode ∨ ∃ command ∈ functionCommands.map Prod.snd, script = readUnder command := by
  have hroutine := List.mem_filterMap.mpr ⟨p, hp, Parameter.getRoutine?_eq_some.mpr hscript⟩
  rw [getRoutines, List.mem_cons] at hroutine
  refine hroutine.imp_right fun hroutine => ?_
  obtain ⟨pair, hpair, rfl⟩ := List.mem_map.mp hroutine
  exact ⟨pair.2, List.mem_map_of_mem hpair, rfl⟩

theorem setRoutines : model.parameters.filterMap Parameter.setRoutine? =
    functionCommands.map fun p => setUnder p.1 p.2 := rfl

/-! ### The function in use -/

theorem runScript_readMode (a : Access) : a.runScript readMode =
    .step (.query "SENS:FUNC?") fun reply =>
      .done ((reply.mapError GetError.link).map Text.unquote) :=
  Script.runScript_responded Text.unquote a

/-- What the reply to the question for the measurement function says of it: the command tree of a
known function. -/
def treeOf : Except LinkError String → Except GetError String
  | .error cause => .error (.link cause)
  | .ok response => (Registry.interpret mode (Text.unquote response)).map fun value =>
    Text.lowercase (((Mapping.ofWords modeWords).toWire value).getD value.toWire)

theorem toWire_modeWords : ∀ pair ∈ modeWords,
    (Mapping.ofWords modeWords).toWire (.text pair.1) = some pair.2 := by decide

theorem interpret_mode {response : String} {value : Value}
    (h : Registry.interpret mode response = .ok value) :
    ∃ pair ∈ modeWords, value = .text pair.1 ∧ pair.2 = Text.strip response := by
  simp only [Registry.interpret, mode] at h
  split at h
  · next found hfound =>
    cases h
    obtain ⟨⟨key, token⟩, hpair, rfl⟩ := Option.map_eq_some_iff.mp hfound
    obtain ⟨pair, hmem, heq⟩ := List.mem_map.mp (List.mem_of_find?_eq_some hpair)
    have htoken := List.find?_some hpair
    cases heq
    exact ⟨pair, hmem, rfl, beq_iff_eq.mp htoken⟩
  · cases h

/-- There is a tree exactly after the token of a known function, quoted or not. -/
theorem treeOf_eq_ok {reply : Except LinkError String} {tree : String}
    (h : treeOf reply = .ok tree) : ∃ raw, reply = .ok raw ∧
      Text.strip (Text.unquote raw) ∈ modeWords.map Prod.snd ∧
      tree = Text.lowercase (Text.strip (Text.unquote raw)) := by
  cases reply with
  | error cause => cases h
  | ok raw =>
    rw [treeOf] at h
    cases hvalue : Registry.interpret mode (Text.unquote raw) with
    | error cause =>
      rw [hvalue] at h
      cases h
    | ok value =>
      obtain ⟨pair, hpair, rfl, htoken⟩ := interpret_mode hvalue
      rw [hvalue] at h
      simp only [Except.map, toWire_modeWords pair hpair, Option.getD_some, Except.ok.injEq] at h
      exact ⟨raw, rfl, htoken ▸ List.mem_map_of_mem hpair, by rw [← h, htoken]⟩

/-- An access under the function in use keeps to a rule that allows the question for the function
anywhere and the further call after an answer to it. -/
theorem keeps_under {rule : Rule} {ε α : Type} {wrap : GetError → ε} {next : String → Call}
    {finish : (tree : String) → (next tree).Reply → Except ε α}
    (hask : ∀ last reply, rule last ⟨.query "SENS:FUNC?", reply⟩)
    (h : ∀ reply tree, treeOf reply = .ok tree → ∀ reply',
      rule (some ⟨.query "SENS:FUNC?", reply⟩) ⟨next tree, reply'⟩) :
    Keeps rule (.step (.query "SENS:FUNC?") fun reply =>
      match treeOf reply with
      | .error e => .done (.error (wrap e))
      | .ok tree => .step (next tree) fun reply => .done (finish tree reply)) := by
  intro last reply
  refine ⟨hask last reply, ?_⟩
  dsimp only
  split
  · trivial
  · next tree htree => exact fun reply' => ⟨h reply tree htree reply', trivial⟩

/-! ### The table -/

/-- The table of the multimeter. -/
structure IsTable (r : Registry) : Prop where
  wellFormed : r.WellFormed
  entries : r.entries.map Entry.parameter = model.parameters

namespace IsTable

variable {r : Registry}

theorem declares_mode (hr : IsTable r) : r.Declares "mode" mode :=
  ⟨hr.entries ▸ mode_mem_parameters, rfl⟩

/-- The function in use is found out by one query. -/
theorem runScript_activeFunction (hr : IsTable r) (depth : Nat) :
    (r.access (depth + 1)).runScript activeFunction =
      .step (.query "SENS:FUNC?") fun reply => .done (treeOf reply) := by
  obtain ⟨template, hentry, -⟩ := hr.wellFormed.entry?_of_declares hr.declares_mode
  have htoken (value : Value) : r.wireToken "mode" value =
      ((Mapping.ofWords modeWords).toWire value).getD value.toWire := by
    rw [Registry.wireToken, Registry.parameter?, hentry]
    rfl
  have hget : r.getThrough (r.access depth) "mode" =
      .step (.query "SENS:FUNC?") fun reply =>
        .done (((reply.mapError GetError.link).map Text.unquote).bind (Registry.interpret mode)) := by
    simp only [Registry.getThrough, hentry]
    rw [show Registry.fetch (r.access depth) mode = (r.access depth).runScript readMode from rfl,
      runScript_readMode]
    rfl
  show (r.getWireThrough (r.access depth) "mode").bind _ = _
  rw [Registry.getWireThrough, hget, Program.bind_eq, Program.step_bind, Program.step_bind,
    Program.step.injEq]
  refine ⟨rfl, heq_of_eq (funext fun reply => ?_)⟩
  -- an answer becomes a word of the mapping, and that again the token of the word
  cases reply with
  | error cause => rfl
  | ok response =>
    simp only [Except.mapError, Except.map, Except.bind, Program.done_bind, treeOf]
    cases Registry.interpret mode (Text.unquote response) with
    | error cause => rfl
    | ok value =>
      simp only [Program.pure_eq_done, Program.done_bind, htoken]
      rfl

theorem runScript_under (hr : IsTable r) {α : Type} (depth : Nat)
    (next : Except GetError String → Script α) :
    (r.access (depth + 1)).runScript (activeFunction.bind next) =
      .step (.query "SENS:FUNC?") fun reply =>
        (r.access (depth + 1)).runScript (next (treeOf reply)) := by
  rw [Access.runScript, Program.expand_bind]
  show ((r.access (depth + 1)).runScript activeFunction).bind _ = _
  rw [hr.runScript_activeFunction]
  rfl

theorem runScript_readUnder (hr : IsTable r) (depth : Nat) (command : String) :
    (r.access (depth + 1)).runScript (readUnder command) =
      .step (.query "SENS:FUNC?") fun reply =>
        match treeOf reply with
        | .error e => .done (.error e)
        | .ok tree => .step (.query (tree ++ ":" ++ command ++ "?")) fun reply =>
          .done (reply.mapError .link) := by
  refine (hr.runScript_under depth _).trans (congrArg _ (funext fun reply => ?_))
  cases treeOf reply <;> rfl

theorem runScript_setUnder (hr : IsTable r) (depth : Nat) (name command : String) (value : Value)
    (token : String) :
    (r.access (depth + 1)).runScript (setUnder name command value token) =
      .step (.query "SENS:FUNC?") fun reply =>
        match treeOf reply with
        | .error e => .done (.error (.dependency name e))
        | .ok tree => .step (.send (tree ++ ":" ++ command ++ " " ++ token)) fun reply =>
          .done (reply.mapError .link) := by
  refine (hr.runScript_under depth _).trans (congrArg _ (funext fun reply => ?_))
  cases treeOf reply <;> rfl

theorem get_under (hr : IsTable r) {p : Parameter} (hp : p ∈ model.parameters) {command : String}
    (hgetter : p.getter = .custom (readUnder command)) :
    r.get p.name =
      .step (.query "SENS:FUNC?") fun reply =>
        match treeOf reply with
        | .error e => .done (.error e)
        | .ok tree => .step (.query (tree ++ ":" ++ command ++ "?")) fun reply =>
          .done ((reply.mapError .link).bind (Registry.interpret p)) := by
  have hdeclares : r.Declares p.name p := ⟨hr.entries ▸ hp, rfl⟩
  obtain ⟨depth, hdepth⟩ := Registry.exists_depth hdeclares
  obtain ⟨template, hentry, -⟩ := hr.wellFormed.entry?_of_declares hdeclares
  show r.getThrough (r.access (2 * r.entries.length)) p.name = _
  rw [Registry.getThrough, hentry, hdepth]
  simp only [Registry.fetch, hgetter]
  rw [hr.runScript_readUnder, Program.bind_eq, Program.step_bind, Program.step.injEq]
  refine ⟨rfl, heq_of_eq (funext fun reply => ?_)⟩
  cases treeOf reply <;> rfl

theorem set_under (hr : IsTable r) {p : Parameter} (hp : p ∈ model.parameters)
    {command token : String} (hsetter : p.setter = .custom (setUnder p.name command))
    {value : Value} (htoken : p.Accepts value token) :
    r.set p.name value =
      .step (.query "SENS:FUNC?") fun reply =>
        match treeOf reply with
        | .error e => .done (.error (.dependency p.name e))
        | .ok tree => .step (.send (tree ++ ":" ++ command ++ " " ++ token)) fun reply =>
          .done (reply.mapError .link) := by
  have hdeclares : r.Declares p.name p := ⟨hr.entries ▸ hp, rfl⟩
  obtain ⟨depth, hdepth⟩ := Registry.exists_depth hdeclares
  show r.setThrough (r.access (2 * r.entries.length)) p.name value = _
  rw [hr.wellFormed.setThrough_custom hdeclares hsetter htoken, hdepth, hr.runScript_setUnder]

end IsTable

end InstrumentControl.Dmm6500
