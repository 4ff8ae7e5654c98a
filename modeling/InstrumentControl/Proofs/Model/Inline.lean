import InstrumentControl.Proofs.Model.Dmm6500
import InstrumentControl.Proofs.Registry.Inline

/-! Commands of the known models.  Whatever is asked of an instrument and whatever it answers, every
command is a text of printable ASCII characters other than the sign of a prompt.  So no value and no
answer can end a command early and begin another. -/

namespace InstrumentControl

open Conversation Text

/-- Only inline commands are sent and queried, and no other calls are made. -/
def inlineCommands : Rule := fun _ e =>
  ∃ command, (e.call = .send command ∨ e.call = .query command) ∧ Inline command

section

variable {command : String} (h : Inline command) (last : Option Exchange)
include h

theorem inlineCommands_send (reply : Except LinkError Unit) :
    inlineCommands last ⟨.send command, reply⟩ := ⟨command, .inl rfl, h⟩

theorem inlineCommands_query (reply : Except LinkError String) :
    inlineCommands last ⟨.query command, reply⟩ := ⟨command, .inr rfl, h⟩

end

namespace Model

/-- The declarations of the model keep commands within a line. -/
structure Inline (m : Model) : Prop where
  asks : ∀ p ∈ m.parameters, p.asksInline = true
  sets : ∀ p ∈ m.parameters, p.setsInline = true
  calls : ∀ f ∈ m.functions, f.callsInline = true

namespace Inline

variable {m : Model} {r : Registry}

/-- A table keeps commands within a line if its declarations and its routines do. -/
theorem keeping (hm : m.Inline) (hbuild : Registry.build m.parameters m.functions = .ok r)
    (hget : ∀ script ∈ m.parameters.filterMap Parameter.getRoutine?, ∀ depth,
      Keeps inlineCommands ((r.access (depth + 1)).runScript script))
    (hset : ∀ p ∈ m.parameters, ∀ script, p.setter = .custom script → ∀ value token,
      p.Accepts value token → Text.Inline token → ∀ depth,
      Keeps inlineCommands ((r.access (depth + 1)).runScript (script value token))) :
    r.Keeping inlineCommands := by
  obtain ⟨hr, hentries, hfunctions⟩ := Registry.build_eq_ok hbuild
  refine ⟨hr, fun p hp depth => ?_, fun hcommand => ?_, ?_, fun f hf _ _ hcommand => ?_⟩
  · rw [hentries] at hp
    have hasks := hm.asks p hp
    unfold Registry.fetch
    split
    · exact .done _
    · next command hcommand =>
      simp only [Parameter.asksInline, hcommand, decide_eq_true_eq] at hasks
      exact .call (inlineCommands_query hasks)
    · next script hscript =>
      have hroutine := Parameter.getRoutine?_eq_some.mpr hscript
      exact hget script (List.mem_filterMap.mpr ⟨p, hp, hroutine⟩) depth
  · exact inlineCommands_send (Registry.inline_of_commands (hentries ▸ hm.sets) hcommand)
  · rintro name value routine ⟨p, script, token, hp, hscript, htoken, rfl⟩ depth
    have hmem : p ∈ m.parameters := hentries ▸ hp.1
    have hsets := hm.sets p hmem
    simp only [Parameter.setsInline, hscript] at hsets
    exact hset p hmem script hscript value token htoken (htoken.inline hsets) depth
  · have hcalls := hm.calls f.function (hfunctions ▸ List.mem_map_of_mem hf)
    exact inlineCommands_send (Registry.inline_of_commandFor (hr.functions f hf) hcalls hcommand)

/-- A table whose routines read by one query each. -/
theorem keeping_of_queries (hm : m.Inline)
    (hbuild : Registry.build m.parameters m.functions = .ok r) (queries : List String)
    (hget : ∀ script ∈ m.parameters.filterMap Parameter.getRoutine?,
      ∃ command ∈ queries, script.Queries command)
    (hqueries : ∀ command ∈ queries, Text.Inline command)
    (hset : m.parameters.filterMap Parameter.setRoutine? = []) : r.Keeping inlineCommands := by
  refine hm.keeping hbuild (fun script hscript depth => ?_) fun p hp script hscript => ?_
  · obtain ⟨command, hcommand, hscript⟩ := hget script hscript
    exact hscript.keeps (inlineCommands_query (hqueries command hcommand)) _
  · have hroutine := Parameter.setRoutine?_eq_some.mpr hscript
    exact absurd (hset ▸ List.mem_filterMap.mpr ⟨p, hp, hroutine⟩) List.not_mem_nil

end Inline

end Model

theorem Catalogue.inline_of_known : ∀ m ∈ known.models, m.Inline := by
  have hdeclarations : ∀ m ∈ known.models,
      (∀ p ∈ m.parameters, p.asksInline = true ∧ p.setsInline = true) ∧
        ∀ f ∈ m.functions, f.callsInline = true := by decide +kernel
  intro m hm
  obtain ⟨hparameters, hfunctions⟩ := hdeclarations m hm
  exact ⟨fun p hp => (hparameters p hp).1, fun p hp => (hparameters p hp).2, hfunctions⟩

theorem Mcls.IsTable.keeps_setCurrent {r : Registry} (hr : IsTable r) {value : Value}
    (hvalue : Inline value.toWire) (depth : Nat) :
    Keeps inlineCommands ((r.access (depth + 1)).runScript (setCurrent value value.toWire)) := by
  rw [hr.runScript_setCurrent]
  refine .step (inlineCommands_query (by decide)) fun reply => ?_
  unfold afterChannel
  split
  · exact .done _
  · split
    · exact .done _
    · exact .call (inlineCommands_send (inline_append.mpr ⟨by decide, hvalue⟩))

namespace Dmm6500

theorem inline_tree {reply : Except LinkError String} {tree : String}
    (h : treeOf reply = .ok tree) : Inline tree := by
  obtain ⟨raw, -, htoken, rfl⟩ := treeOf_eq_ok h
  have hwords : ∀ token ∈ modeWords.map Prod.snd, Inline (Text.lowercase token) := by decide +kernel
  exact hwords _ htoken

namespace IsTable

variable {r : Registry} {command : String}

theorem keeps_readUnder (hr : IsTable r) (hcommand : Inline command) (depth : Nat) :
    Keeps inlineCommands ((r.access (depth + 1)).runScript (readUnder command)) := by
  rw [hr.runScript_readUnder]
  refine keeps_under (inlineCommands_query (by decide)) fun reply tree htree => ?_
  have hquery : Inline (tree ++ ":" ++ command ++ "?") := by
    simp only [inline_append]
    exact ⟨⟨⟨inline_tree htree, by decide⟩, hcommand⟩, by decide⟩
  exact inlineCommands_query hquery _

theorem keeps_setUnder (hr : IsTable r) (hcommand : Inline command) {token : String}
    (htoken : Inline token) (name : String) (value : Value) (depth : Nat) :
    Keeps inlineCommands
      ((r.access (depth + 1)).runScript (setUnder name command value token)) := by
  rw [hr.runScript_setUnder]
  refine keeps_under (inlineCommands_query (by decide)) fun reply tree htree => ?_
  have hsend : Inline (tree ++ ":" ++ command ++ " " ++ token) := by
    simp only [inline_append]
    exact ⟨⟨⟨⟨inline_tree htree, by decide⟩, hcommand⟩, by decide⟩, htoken⟩
  exact inlineCommands_send hsend _

end IsTable

end Dmm6500

namespace Catalogue

theorem keeping_inlineCommands {m : Model} (hm : m ∈ known.models) {r : Registry}
    (hbuild : Registry.build m.parameters m.functions = .ok r) : r.Keeping inlineCommands := by
  have hinline := inline_of_known m hm
  obtain ⟨hr, hentries, hfunctions⟩ := Registry.build_eq_ok hbuild
  simp only [models_known, List.mem_cons, List.not_mem_nil, or_false] at hm
  -- only the multimeter and the laser driver have routines that are more than one query
  rcases hm with rfl | rfl | rfl | rfl | rfl | rfl | rfl
  · exact hinline.keeping_of_queries hbuild _ B2902b.queries_of_mem (by decide) rfl
  · exact hinline.keeping_of_queries hbuild _ Hmc8043.queries_of_mem (by decide) rfl
  · exact hinline.keeping_of_queries hbuild [] nofun nofun rfl
  · have hcommands : ∀ p ∈ Dmm6500.functionCommands, Text.Inline p.2 := by decide
    have htable : Dmm6500.IsTable r := ⟨hr, hentries⟩
    refine hinline.keeping hbuild ?_ fun p hp script hscript value token _ htoken depth => ?_
    · rw [Dmm6500.getRoutines, List.forall_mem_cons, List.forall_mem_map]
      refine ⟨fun depth => ?_, fun p hp => htable.keeps_readUnder (hcommands p hp)⟩
      rw [Dmm6500.runScript_readMode]
      exact .call (inlineCommands_query (by decide))
    · have hroutine := List.mem_filterMap.mpr ⟨p, hp, Parameter.setRoutine?_eq_some.mpr hscript⟩
      rw [Dmm6500.setRoutines] at hroutine
      obtain ⟨q, hq, rfl⟩ := List.mem_map.mp hroutine
      exact htable.keeps_setUnder (hcommands q hq) htoken q.1 value depth
  · exact hinline.keeping_of_queries hbuild [] nofun nofun rfl
  · have htable : Mcls.IsTable r := ⟨hr, hentries, List.map_eq_nil_iff.mp hfunctions⟩
    refine hinline.keeping hbuild nofun fun p hp script hscript value token haccepts htoken => ?_
    obtain rfl := (Mcls.of_mem_parameters hp).2.1 script hscript
    cases hscript
    obtain rfl := (Mcls.current_accepts.mp haccepts).1
    exact htable.keeps_setCurrent htoken
  · exact hinline.keeping_of_queries hbuild [] nofun nofun rfl

/-- The table of every known model is built, and in every run over it, on any link, each call sends
or queries a command of printable ASCII characters other than the sign of a prompt.  So with any
terminator of other characters, a command is a single line. -/
theorem commands_stay_inline (m : Model) (hm : m ∈ known.models) :
    ∃ r, known.registry m.type = .ok r ∧
      ∀ (id : String) (requests : List Request) {σ : Type} (link : Link σ) (s : σ),
      ∀ e ∈ (Instrument.serve ⟨id, r⟩ requests).exchanges link s,
        ∃ command, (e.call = .send command ∨ e.call = .query command) ∧
          (∀ c ∈ command.toList, 0x20 ≤ c.toNat ∧ c.toNat ≤ 0x7e ∧ c ≠ '>') ∧
          ∀ terminator : List Char, terminator ≠ [] →
            (∀ c ∈ terminator, c.toNat < 0x20 ∨ 0x7e < c.toNat ∨ c = '>') →
            IsLine terminator command.toList := by
  obtain ⟨r, hregistry, hbuild⟩ := exists_known_table hm
  refine ⟨r, hregistry, fun id requests σ link s e he => ?_⟩
  have hkeeps := (keeping_inlineCommands hm hbuild).serve_keeps id requests
  obtain ⟨before, after, hlog⟩ := List.append_of_mem he
  obtain ⟨command, hcall, hinline⟩ := (hkeeps none).exchanges hlog
  refine ⟨command, hcall, fun c hc => isInline_iff.mp (hinline c hc),
    fun terminator hne hother => hinline.isLine hne fun c hc => ?_⟩
  rw [Bool.eq_false_iff]
  intro hc'
  obtain ⟨hlow, hhigh, hsign⟩ := isInline_iff.mp hc'
  rcases hother c hc with h | h | h
  · omega
  · omega
  · exact hsign h

/-- The integration time of a multimeter that says it measures voltage. -/
theorem commands_stay_inline_nplc :
    Dmm6500.model ∈ known.models ∧ ∃ r, known.registry Dmm6500.model.type = .ok r ∧
      let run := Instrument.serve ⟨"meter", r⟩ [.set "nplc" (.int 1)]
      let asked : Scripted := { fixed := [("SENS:FUNC?", "\"VOLT:DC\"")] }
      (run.exchanges Scripted.link asked).map Exchange.call =
        [.query "SENS:FUNC?", .send "volt:dc:NPLC 1"] ∧
      ∀ e ∈ run.exchanges Scripted.link asked, ∃ command,
        (e.call = .send command ∨ e.call = .query command) ∧ IsLine ['\n'] command.toList := by
  have hm : Dmm6500.model ∈ known.models := by simp [models_known]
  obtain ⟨r, hregistry, hrun⟩ := commands_stay_inline Dmm6500.model hm
  obtain ⟨r', hregistry', hbuild⟩ := exists_known_table hm
  obtain rfl : r' = r := Except.ok.inj (hregistry'.symm.trans hregistry)
  refine ⟨hm, r', hregistry, ?_, fun e he => ?_⟩
  · obtain ⟨hr, hentries, -⟩ := Registry.build_eq_ok hbuild
    let nplc : Parameter :=
      Dmm6500.modeParameter "nplc" "Integration Time" "NPLC" |>.inUnit "PLC" |>.within 0.01 10
    have hnplc : nplc ∈ Dmm6500.model.parameters := List.mem_of_getElem? (i := 2) rfl
    have haccepts : nplc.Accepts (.int 1) "1" :=
      .plain rfl fun d hd => by
        cases hd
        decide +kernel
    have hset := Dmm6500.IsTable.set_under ⟨hr, hentries⟩ hnplc rfl haccepts
    have hreply : (Scripted.link (.query "SENS:FUNC?")
        { fixed := [("SENS:FUNC?", "\"VOLT:DC\"")] }).1 = .ok "\"VOLT:DC\"" := rfl
    have htree : Dmm6500.treeOf (.ok "\"VOLT:DC\"") = .ok "volt:dc" := by decide +kernel
    change r'.set "nplc" (.int 1) = _ at hset
    simp only [Instrument.serve, Instrument.answer, Program.bind_eq, Program.pure_eq_done, hset,
      Program.step_bind, exchanges_step, hreply, htree]
    rfl
  · obtain ⟨command, hcall, -, hline⟩ := hrun "meter" _ _ _ e he
    exact ⟨command, hcall, hline ['\n'] (by decide) (List.forall_mem_singleton.mpr (by decide))⟩

end Catalogue

end InstrumentControl
