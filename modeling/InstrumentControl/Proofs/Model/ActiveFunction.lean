import InstrumentControl.Proofs.Instrument.Keeping
import InstrumentControl.Proofs.Model.Dmm6500
import Mathlib.Data.List.TakeWhile

/-! The measurement function that settings are addressed under.  The header of a command, which is
its text before the first blank, tells what it addresses.  Whatever is asked of the multimeter and
whatever it answers, a header under a measurement function comes right after the question which
function is in use, and under the function of the answer.  Without an answer that names a function,
an access ends with the question. -/

namespace InstrumentControl.Dmm6500

open Conversation

/-! ### Headers -/

def header (command : String) : List Char := command.toList.takeWhile (· ≠ ' ')

/-- The call asks for, or sets, what `command` addresses under `tree`. -/
def Addresses (tree command : String) : Call → Prop
  | .query c => header c = (tree ++ ":" ++ command ++ "?").toList
  | .send c => header c = (tree ++ ":" ++ command).toList
  | .receive | .clear => False

/-- A header that ends with what addresses a setting of a measurement function, and with `mark`. -/
def endsInSetting (mark : String) (h : List Char) : Bool :=
  functionCommands.any fun p => decide ((":" ++ p.2 ++ mark).toList <:+ h)

theorem header_of_lead {lead : List Char} {command : String} (h : lead <+: command.toList)
    (hblank : ' ' ∈ lead) : header command = lead.takeWhile (· ≠ ' ') := by
  obtain ⟨rest, hrest⟩ := h
  have hshort : (lead.takeWhile (· ≠ ' ')).length ≠ lead.length := by
    intro hlength
    have hall := (List.takeWhile_prefix (· ≠ ' ')).eq_of_length hlength
    simpa using List.takeWhile_eq_self_iff.mp hall ' ' hblank
  rw [header, ← hrest, List.takeWhile_append, if_neg hshort]

theorem endsInSetting_of_eq {tree command mark : String}
    (hcommand : command ∈ functionCommands.map Prod.snd) {h : List Char}
    (heq : h = (tree ++ ":" ++ command ++ mark).toList) : endsInSetting mark h = true := by
  obtain ⟨p, hp, rfl⟩ := List.mem_map.mp hcommand
  refine List.any_eq_true.mpr ⟨p, hp, decide_eq_true ?_⟩
  rw [heq]
  simp only [String.toList_append, List.append_assoc]
  exact List.suffix_append _ _

/-- No setting is addressed by the end of what addresses another. -/
theorem eq_of_suffix : ∀ p ∈ functionCommands, ∀ q ∈ functionCommands,
    (":" ++ p.2).toList <:+ (":" ++ q.2).toList → p = q := by decide +kernel

theorem tree_unique {tree tree' command command' : String}
    (hcommand : command ∈ functionCommands.map Prod.snd)
    (hcommand' : command' ∈ functionCommands.map Prod.snd)
    (h : (tree ++ ":" ++ command).toList = (tree' ++ ":" ++ command').toList) : tree = tree' := by
  obtain ⟨p, hp, rfl⟩ := List.mem_map.mp hcommand
  obtain ⟨q, hq, rfl⟩ := List.mem_map.mp hcommand'
  have hends : tree.toList ++ (":" ++ p.2).toList = tree'.toList ++ (":" ++ q.2).toList := by
    simpa only [String.toList_append, List.append_assoc] using h
  have hp' : (":" ++ p.2).toList <:+ tree'.toList ++ (":" ++ q.2).toList := ⟨_, hends⟩
  have hsame : p = q := by
    rcases List.suffix_or_suffix_of_suffix hp' (List.suffix_append _ _) with hshort | hlong
    · exact eq_of_suffix p hp q hq hshort
    · exact (eq_of_suffix q hq p hp hlong).symm
  subst hsame
  exact String.toList_inj.mp (List.append_cancel_right hends)

/-! ### The answer -/

/-- What the reply to the question for the function in use says of it. -/
inductive Reports : Except LinkError String → Except GetError String → Prop
  | failed (cause : LinkError) : Reports (.error cause) (.error (.link cause))
  | unknown {raw : String} (h : Text.strip (Text.unquote raw) ∉ modeWords.map Prod.snd) :
      Reports (.ok raw) (.error (.unmapped "mode" (Text.strip (Text.unquote raw))))
  | known {raw : String} (h : Text.strip (Text.unquote raw) ∈ modeWords.map Prod.snd) :
      Reports (.ok raw) (.ok (Text.lowercase (Text.strip (Text.unquote raw))))

theorem Reports.unique {reply : Except LinkError String} {found found' : Except GetError String}
    (h : Reports reply found) (h' : Reports reply found') : found' = found := by
  cases h with
  | failed cause =>
    cases h'
    rfl
  | unknown h =>
    cases h' with
    | unknown _ => rfl
    | known h' => exact absurd h' h
  | known h =>
    cases h' with
    | unknown h' => exact absurd h h'
    | known _ => rfl

theorem interpret_mode_eq_error {response : String} {e : GetError}
    (h : Registry.interpret mode response = .error e) :
    Text.strip response ∉ modeWords.map Prod.snd ∧ e = .unmapped "mode" (Text.strip response) := by
  have hm : mode.mapping = some (Mapping.ofWords modeWords) := rfl
  exact (Registry.interpret_eq_error hm).mp h

theorem reports_treeOf (reply : Except LinkError String) : Reports reply (treeOf reply) := by
  cases htree : treeOf reply with
  | ok tree =>
    obtain ⟨raw, rfl, hmem, rfl⟩ := treeOf_eq_ok htree
    exact .known hmem
  | error e =>
    cases reply with
    | error cause =>
      cases htree
      exact .failed cause
    | ok raw =>
      rw [treeOf] at htree
      cases hvalue : Registry.interpret mode (Text.unquote raw) with
      | ok value =>
        rw [hvalue] at htree
        cases htree
      | error cause =>
        rw [hvalue] at htree
        cases htree
        obtain ⟨hunknown, rfl⟩ := interpret_mode_eq_error hvalue
        exact .unknown hunknown

theorem reports_iff {reply : Except LinkError String} {found : Except GetError String} :
    Reports reply found ↔ treeOf reply = found :=
  ⟨fun h => h.unique (reports_treeOf reply), fun h => h ▸ reports_treeOf reply⟩

/-! ### Runs -/

/-- A setting is addressed right after the question for the function in use, and under the function
that the answer names. -/
def underActive : Rule := fun last e =>
  ∀ tree, ∀ command ∈ functionCommands.map Prod.snd, Addresses tree command e.call →
    ∃ raw, last = some ⟨.query "SENS:FUNC?", .ok raw⟩ ∧ Reports (.ok raw) (.ok tree)

section

variable {command : String} (last : Option Exchange)

theorem underActive_query (h : endsInSetting "?" (header command) = false)
    (reply : Except LinkError String) : underActive last ⟨.query command, reply⟩ := by
  intro tree setting hsetting haddresses
  rw [endsInSetting_of_eq hsetting haddresses] at h
  cases h

theorem underActive_send (h : endsInSetting "" (header command) = false)
    (reply : Except LinkError Unit) : underActive last ⟨.send command, reply⟩ := by
  intro tree setting hsetting haddresses
  rw [endsInSetting_of_eq hsetting (by rw [haddresses, String.append_empty])] at h
  cases h

theorem underActive_ask (reply : Except LinkError String) :
    underActive last ⟨.query "SENS:FUNC?", reply⟩ := underActive_query last (by decide) reply

end

/-- No query and no template of the parameter addresses a setting of a measurement function. -/
def isApart (p : Parameter) : Bool :=
  (match p.getter with
    | .query command => !endsInSetting "?" (header command)
    | _ => true) &&
  match p.setter with
    | .template source =>
      let lead := Template.lead (Template.scan source.toList)
      lead.contains ' ' && !endsInSetting "" (lead.takeWhile (· ≠ ' '))
    | _ => true

theorem isApart_of_mem : ∀ p ∈ model.parameters, isApart p = true := by decide +kernel

/-- Neither a tree nor what addresses a setting under it has a blank. -/
theorem no_blank : (∀ token ∈ modeWords.map Prod.snd, ' ' ∉ (Text.lowercase token).toList) ∧
    ∀ command ∈ functionCommands.map Prod.snd, ' ' ∉ command.toList := by decide +kernel

section

variable {reply : Except LinkError String} {tree command : String} (htree : treeOf reply = .ok tree)
  (hcommand : command ∈ functionCommands.map Prod.snd)
include htree hcommand

theorem no_blank_of_tree : ∀ c ∈ (tree ++ ":" ++ command).toList, c ≠ ' ' := by
  obtain ⟨raw, -, hmem, rfl⟩ := treeOf_eq_ok htree
  simp only [String.toList_append, List.forall_mem_append]
  refine ⟨⟨fun c hc => ?_, by simp⟩, fun c hc => ?_⟩
  · rintro rfl
    exact no_blank.1 _ hmem hc
  · rintro rfl
    exact no_blank.2 _ hcommand hc

theorem underActive_queried (reply' : Except LinkError String) :
    underActive (some ⟨.query "SENS:FUNC?", reply⟩)
      ⟨.query (tree ++ ":" ++ command ++ "?"), reply'⟩ := by
  intro tree' setting hsetting haddresses
  have hheader : header (tree ++ ":" ++ command ++ "?") = (tree ++ ":" ++ command ++ "?").toList := by
    refine List.takeWhile_eq_self_iff.mpr fun c hc => decide_eq_true ?_
    rw [String.toList_append, List.mem_append] at hc
    rcases hc with hc | hc
    · exact no_blank_of_tree htree hcommand c hc
    · rw [List.mem_singleton.mp hc]
      decide
  have hsame : (tree ++ ":" ++ command).toList ++ "?".toList =
      (tree' ++ ":" ++ setting).toList ++ "?".toList := by
    rw [← String.toList_append, ← String.toList_append]
    exact hheader.symm.trans haddresses
  obtain rfl := tree_unique hcommand hsetting (List.append_cancel_right hsame)
  obtain ⟨raw, rfl, -⟩ := treeOf_eq_ok htree
  exact ⟨raw, rfl, reports_iff.mpr htree⟩

theorem underActive_sent (token : String) (reply' : Except LinkError Unit) :
    underActive (some ⟨.query "SENS:FUNC?", reply⟩)
      ⟨.send (tree ++ ":" ++ command ++ " " ++ token), reply'⟩ := by
  intro tree' setting hsetting haddresses
  have hheader : header (tree ++ ":" ++ command ++ " " ++ token) =
      (tree ++ ":" ++ command).toList := by
    have hall : ∀ c ∈ (tree ++ ":" ++ command).toList, decide (c ≠ ' ') = true :=
      fun c hc => decide_eq_true (no_blank_of_tree htree hcommand c hc)
    have hsplit : (tree ++ ":" ++ command ++ " " ++ token).toList =
        (tree ++ ":" ++ command).toList ++ ' ' :: token.toList := by
      rw [String.toList_append, String.toList_append, List.append_assoc]
      rfl
    rw [header, hsplit, List.takeWhile_append_of_pos hall]
    simp
  obtain rfl := tree_unique hcommand hsetting (hheader.symm.trans haddresses)
  obtain ⟨raw, rfl, -⟩ := treeOf_eq_ok htree
  exact ⟨raw, rfl, reports_iff.mpr htree⟩

end

namespace IsTable

variable {r : Registry} {command : String}

theorem readUnder_keeps (hr : IsTable r) (hcommand : command ∈ functionCommands.map Prod.snd)
    (depth : Nat) : Keeps underActive ((r.access (depth + 1)).runScript (readUnder command)) := by
  rw [hr.runScript_readUnder]
  exact keeps_under underActive_ask fun _ _ htree => underActive_queried htree hcommand

theorem setUnder_keeps (hr : IsTable r) (hcommand : command ∈ functionCommands.map Prod.snd)
    (depth : Nat) (name : String) (value : Value) (token : String) :
    Keeps underActive ((r.access (depth + 1)).runScript (setUnder name command value token)) := by
  rw [hr.runScript_setUnder]
  exact keeps_under underActive_ask fun _ _ htree => underActive_sent htree hcommand token

theorem reads_keep (hr : IsTable r) {p : Parameter} (hp : p ∈ model.parameters) (depth : Nat) :
    Keeps underActive (Registry.fetch (r.access (depth + 1)) p) := by
  have hapart := isApart_of_mem p hp
  refine Registry.fetch_keeps (fun query hquery last reply => ?_) fun script hscript => ?_
  · simp only [isApart, hquery, Bool.and_eq_true, Bool.not_eq_true'] at hapart
    exact underActive_query last hapart.1 reply
  · rcases mem_getRoutines hp hscript with rfl | ⟨command, hcommand, rfl⟩
    · rw [runScript_readMode]
      exact .call underActive_ask
    · exact hr.readUnder_keeps hcommand depth

theorem underActive_commanded (hr : IsTable r) {name command : String} {value : Value}
    (h : r.Commands name value command) (last : Option Exchange) (reply : Except LinkError Unit) :
    underActive last ⟨.send command, reply⟩ := by
  obtain ⟨p, source, t, token, hp, hsetter, ht, -, hfill⟩ := h
  have hlead := Template.lead_prefix_of_renderValue hfill
  rw [Template.source_of_parse ht] at hlead
  have hapart := isApart_of_mem p (hr.entries ▸ hp.1)
  simp only [isApart, hsetter, Bool.and_eq_true, Bool.not_eq_true', List.contains_eq_mem,
    decide_eq_true_eq] at hapart
  refine underActive_send last ?_ reply
  rw [header_of_lead hlead hapart.2.1]
  exact hapart.2.2

theorem underActive_called {f : FunctionEntry} (hf : f.WellFormed)
    (hmem : f.function ∈ model.functions) {values : List Value} {command : String}
    (h : Registry.commandFor f values = .ok command) (last : Option Exchange)
    (reply : Except LinkError Unit) : underActive last ⟨.send command, reply⟩ := by
  have hfunction := List.mem_singleton.mp hmem
  have hsource : f.template.source = "*RST" := by
    rw [Template.source_of_parse hf.template, hfunction]
  have hcommand := Template.render_eq_ok.mp (Registry.commandFor_eq_ok.mp h).2
  rw [hsource] at hcommand
  -- without a site, the command is the source
  obtain rfl : command = "*RST" := String.toList_inj.mp (Except.ok.inj hcommand).symm
  exact underActive_send last (by decide) reply

theorem keeping (hr : IsTable r) (hfunctions : r.functions.map FunctionEntry.function =
    model.functions) : r.Keeping underActive where
  wellFormed := hr.wellFormed
  reads p hp := hr.reads_keep (hr.entries ▸ hp)
  commands := hr.underActive_commanded
  routines := by
    rintro name value routine ⟨p, script, token, hp, hscript, -, rfl⟩ depth
    have hroutine := List.mem_filterMap.mpr
      ⟨p, hr.entries ▸ hp.1, Parameter.setRoutine?_eq_some.mpr hscript⟩
    rw [setRoutines] at hroutine
    obtain ⟨q, hq, rfl⟩ := List.mem_map.mp hroutine
    exact hr.setUnder_keeps (List.mem_map_of_mem hq) depth q.1 value token
  calls f hf _ _ hcommand := underActive_called (hr.wellFormed.functions f hf)
    (hfunctions ▸ List.mem_map_of_mem hf) hcommand

end IsTable

/-! ### Single accesses -/

/-- Over `link` in the state `s`, the access asks for the function in use.  Without an answer that
names a function it ends with the error that `wrap` makes of the failure, and otherwise it makes one
further call, which is the one for the tree of the function. -/
structure Consults {σ ε α : Type} (link : Link σ) (s : σ) (wrap : GetError → ε)
    (next : String → Call) (access : Conversation (Except ε α)) : Prop where
  failed : ∀ e, Reports (link (.query "SENS:FUNC?") s).1 (.error e) →
    access.exchanges link s = [⟨.query "SENS:FUNC?", (link (.query "SENS:FUNC?") s).1⟩] ∧
      (access.run link s).1 = .error (wrap e)
  found : ∀ tree, Reports (link (.query "SENS:FUNC?") s).1 (.ok tree) →
    access.exchanges link s = [⟨.query "SENS:FUNC?", (link (.query "SENS:FUNC?") s).1⟩,
      ⟨next tree, (link (next tree) (link (.query "SENS:FUNC?") s).2).1⟩]

theorem consults_step {σ ε α : Type} {wrap : GetError → ε} {next : String → Call}
    {finish : (tree : String) → (next tree).Reply → Except ε α} (link : Link σ) (s : σ) :
    Consults link s wrap next (.step (.query "SENS:FUNC?") fun reply =>
      match treeOf reply with
      | .error e => .done (.error (wrap e))
      | .ok tree => .step (next tree) fun reply => .done (finish tree reply)) where
  failed e he := by
    rw [reports_iff] at he
    simp only [exchanges_step, run_step, he, exchanges_done, run_done, and_self]
  found tree htree := by
    rw [reports_iff] at htree
    simp only [exchanges_step, htree, exchanges_done]

theorem exists_setting : ∀ q ∈ functionCommands, ∃ p ∈ model.parameters, p.name = q.1 ∧
    p.getter = .custom (readUnder q.2) ∧ p.setter = .custom (setUnder q.1 q.2) := by
  simp only [functionCommands, List.forall_mem_cons]
  refine ⟨⟨_, List.mem_of_getElem? (i := 2) rfl, rfl, rfl, rfl⟩,
    ⟨_, List.mem_of_getElem? (i := 3) rfl, rfl, rfl, rfl⟩,
    ⟨_, List.mem_of_getElem? (i := 4) rfl, rfl, rfl, rfl⟩,
    ⟨_, List.mem_of_getElem? (i := 5) rfl, rfl, rfl, rfl⟩,
    ⟨_, List.mem_of_getElem? (i := 6) rfl, rfl, rfl, rfl⟩,
    ⟨_, List.mem_of_getElem? (i := 7) rfl, rfl, rfl, rfl⟩, nofun⟩

/-- In every run of the multimeter, a setting of a measurement function is addressed right after the
question for the function in use, under the function that the answer names.  Reading and setting
such a parameter end with that question if the answer names none, and a value outside the domain of
the parameter leads to no exchange. -/
theorem settings_address_reported_function :
    ∃ r, Catalogue.known.registry model.type = .ok r ∧
      (∀ (id : String) (requests : List Request) {σ : Type} (link : Link σ) (s : σ)
        (before after : List Exchange) (e : Exchange) (tree command : String),
        (Instrument.serve ⟨id, r⟩ requests).exchanges link s = before ++ e :: after →
        command ∈ functionCommands.map Prod.snd → Addresses tree command e.call →
        ∃ earlier raw, before = earlier ++ [⟨.query "SENS:FUNC?", .ok raw⟩] ∧
          Reports (.ok raw) (.ok tree)) ∧
      ∀ name command, (name, command) ∈ functionCommands →
        ∃ p, r.Declares name p ∧ ∀ {σ : Type} (link : Link σ) (s : σ),
          Consults link s id (fun tree => .query (tree ++ ":" ++ command ++ "?")) (r.get name) ∧
          ∀ value,
            (∀ token, p.Accepts value token →
              Consults link s (.dependency name)
                (fun tree => .send (tree ++ ":" ++ command ++ " " ++ token)) (r.set name value)) ∧
            ∀ refusal, p.Rejects value refusal → (r.set name value).exchanges link s = [] ∧
              ((r.set name value).run link s).1 =
                .error (.invalidValue name value.display refusal) := by
  have hm : model ∈ Catalogue.known.models := by simp [Catalogue.models_known]
  obtain ⟨r, hregistry, hbuild⟩ := Catalogue.exists_known_table hm
  obtain ⟨hwell, hentries, hfunctions⟩ := Registry.build_eq_ok hbuild
  have hr : IsTable r := ⟨hwell, hentries⟩
  refine ⟨r, hregistry, ?_, fun name command hmem => ?_⟩
  · intro id requests σ link s before after e tree command hlog hcommand haddresses
    have hkeeps := (hr.keeping hfunctions).serve_keeps id requests
    obtain ⟨raw, hlast, hreports⟩ := (hkeeps none).exchanges hlog tree command hcommand haddresses
    rw [Option.or_none, List.getLast?_eq_some_iff] at hlast
    obtain ⟨earlier, rfl⟩ := hlast
    exact ⟨earlier, raw, rfl, hreports⟩
  · obtain ⟨p, hp, rfl, hgetter, hsetter⟩ := exists_setting _ hmem
    have hdeclares : r.Declares p.name p := ⟨hentries ▸ hp, rfl⟩
    refine ⟨p, hdeclares, fun link s => ⟨?_, fun value => ⟨fun token htoken => ?_, ?_⟩⟩⟩
    · rw [hr.get_under hp hgetter]
      exact consults_step link s
    · rw [hr.set_under hp hsetter htoken]
      exact consults_step link s
    · intro refusal hrejects
      have hset := hwell.setThrough_rejected hdeclares
        (Parameter.isSettable_of_custom hsetter) hrejects (r.access (2 * r.entries.length))
      rw [show r.set p.name value = _ from hset]
      exact ⟨rfl, rfl⟩

/-- A multimeter that measures direct voltages. -/
def voltmeter : Scripted := { fixed := [("SENS:FUNC?", "\"VOLT:DC\"")] }

/-- An integration time goes to the function that the multimeter names, and one that is too long goes
nowhere. -/
theorem settings_address_reported_function_nplc :
    ∃ r, Catalogue.known.registry model.type = .ok r ∧
      Reports (.ok "\"VOLT:DC\"") (.ok "volt:dc") ∧
      (r.set "nplc" (.int 1)).exchanges Scripted.link voltmeter =
        [⟨.query "SENS:FUNC?", .ok "\"VOLT:DC\""⟩, ⟨.send "volt:dc:NPLC 1", .ok ()⟩] ∧
      (r.set "nplc" (.int 20)).exchanges Scripted.link voltmeter = [] := by
  obtain ⟨r, hregistry, -, hsettings⟩ := settings_address_reported_function
  obtain ⟨p, hp, hconsults⟩ := hsettings "nplc" "NPLC" (by decide)
  have hm : model ∈ Catalogue.known.models := by simp [Catalogue.models_known]
  obtain ⟨r', hregistry', hbuild⟩ := Catalogue.exists_known_table hm
  obtain rfl : r' = r := Except.ok.inj (hregistry'.symm.trans hregistry)
  obtain ⟨-, hentries, -⟩ := Registry.build_eq_ok hbuild
  have htokens : ∀ q ∈ model.parameters, q.name = "nplc" →
      Registry.tokenFor q (.int 1) = .ok "1" ∧
        Registry.tokenFor q (.int 20) = .error (.domain (.outside "0.01..=10")) := by decide +kernel
  obtain ⟨haccepts, hrejects⟩ := htokens p (hentries ▸ hp.1) hp.2
  rw [Parameter.tokenFor_eq_ok] at haccepts
  rw [Parameter.tokenFor_eq_error] at hrejects
  have hreports : Reports (.ok "\"VOLT:DC\"") (.ok "volt:dc") := reports_iff.mpr (by decide +kernel)
  obtain ⟨-, hvalues⟩ := hconsults Scripted.link voltmeter
  exact ⟨r', hregistry, hreports, ((hvalues (.int 1)).1 "1" haccepts).found "volt:dc" hreports,
    ((hvalues (.int 20)).2 _ hrejects).1⟩

end InstrumentControl.Dmm6500
