import InstrumentControl.Proofs.Registry.Calling
import InstrumentControl.Proofs.Template.Field
import InstrumentControl.Proofs.Template.Filling

/-! What it is worth that a template was filled with `0` when it was registered.  Such a template
can be filled with all other tokens, but for the empty token at a site that pads one character in
front of the sign.  So setting and calling never fail for the format of a command, unless a value
or an argument is written as an empty text there. -/

namespace InstrumentControl

namespace Template

variable {token : String → Option String} {piece : Piece} {source : String} {t : Template}

/-- A site of the key does not take the empty token. -/
def NeedsToken (t : Template) (key : String) : Prop :=
  ∃ body field, Piece.site body ∈ scan t.source.toList ∧ Field.read body = .ok field ∧
    field.key = key ∧ field.NeedsSign

/-- The piece is a site that does not take the empty token, which is the one for its key. -/
def Piece.Starves (token : String → Option String) (piece : Piece) : Prop :=
  ∃ body field, piece = .site body ∧ Field.read body = .ok field ∧ field.NeedsSign ∧
    token field.key = some ""

/-- What fails only for the empty token, and then exactly when `lacks` holds. -/
theorem outcome_iff {α : Type} {result : Except Fault α} {lacks : Prop}
    (h : (∃ a, result = .ok a) ∧ ¬ lacks ∨ result = .error .signAware ∧ lacks) :
    ((∃ a, result = .ok a) ↔ ¬ lacks) ∧
      ∀ fault, result = .error fault ↔ fault = .signAware ∧ lacks := by
  rcases h with ⟨⟨a, rfl⟩, hfull⟩ | ⟨rfl, hlacks⟩
  · simp [hfull]
  · simp [hlacks, eq_comm]

theorem fill_eq_error {pieces : List Piece} {fault : Fault}
    (h : fill token pieces = .error fault) : ∃ piece ∈ pieces, piece.filled token = .error fault := by
  induction pieces with
  | nil => cases h
  | cons piece pieces ih =>
    rw [fill_cons] at h
    cases hpart : piece.filled token with
    | error fault' =>
      rw [hpart] at h
      cases h
      exact ⟨piece, List.mem_cons_self, hpart⟩
    | ok part =>
      rw [hpart] at h
      cases hrest : fill token pieces with
      | error fault' =>
        rw [hrest] at h
        cases h
        obtain ⟨piece', hmem, hpiece⟩ := ih hrest
        exact ⟨piece', List.mem_cons_of_mem _ hmem, hpiece⟩
      | ok rest =>
        rw [hrest] at h
        cases h

/-- What was filled with `0` is filled with a token unless the token is missing there. -/
theorem Piece.filled_cases {part : List Char} (hzero : piece.filled (fun _ => some "0") = .ok part)
    (htoken : ∀ body field, piece = .site body → Field.read body = .ok field →
      ∃ text, token field.key = some text) :
    (∃ part, piece.filled token = .ok part) ∧ ¬ piece.Starves token ∨
      piece.filled token = .error .signAware ∧ piece.Starves token := by
  cases piece with
  | char c => exact .inl ⟨⟨[c], rfl⟩, fun ⟨_, _, h, _⟩ => by cases h⟩
  | misplaced fault => cases hzero
  | site body =>
    obtain ⟨field, zero, hread, hkey, hplace⟩ := filled_site.mp hzero
    cases hkey
    obtain ⟨text, htext⟩ := htoken body field rfl hread
    have hstarves : (Piece.site body).Starves token ↔ text.toList = [] ∧ field.NeedsSign := by
      constructor
      · rintro ⟨body', field', hbody, hread', hneeds, hempty⟩
        cases hbody
        rw [hread, Except.ok.injEq] at hread'
        subst hread'
        rw [htext, Option.some.injEq] at hempty
        exact ⟨by rw [hempty]; rfl, hneeds⟩
      · rintro ⟨hempty, hneeds⟩
        exact ⟨body, field, rfl, hread, hneeds, by rw [htext, String.toList_eq_nil_iff.mp hempty]⟩
    rw [hstarves]
    -- `0` is one character
    rcases Field.exists_place_of_place hplace text.toList with ⟨⟨out, hout⟩, hfull⟩ | ⟨herror, hempty⟩
    · exact .inl ⟨⟨out, filled_site.mpr ⟨field, text, hread, htext, hout⟩⟩, hfull⟩
    · refine .inr ⟨?_, hempty⟩
      simp [filled, hread, htext, herror, bind, Except.bind]

/-- A template that was accepted is filled with all tokens, if none is empty where one is needed. -/
theorem render_cases (ht : parse source = .ok t)
    (htoken : ∀ key ∈ t.keys, ∃ text, token key = some text) :
    (∃ command, t.render token = .ok command) ∧ ¬ (∃ key, t.NeedsToken key ∧ token key = some "") ∨
      t.render token = .error .signAware ∧ ∃ key, t.NeedsToken key ∧ token key = some "" := by
  have hsource := source_of_parse ht
  obtain ⟨-, -, -, out, hzero⟩ := parse_eq_ok.mp ht
  have hpieces : ∀ piece ∈ scan t.source.toList,
      (∃ part, piece.filled token = .ok part) ∧ ¬ piece.Starves token ∨
        piece.filled token = .error .signAware ∧ piece.Starves token := by
    intro piece hmem
    rw [hsource] at hmem
    obtain ⟨part, hpart⟩ := exists_fill.mp ⟨out, hzero⟩ piece hmem
    refine piece.filled_cases hpart fun body field hbody hread => htoken _ ?_
    exact (mem_keys_of_parse ht).mpr ⟨body, field, hbody ▸ hmem, hread, rfl⟩
  have hstarves : (∃ key, t.NeedsToken key ∧ token key = some "") ↔
      ∃ piece ∈ scan t.source.toList, piece.Starves token := by
    constructor
    · rintro ⟨key, ⟨body, field, hmem, hread, rfl, hneeds⟩, hempty⟩
      exact ⟨_, hmem, body, field, rfl, hread, hneeds, hempty⟩
    · rintro ⟨piece, hmem, body, field, rfl, hread, hneeds, hempty⟩
      exact ⟨field.key, ⟨body, field, hmem, hread, rfl, hneeds⟩, hempty⟩
  rw [hstarves]
  -- filling fails with the first piece that fails, and a piece fails just if it starves
  cases hfill : fill token (scan t.source.toList) with
  | ok out =>
    refine .inl ⟨⟨String.ofList out, render_eq_ok.mpr (by simpa using hfill)⟩, ?_⟩
    rintro ⟨piece, hmem, hpiece⟩
    obtain ⟨part, hpart⟩ := exists_fill.mp ⟨out, hfill⟩ piece hmem
    rcases hpieces piece hmem with ⟨-, hno⟩ | ⟨herror, -⟩
    · exact hno hpiece
    · rw [hpart] at herror
      cases herror
  | error fault =>
    obtain ⟨piece, hmem, hpiece⟩ := fill_eq_error hfill
    rcases hpieces piece hmem with ⟨⟨part, hpart⟩, -⟩ | ⟨herror, hno⟩
    · rw [hpart] at hpiece
      cases hpiece
    · rw [herror] at hpiece
      cases hpiece
      exact .inr ⟨by rw [render, hfill]; rfl, piece, hmem, hno⟩

theorem renderValue_outcome (ht : parse source = .ok t) (hkeys : ∀ key ∈ t.keys, key = valueKey)
    (token : String) :
    ((∃ command, t.renderValue token = .ok command) ↔ ¬ (token = "" ∧ t.NeedsToken valueKey)) ∧
      ∀ fault, t.renderValue token = .error fault ↔
        fault = .signAware ∧ token = "" ∧ t.NeedsToken valueKey := by
  have htoken : ∀ key ∈ t.keys, ∃ text, (if key = valueKey then some token else none) = some text :=
    fun key hkey => ⟨token, if_pos (hkeys key hkey)⟩
  have hempty : (∃ key, t.NeedsToken key ∧
      (if key = valueKey then some token else none) = some "") ↔
        token = "" ∧ t.NeedsToken valueKey := by
    constructor
    · rintro ⟨key, hneeds, htoken⟩
      split at htoken
      · next hkey => exact ⟨Option.some.inj htoken, hkey ▸ hneeds⟩
      · cases htoken
    · rintro ⟨rfl, hneeds⟩
      exact ⟨valueKey, hneeds, if_pos rfl⟩
  rw [← hempty]
  exact outcome_iff (render_cases ht htoken)

theorem renderArguments_outcome (ht : parse source = .ok t) {tokens : List String} {count : Nat}
    (hkeys : ∀ key, key ∈ t.keys ↔ ∃ i < count, key = argumentKey i)
    (hlength : tokens.length = count) :
    ((∃ command, t.renderArguments tokens = .ok command) ↔
        ¬ ∃ i, tokens[i]? = some "" ∧ t.NeedsToken (argumentKey i)) ∧
      ∀ fault, t.renderArguments tokens = .error fault ↔
        fault = .signAware ∧ ∃ i, tokens[i]? = some "" ∧ t.NeedsToken (argumentKey i) := by
  let token (key : String) : Option String :=
    ((tokens.zipIdx).find? fun p => argumentKey p.2 = key).map Prod.fst
  have htoken : ∀ key ∈ t.keys, ∃ text, token key = some text := by
    intro key hkey
    obtain ⟨i, hi, rfl⟩ := (hkeys key).mp hkey
    have hplace : i < tokens.length := hlength ▸ hi
    exact ⟨tokens[i], (argumentToken_eq tokens i).trans (List.getElem?_eq_getElem hplace)⟩
  have hempty : (∃ key, t.NeedsToken key ∧ token key = some "") ↔
      ∃ i, tokens[i]? = some "" ∧ t.NeedsToken (argumentKey i) := by
    constructor
    · rintro ⟨key, hneeds, hkey⟩
      -- a key that needs a token is one of the template, so it is that of an argument
      obtain ⟨body, field, hmem, hread, rfl, -⟩ := id hneeds
      have hmem' := (mem_keys_of_parse ht).mpr ⟨body, field, source_of_parse ht ▸ hmem, hread, rfl⟩
      obtain ⟨i, -, hi⟩ := (hkeys _).mp hmem'
      rw [hi] at hkey hneeds
      exact ⟨i, (argumentToken_eq tokens i).symm.trans hkey, hneeds⟩
    · rintro ⟨i, hi, hneeds⟩
      exact ⟨argumentKey i, hneeds, (argumentToken_eq tokens i).trans hi⟩
  rw [← hempty]
  exact outcome_iff (render_cases ht htoken)

end Template

namespace Registry

open Template

section

variable {r : Registry} {name : String} {p : Parameter} {t : Template} {σ : Type}

theorem mapError_ne_error {α ε ε' : Type} {wrap : ε → ε'} {e : ε'} (h : ∀ cause, wrap cause ≠ e)
    (reply : Except ε α) : reply.mapError wrap ≠ .error e := by
  cases reply with
  | error cause => exact fun he => h cause (Except.error.inj he)
  | ok a => exact nofun

namespace WellFormed

theorem exists_entry_template (hr : r.WellFormed) (hp : r.Declares name p) {source : String}
    (hsetter : p.setter = .template source) : ∃ t, r.entry? name = some ⟨p, some t⟩ ∧
      Template.parse source = .ok t ∧ ∀ key ∈ t.keys, key = valueKey := by
  obtain ⟨template, hentry, he⟩ := hr.entry?_of_declares hp
  obtain ⟨t, ht⟩ := hr.exists_template hp hsetter
  obtain rfl : template = some t := (he.template t).mpr ⟨source, hsetter, ht⟩
  exact ⟨t, hentry, ht, he.sites t rfl⟩

/-- Setting by a template fails for the format exactly when an empty token is accepted and the
template needs one. -/
theorem set_eq_format (hr : r.WellFormed) (hp : r.Declares name p) {source : String}
    (hsetter : p.setter = .template source) (ht : Template.parse source = .ok t)
    (hkeys : ∀ key ∈ t.keys, key = valueKey) (link : Link σ) (s : σ) (value : Value)
    (fault : Fault) : ((r.set name value).run link s).1 = .error (.format name fault) ↔
      fault = .signAware ∧ p.Accepts value "" ∧ t.NeedsToken valueKey := by
  show ((r.setThrough (r.access (2 * r.entries.length)) name value).run link s).1 = _ ↔ _
  rcases p.accepts_or_rejects value with ⟨token, htoken⟩ | ⟨refusal, hrejects⟩
  · have hset := hr.setThrough_template hp hsetter ht htoken (r.access (2 * r.entries.length))
    have hempty : p.Accepts value "" ↔ token = "" :=
      ⟨fun h => h.unique htoken, fun h => h ▸ htoken⟩
    rw [hempty, ← (renderValue_outcome ht hkeys token).2]
    cases hrender : t.renderValue token with
    | ok command =>
      rw [hset.2 command hrender]
      exact ⟨fun h => absurd h (mapError_ne_error nofun _), nofun⟩
    | error fault' =>
      rw [hset.1 fault' hrender]
      simp
  · rw [hr.setThrough_rejected hp (Parameter.isSettable_of_template hsetter) hrejects]
    simp [hrejects.not_accepts]

end WellFormed

/-- Calling fails for the format exactly when one of the accepted arguments is written as an empty
text and the template needs a token there. -/
theorem call_eq_format {f : FunctionEntry} (hf : f.WellFormed)
    (hfound : r.functionEntry? name = some f) (hname : f.function.name = name) (link : Link σ)
    (s : σ) (values : List Value) (fault : Fault) :
    ((r.call name values).run link s).1 = .error (.format name fault) ↔
      fault = .signAware ∧ Fit f.function.arguments values ∧
        ∃ i : Nat, (values.map Value.toWire)[i]? = some "" ∧
          f.template.NeedsToken (argumentKey i) := by
  have hformat : ((r.call name values).run link s).1 = .error (.format name fault) ↔
      commandFor f values = .error (.format name fault) := by
    cases hcommand : commandFor f values with
    | error e =>
      simp [call_refused hfound hcommand]
    | ok command =>
      rw [call_commanded hfound hcommand]
      exact ⟨fun h => absurd h (mapError_ne_error nofun _), nofun⟩
  rw [hformat, commandFor_eq_format]
  by_cases hfit : Fit f.function.arguments values
  · have hlength : (values.map Value.toWire).length = f.function.arguments.length := by
      rw [List.length_map, hfit.length_eq]
    rw [(renderArguments_outcome hf.template hf.sites hlength).2]
    simp [hfit, hname]
  · simp [hfit]

end

/-- In a table that was built in any way, a template takes every token but the empty one, and takes
that one too unless it has a site that pads one character in front of the sign.  So setting and
calling fail for the format exactly when an accepted value or argument is written as an empty text
at such a site. -/
theorem templates_format_tokens (calls : List Registration) :
    let r := after {} calls
    (∀ name p source, r.Declares name p → p.setter = .template source →
      ∃ t, r.entry? name = some ⟨p, some t⟩ ∧
        (∀ token, (∃ command, t.renderValue token = .ok command) ↔
          ¬ (token = "" ∧ t.NeedsToken valueKey)) ∧
        ∀ {σ : Type} (link : Link σ) (s : σ) value fault,
          ((r.set name value).run link s).1 = .error (.format name fault) ↔
            fault = .signAware ∧ p.Accepts value "" ∧ t.NeedsToken valueKey) ∧
    ∀ name f, r.functionEntry? name = some f →
      (∀ tokens : List String, tokens.length = f.function.arguments.length →
        ((∃ command, f.template.renderArguments tokens = .ok command) ↔
          ¬ ∃ i, tokens[i]? = some "" ∧ f.template.NeedsToken (argumentKey i))) ∧
      ∀ {σ : Type} (link : Link σ) (s : σ) values fault,
        ((r.call name values).run link s).1 = .error (.format name fault) ↔
          fault = .signAware ∧ Fit f.function.arguments values ∧
            ∃ i : Nat, (values.map Value.toWire)[i]? = some "" ∧
              f.template.NeedsToken (argumentKey i) := by
  intro r
  have hr : r.WellFormed := (grows_after {} calls).wellFormed wellFormed_empty
  refine ⟨fun name p source hp hsetter => ?_, fun name f hfound => ?_⟩
  · obtain ⟨t, hentry, ht, hkeys⟩ := hr.exists_entry_template hp hsetter
    exact ⟨t, hentry, fun token => (renderValue_outcome ht hkeys token).1,
      hr.set_eq_format hp hsetter ht hkeys⟩
  · obtain ⟨hmem, hname⟩ := hr.functionEntry?_eq_some.mp hfound
    have hf := hr.functions f hmem
    exact ⟨fun tokens hlength => (renderArguments_outcome hf.template hf.sites hlength).1,
      call_eq_format hf hfound hname⟩

/-- A level that is padded in front of its sign to one character. -/
def paddedLevel : Parameter where
  name := "level"
  setter := .template "VOLT \x7bval:01\x7d"

/-- Where the level is registered, the empty text is the one token that it cannot be set to. -/
theorem templates_format_tokens_padded :
    let r := after {} [.parameter paddedLevel]
    r.Declares "level" paddedLevel ∧ ∃ t, r.entry? "level" = some ⟨paddedLevel, some t⟩ ∧
      ∀ token, (∃ command, t.renderValue token = .ok command) ↔ token ≠ "" := by
  intro r
  have hlevel : r.Declares "level" paddedLevel := ⟨List.mem_singleton.mpr rfl, rfl⟩
  obtain ⟨t, hentry, hrender, -⟩ :=
    (templates_format_tokens [.parameter paddedLevel]).1 "level" paddedLevel _ hlevel rfl
  have hsource : t.source = "VOLT \x7bval:01\x7d" := by
    cases hentry
    rfl
  have hneeds : t.NeedsToken valueKey := by
    refine ⟨"val:01".toList, _, ?_, rfl, rfl, rfl, rfl⟩
    rw [hsource]
    decide
  exact ⟨hlevel, t, hentry, fun token => by simp [hrender, hneeds]⟩

/-- The table takes the level, and then cannot format the empty text. -/
theorem padded_level_lacks_empty_text : ∃ r, Registry.register {} paddedLevel = .ok r ∧
    r.set "level" (.text "") = return .error (.format "level" .signAware) := ⟨_, rfl, rfl⟩

end Registry

end InstrumentControl
