import InstrumentControl.Proofs.Domain
import InstrumentControl.Proofs.Registry.Calling
import InstrumentControl.Proofs.Template.Field
import InstrumentControl.Proofs.Template.Filling
import InstrumentControl.Proofs.Text.Inline

/-! Declarations whose commands stay within a line.  A template keeps the command within a line if
its own characters do and every token that a site takes does.  The tokens of a parameter are those
of its mapping, or else numbers, truth values and the texts that its domain lists.  So it is decided
by the declaration alone whether the command of an accepted value stays within a line. -/

namespace InstrumentControl

open Text

namespace Template

/-- The piece stands for inline characters, where `tokens` tells whether all tokens are inline. -/
def Piece.isInline (tokens : Bool) : Piece → Bool
  | .char c => Text.isInline c
  | .site body => tokens && !body.contains ':'
  | .misplaced _ => false

/-- The pieces of the text stand for inline characters. -/
def isInline (tokens : Bool) (source : String) : Bool :=
  (scan source.toList).all (Piece.isInline tokens)

variable {tokens : Bool} {token : String → Option String}

theorem Piece.inline_of_filled {piece : Piece} {part : List Char}
    (hpiece : piece.isInline tokens = true)
    (htoken : tokens = true → ∀ key text, token key = some text → Inline text)
    (h : piece.filled token = .ok part) : ∀ c ∈ part, Text.isInline c = true := by
  cases piece with
  | char c =>
    cases h
    exact List.forall_mem_singleton.mpr hpiece
  | misplaced fault => cases h
  | site body =>
    simp only [isInline, Bool.and_eq_true, Bool.not_eq_true', List.contains_eq_mem,
      decide_eq_false_iff_not] at hpiece
    obtain ⟨field, text, hread, hkey, hplace⟩ := filled_site.mp h
    have hbody : body ≠ [] := by
      rintro rfl
      cases hread
    rw [Field.read_plain hbody hpiece.2, Except.ok.injEq] at hread
    subst hread
    rw [Field.place_plain, Except.ok.injEq] at hplace
    exact hplace ▸ htoken hpiece.1 _ text hkey

theorem inline_of_render {t : Template} {command : String} (ht : isInline tokens t.source = true)
    (htoken : tokens = true → ∀ key text, token key = some text → Inline text)
    (h : t.render token = .ok command) : Inline command := by
  obtain ⟨parts, hparts, hflat⟩ := fill_eq_ok.mp (render_eq_ok.mp h)
  rw [Inline, ← hflat]
  intro c hc
  obtain ⟨part, hpart, hmem⟩ := List.mem_flatten.mp hc
  obtain ⟨i, hi, rfl⟩ := List.getElem_of_mem hpart
  have hlength := hparts.length_eq
  have hpiece := List.all_eq_true.mp ht _ (List.getElem_mem (hlength ▸ hi))
  exact Piece.inline_of_filled hpiece htoken (hparts.get (hlength ▸ hi) hi) c hmem

end Template

namespace Parameter

variable {p : Parameter} {value : Value} {token : String}

/-- The tokens of the mapping, or else the texts of the domain, if there is one of them. -/
def words (p : Parameter) : Option (List String) :=
  match p.mapping with
  | some m => some m.tokens
  | none => p.domain.map Domain.texts

/-- The tokens of the parameter are known to be inline. -/
def hasInlineWords (p : Parameter) : Bool :=
  match p.words with
  | some words => words.all fun w => decide (Inline w)
  | none => false

theorem Accepts.inline (hwords : p.hasInlineWords = true) (h : p.Accepts value token) :
    Inline token := by
  rw [hasInlineWords, words] at hwords
  cases h with
  | @mapped m before after key token hmapping hpairs =>
    have hpair : (key, token) ∈ m.pairs :=
      hpairs ▸ List.mem_append_right before List.mem_cons_self
    simp only [hmapping, List.all_eq_true, decide_eq_true_eq] at hwords
    exact hwords token (List.mem_map_of_mem hpair)
  | plain hmapping hdomain =>
    cases hd : p.domain with
    | none => simp [hmapping, hd] at hwords
    | some d =>
      simp only [hmapping, hd, Option.map_some, List.all_eq_true, decide_eq_true_eq] at hwords
      refine Value.inline_toWire fun s hs => hwords s ?_
      exact d.check_text.mp (hs ▸ hdomain d hd)

/-- A query that reads the parameter is inline. -/
def asksInline (p : Parameter) : Bool :=
  match p.getter with
  | .query command => decide (Inline command)
  | _ => true

/-- A command that a template makes of an accepted value is inline, and so is a token that is left
to a routine. -/
def setsInline (p : Parameter) : Bool :=
  match p.setter with
  | .none => true
  | .template source => Template.isInline p.hasInlineWords source
  | .custom _ => p.hasInlineWords

end Parameter

/-- A command that the template makes of accepted arguments is inline. -/
def Function.callsInline (f : Function) : Bool :=
  Template.isInline (f.arguments.all fun d => d.texts.all fun s => decide (Inline s)) f.template

namespace Registry

variable {r : Registry} {name command : String} {value : Value}

theorem inline_of_commands (hsets : ∀ p ∈ r.entries.map Entry.parameter, p.setsInline = true)
    (h : r.Commands name value command) : Inline command := by
  obtain ⟨p, source, t, token, hp, hsetter, ht, htoken, hrender⟩ := h
  have hsource := hsets p hp.1
  simp only [Parameter.setsInline, hsetter] at hsource
  rw [← Template.source_of_parse ht] at hsource
  refine Template.inline_of_render hsource (fun hwords key text htext => ?_) hrender
  split at htext <;> cases htext
  exact htoken.inline hwords

theorem Fit.inline {domains : List Domain} {values : List Value}
    (hdomains : ∀ d ∈ domains, ∀ s ∈ d.texts, Inline s) (h : Fit domains values) :
    ∀ value ∈ values, Inline value.toWire := by
  induction h with
  | nil => exact nofun
  | cons hcheck _ ih =>
    rw [List.forall_mem_cons] at hdomains ⊢
    refine ⟨Value.inline_toWire fun s hs => hdomains.1 s ?_, ih hdomains.2⟩
    exact (Domain.check_text _).mp (hs ▸ hcheck)

theorem inline_of_commandFor {f : FunctionEntry} {values : List Value} (hf : f.WellFormed)
    (hcalls : f.function.callsInline = true) (h : commandFor f values = .ok command) :
    Inline command := by
  obtain ⟨hfit, hrender⟩ := commandFor_eq_ok.mp h
  rw [Function.callsInline, ← Template.source_of_parse hf.template] at hcalls
  refine Template.inline_of_render hcalls (fun hdomains key text htext => ?_) hrender
  simp only [List.all_eq_true, decide_eq_true_eq] at hdomains
  obtain ⟨⟨token, place⟩, hfound, rfl⟩ := Option.map_eq_some_iff.mp htext
  have hmem : token ∈ values.map Value.toWire :=
    List.fst_mem_of_mem_zipIdx (List.mem_of_find?_eq_some hfound)
  obtain ⟨value, hvalue, rfl⟩ := List.mem_map.mp hmem
  exact hfit.inline hdomains value hvalue

end Registry

end InstrumentControl
