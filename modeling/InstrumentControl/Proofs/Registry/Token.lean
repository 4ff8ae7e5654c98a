import InstrumentControl.Proofs.Registry.Formatting

/-! How a token stands in the command that a template makes of it.  A site shows it between padding:
whole, or up to the precision of the site if it has one.  So a template whose sites have no
precision leaves every token whole, and a template with a precision can send a number that its
domain excludes. -/

namespace InstrumentControl

namespace Template

variable {t : Template} {token : List Char} {piece : Piece} {body part : List Char}

/-- What stands in a command for a piece of its template. -/
inductive Shows (token : List Char) : Piece → List Char → Prop
  | char (c : Char) : Shows token (.char c) [c]
  | whole {body : List Char} {field : Field} {left right : Nat} (hread : Field.read body = .ok field)
      (hwhole : ¬ field.Cuts token) (hpadding : left + right = field.width.getD 0 - token.length) :
      Shows token (.site body)
        (List.replicate left field.fill ++ token ++ List.replicate right field.fill)
  | beginning {body : List Char} {field : Field} {n left right : Nat}
      (hread : Field.read body = .ok field) (hprecision : field.precision = some n)
      (hlong : n < token.length) (hpadding : left + right = field.width.getD 0 - n) :
      Shows token (.site body)
        (List.replicate left field.fill ++ token.take n ++ List.replicate right field.fill)

theorem shows_of_place {field : Field} (hread : Field.read body = .ok field)
    (hplace : field.place token = .ok part) : Shows token (.site body) part := by
  obtain ⟨left, right, hpadding, rfl⟩ := Field.exists_padding_of_place hplace
  by_cases hcuts : field.Cuts token
  · obtain ⟨n, hprecision, hlong⟩ := hcuts
    have hcut : field.cut token = token.take n := by simp only [Field.cut, hprecision]
    rw [Field.missing, hcut, List.length_take_of_le (Nat.le_of_lt hlong)] at hpadding
    rw [hcut]
    exact .beginning hread hprecision hlong hpadding
  · rw [Field.missing, Field.cut_eq_self hcuts] at hpadding
    rw [Field.cut_eq_self hcuts]
    exact .whole hread hcuts hpadding

theorem shows_of_filled {text : String} (h : piece.filled
    (fun key => if key = valueKey then some text else none) = .ok part) :
    Shows text.toList piece part := by
  cases piece with
  | char c =>
    cases h
    exact .char c
  | misplaced fault => cases h
  | site body =>
    obtain ⟨field, token, hread, htoken, hplace⟩ := filled_site.mp h
    obtain ⟨-, heq⟩ := Option.ite_none_right_eq_some.mp htoken
    cases heq
    exact shows_of_place hread hplace

/-- A command shows the token at each site of its template. -/
theorem exists_shows_of_renderValue {text command : String}
    (h : t.renderValue text = .ok command) :
    ∃ parts, List.Forall₂ (Shows text.toList) (scan t.source.toList) parts ∧
      command = String.ofList parts.flatten := by
  obtain ⟨parts, hparts, hcommand⟩ := fill_eq_ok.mp (render_eq_ok.mp h)
  exact ⟨parts, hparts.imp fun _ _ => shows_of_filled, String.toList_inj.mp (by simp [hcommand])⟩

theorem infix_of_shows (h : Shows token (.site body) part)
    (hwhole : ∀ field, Field.read body = .ok field → ¬ field.Cuts token) : token <:+: part := by
  cases h with
  | whole hread hwhole' hpadding => exact List.infix_append _ _ _
  | beginning hread hprecision hlong hpadding => exact absurd ⟨_, hprecision, hlong⟩ (hwhole _ hread)

theorem infix_flatten_of_shows {pieces : List Piece} {parts : List (List Char)}
    (h : List.Forall₂ (Shows token) pieces parts) (hsite : .site body ∈ pieces)
    (hwhole : ∀ field, Field.read body = .ok field → ¬ field.Cuts token) :
    token <:+: parts.flatten := by
  induction h with
  | nil => cases hsite
  | cons hpart hparts ih =>
    rw [List.flatten_cons]
    cases hsite with
    | head => exact (infix_of_shows hpart hwhole).trans (List.prefix_append _ _).isInfix
    | tail _ hsite => exact (ih hsite).trans (List.suffix_append _ _).isInfix

end Template

namespace Registry

open Template

/-- In a table that was built in any way, setting by a template sends a command that shows the token
of the accepted value at each site, whole unless the site cuts it. -/
theorem sent_commands_show_tokens (calls : List Registration) :
    let r := after {} calls
    ∀ name p source, r.Declares name p → p.setter = .template source →
      ∃ t, r.entry? name = some ⟨p, some t⟩ ∧ Template.parse source = .ok t ∧
        ∀ value token, p.Accepts value token → ¬ (token = "" ∧ t.NeedsToken valueKey) →
          ∃ parts, List.Forall₂ (Shows token.toList) (scan source.toList) parts ∧
            (∀ body, .site body ∈ scan source.toList →
              (∀ field, Field.read body = .ok field → ¬ field.Cuts token.toList) →
                token.toList <:+: parts.flatten) ∧
            ∀ {σ : Type} (link : Link σ) (s : σ), ∃ reply,
              (r.set name value).exchanges link s =
                [⟨.send (String.ofList parts.flatten), reply⟩] := by
  intro r name p source hp hsetter
  have hr : r.WellFormed := (grows_after {} calls).wellFormed wellFormed_empty
  obtain ⟨t, hentry, ht, hkeys⟩ := hr.exists_entry_template hp hsetter
  refine ⟨t, hentry, ht, fun value token htoken hneeds => ?_⟩
  obtain ⟨command, hcommand⟩ := (renderValue_outcome ht hkeys token).1.mpr hneeds
  obtain ⟨parts, hparts, rfl⟩ := exists_shows_of_renderValue hcommand
  rw [source_of_parse ht] at hparts
  refine ⟨parts, hparts, fun body hsite hwhole => infix_flatten_of_shows hparts hsite hwhole,
    fun link s => ?_⟩
  have hset : r.set name value = _ :=
    (hr.setThrough_template hp hsetter ht htoken (r.access (2 * r.entries.length))).2 _ hcommand
  rw [hset]
  exact ⟨_, rfl⟩

/-- A level at the right of eight places, of which it fills four at most. -/
def alignedLevel : Parameter where
  name := "level"
  setter := .template "VOLT \x7bval:>8.4\x7d"

/-- The token of `12.5` has four characters, so it is whole. -/
theorem sent_commands_show_tokens_aligned :
    let r := after {} [.parameter alignedLevel]
    r.Declares "level" alignedLevel ∧ alignedLevel.Accepts (.text "12.5") "12.5" ∧
      ∃ parts : List (List Char), "12.5".toList <:+: parts.flatten ∧
        ∀ {σ : Type} (link : Link σ) (s : σ), ∃ reply,
          (r.set "level" (.text "12.5")).exchanges link s =
            [⟨.send (String.ofList parts.flatten), reply⟩] := by
  intro r
  have hlevel : r.Declares "level" alignedLevel := ⟨List.mem_singleton.mpr rfl, rfl⟩
  have htoken : alignedLevel.Accepts (.text "12.5") "12.5" := Parameter.tokenFor_eq_ok.mp rfl
  obtain ⟨t, -, -, hsend⟩ :=
    sent_commands_show_tokens [.parameter alignedLevel] "level" alignedLevel _ hlevel rfl
  obtain ⟨parts, -, hwhole, hlog⟩ := hsend _ _ htoken (fun hempty => absurd hempty.1 (by decide))
  refine ⟨hlevel, htoken, parts, hwhole "val:>8.4".toList (by decide) ?_, hlog⟩
  rintro field hread ⟨n, hprecision, hlong⟩
  cases hread
  cases hprecision
  exact absurd hlong (by decide)

/-- A level of ten to twenty volts, whose template has the precision of one character. -/
def shortLevel : Parameter where
  name := "level"
  setter := .template "VOLT \x7bval:.1\x7d"
  domain := some (.numbers 10 20)

/-- The table takes the level, accepts `12` and sends `1`, which its domain excludes. -/
theorem short_level_cuts_token : ∃ r, Registry.register {} shortLevel = .ok r ∧
    shortLevel.Accepts (.int 12) "12" ∧
    (∀ {σ : Type} (link : Link σ) (s : σ), ∃ reply,
      (r.set "level" (.int 12)).exchanges link s = [⟨.send "VOLT 1", reply⟩]) ∧
    ¬ "12".toList <:+: "VOLT 1".toList ∧
    ∃ rejection, (Domain.numbers 10 20).check (.int 1) = .error rejection := by
  refine ⟨_, rfl, ?_, ?_, by decide, _, rfl⟩
  · rw [← Parameter.tokenFor_eq_ok]
    rfl
  · intro σ link s
    exact ⟨_, rfl⟩

end Registry

end InstrumentControl
