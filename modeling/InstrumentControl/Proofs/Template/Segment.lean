import InstrumentControl.Proofs.Template.Draft

/-! Templates as they are written.  A command is literal text and sites for tokens, and the names of
the sites are that of the value and those of the arguments; `written` gives the template for it, with
every brace of the text doubled.  It is that of a draft, so it is accepted, it has the sites that it
was written with, and filling it gives the literal text with the tokens in it, whatever characters
either has. -/

namespace InstrumentControl.Template

/-- What a command leaves open: the value of a parameter, or an argument of a function. -/
inductive Site where
  | value
  | argument (i : Nat)
deriving DecidableEq

def Site.key : Site → String
  | value => valueKey
  | argument i => argumentKey i

inductive Segment where
  | literal (text : String)
  | site (s : Site)
deriving DecidableEq

def Segment.written : Segment → List Char
  | literal text => text.toList.flatMap doubled
  | site s => '\x7b' :: (s.key.toList ++ ['\x7d'])

/-- The template of the segments. -/
def written (segments : List Segment) : List Char := segments.flatMap Segment.written

def Segment.meant (token : Site → String) : Segment → List Char
  | literal text => text.toList
  | site s => (token s).toList

/-- The command of the segments, with `token` giving what stands at the sites. -/
def meant (token : Site → String) (segments : List Segment) : List Char :=
  segments.flatMap (Segment.meant token)

theorem key_toList_ne_nil (s : Site) : s.key.toList ≠ [] := by
  cases s with
  | value => decide
  | argument i => simp [Site.key, argumentKey, Decimal.decimalText, Nat.toDigits_ne_nil]

/-- A key needs no escape, and no specification begins in it. -/
theorem key_plain (s : Site) : ∀ c ∈ s.key.toList, c ≠ '\x7b' ∧ c ≠ '\x7d' ∧ c ≠ ':' := by
  cases s with
  | value => simp [Site.key, valueKey]
  | argument i =>
    intro c hc
    have hdigit : c.isDigit = true := by
      rw [Site.key, argumentKey, Decimal.decimalText, String.toList_ofList] at hc
      exact Nat.isDigit_of_mem_toDigits (by decide) (by decide) hc
    refine ⟨?_, ?_, ?_⟩ <;> rintro rfl <;> exact absurd hdigit (by decide)

/-- The name that the site has in a draft. -/
def Site.named (s : Site) : Key where
  text := s.key
  nonempty := String.toList_eq_nil_iff.not.mp (key_toList_ne_nil s)
  plain := key_plain s

def Segment.part : Segment → Part
  | literal text => .literal text
  | site s => .site s.named

variable {segments : List Segment}

theorem written_eq (segments : List Segment) :
    written segments = Draft.source (segments.map Segment.part) := by
  rw [written, Draft.source, List.flatMap_map]
  exact List.flatMap_congr fun segment _ => by cases segment <;> rfl

theorem mem_keys_part {name : String} : name ∈ Draft.keys (segments.map Segment.part) ↔
    ∃ s, Segment.site s ∈ segments ∧ name = s.key := by
  rw [mem_keys]
  constructor
  · rintro ⟨key, hkey, rfl⟩
    obtain ⟨segment, hmem, hpart⟩ := List.mem_map.mp hkey
    cases segment with
    | literal text => cases hpart
    | site s =>
      cases hpart
      exact ⟨s, hmem, rfl⟩
  · rintro ⟨s, hmem, rfl⟩
    exact ⟨s.named, List.mem_map_of_mem hmem, rfl⟩

theorem meant_eq {named : Site → String} {token : String → String}
    (h : ∀ s, Segment.site s ∈ segments → token s.key = named s) :
    meant named segments = Draft.command token (segments.map Segment.part) := by
  rw [meant, Draft.command, List.flatMap_map]
  refine List.flatMap_congr fun segment hmem => ?_
  cases segment with
  | literal text => rfl
  | site s => exact congrArg String.toList (h s hmem).symm

theorem exists_parse_written (hblank : Text.trim (written segments) ≠ []) :
    ∃ t, parse (String.ofList (written segments)) = .ok t := by
  rw [written_eq] at hblank ⊢
  exact exists_parse_source.mpr hblank

variable {token : String → Option String} {named : Site → String} {t : Template}
  (ht : parse (String.ofList (written segments)) = .ok t)
include ht

theorem mem_keys_written {key : String} :
    key ∈ t.keys ↔ ∃ s, Segment.site s ∈ segments ∧ key = s.key := by
  rw [written_eq] at ht
  rw [mem_keys_source ht, mem_keys_part]

theorem render_written (h : ∀ s, Segment.site s ∈ segments → token s.key = some (named s)) :
    t.render token = .ok (String.ofList (meant named segments)) := by
  let plain (key : String) : String := (token key).getD ""
  have hplain : ∀ s, Segment.site s ∈ segments → plain s.key = named s := fun s hs => by
    simp only [plain, h s hs, Option.getD_some]
  rw [written_eq] at ht
  rw [meant_eq hplain]
  refine render_source ht fun key hkey => ?_
  obtain ⟨s, hs, rfl⟩ := mem_keys_part.mp hkey
  exact (h s hs).trans (congrArg some (hplain s hs).symm)

omit ht

/-- A template that is written from segments is accepted, its keys are those of its sites, and
filling it puts the tokens, as they are, between the literal texts, as they are. -/
theorem parse_written (segments : List Segment) (hblank : Text.trim (written segments) ≠ []) :
    ∃ t, parse (String.ofList (written segments)) = .ok t ∧
      (∀ key, key ∈ t.keys ↔ ∃ s, Segment.site s ∈ segments ∧ key = s.key) ∧
      ∀ named : Site → String,
        let command := String.ofList (meant named segments)
        (∀ token : String → Option String,
          (∀ s, Segment.site s ∈ segments → token s.key = some (named s)) →
          t.render token = .ok command) ∧
        ((∀ s, Segment.site s ∈ segments → s = .value) →
          t.renderValue (named .value) = .ok command) ∧
        ∀ tokens : List String,
          (∀ s, Segment.site s ∈ segments →
            ∃ i, s = .argument i ∧ tokens[i]? = some (named s)) →
          t.renderArguments tokens = .ok command := by
  obtain ⟨t, ht⟩ := exists_parse_written hblank
  refine ⟨t, ht, fun key => mem_keys_written ht, fun named => ⟨fun token => render_written ht,
    fun hvalue => render_written ht fun s hs => ?_,
    fun tokens harguments => render_written ht fun s hs => ?_⟩⟩
  · rw [hvalue s hs]
    exact if_pos rfl
  · obtain ⟨i, rfl, htoken⟩ := harguments s hs
    rw [← htoken]
    exact argumentToken_eq tokens i

/-- Braces next to a site, and a token that looks like one. -/
theorem parse_written_braced :
    let segments : List Segment := [.literal "é\x7b", .site .value, .literal "\x7d\x7d\x7b"]
    Text.trim (written segments) ≠ [] ∧
      ∃ t, parse "é\x7b\x7b\x7bval\x7d\x7d\x7d\x7d\x7d\x7b\x7b" = .ok t ∧
        t.renderValue "\x7bval\x7d" = .ok "é\x7b\x7bval\x7d\x7d\x7d\x7b" := by
  intro segments
  have hblank : Text.trim (written segments) ≠ [] := by decide
  obtain ⟨t, ht, -, hfill⟩ := parse_written segments hblank
  have hvalue : ∀ s, Segment.site s ∈ segments → s = .value := by simp [segments]
  exact ⟨hblank, t, ht, (hfill fun _ => "\x7bval\x7d").2.1 hvalue⟩

end InstrumentControl.Template
