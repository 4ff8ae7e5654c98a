import InstrumentControl.Proofs.Template.Field
import InstrumentControl.Proofs.Template.Filling

/-! Drafts of templates: literal texts, and sites that have a name and no specification.  `source`
writes the template of a draft, with every brace of the texts doubled.  The scanner takes it apart
into the parts that it was written from.  So the template is accepted unless it is blank, its keys
are the names in the draft, and filling it puts the tokens, as they are, between the texts, as they
are. -/

namespace InstrumentControl.Template

/-- A name for sites, in which neither a brace nor a specification begins. -/
structure Key where
  text : String
  nonempty : text ≠ ""
  plain : ∀ c ∈ text.toList, c ≠ '\x7b' ∧ c ≠ '\x7d' ∧ c ≠ ':'

inductive Part where
  | literal (text : String)
  | site (key : Key)

/-- A brace that is text is written twice. -/
def doubled (c : Char) : List Char := if c = '\x7b' ∨ c = '\x7d' then [c, c] else [c]

namespace Part

def source : Part → List Char
  | literal text => text.toList.flatMap doubled
  | site key => '\x7b' :: (key.text.toList ++ ['\x7d'])

def pieces : Part → List Piece
  | literal text => text.toList.map Piece.char
  | site key => [.site key.text.toList]

def key? : Part → Option String
  | literal _ => none
  | site key => some key.text

def command (token : String → String) : Part → List Char
  | literal text => text.toList
  | site key => (token key.text).toList

end Part

abbrev Draft : Type := List Part

namespace Draft

/-- The template of the draft. -/
def source (draft : Draft) : List Char := draft.flatMap Part.source

/-- The names of the sites, in order. -/
def keys (draft : Draft) : List String := draft.filterMap Part.key?

/-- The command of the draft, with `token` giving what stands at the sites of a name. -/
def command (token : String → String) (draft : Draft) : List Char :=
  draft.flatMap (Part.command token)

end Draft

/-! ### Scanning -/

theorem scan_doubled (c : Char) (rest : List Char) :
    scan (doubled c ++ rest) = .char c :: scan rest := by
  unfold doubled scan
  by_cases hopen : c = '\x7b'
  · simp [hopen, scanFrom]
  · by_cases hclose : c = '\x7d'
    · simp [hclose, scanFrom]
    · simp [hopen, hclose, scanFrom]

theorem scanFrom_site {body : List Char} (h : ∀ c ∈ body, c ≠ '\x7b' ∧ c ≠ '\x7d')
    (before rest : List Char) : scanFrom (some before) false (body ++ '\x7d' :: rest) =
      .site (before ++ body) :: scan rest := by
  -- `before` is what has been read of the body
  induction body generalizing before with
  | nil => simp [scanFrom, scan]
  | cons c body ih =>
    rw [List.forall_mem_cons] at h
    obtain ⟨⟨hopen, hclose⟩, hbody⟩ := h
    have hstep : scanFrom (some before) false (c :: body ++ '\x7d' :: rest) =
        scanFrom (some (before ++ [c])) false (body ++ '\x7d' :: rest) := by
      simp [scanFrom, hopen, hclose]
    rw [hstep, ih hbody, List.append_assoc, List.singleton_append]

theorem scan_part (part : Part) (rest : List Char) :
    scan (part.source ++ rest) = part.pieces ++ scan rest := by
  cases part with
  | literal text =>
    rw [Part.source, Part.pieces]
    induction text.toList with
    | nil => rfl
    | cons c text ih =>
      rw [List.flatMap_cons, List.append_assoc, scan_doubled, ih, List.map_cons, List.cons_append]
  | site key =>
    have hbody : ∀ c ∈ key.text.toList, c ≠ '\x7b' ∧ c ≠ '\x7d' := fun c hc =>
      ⟨(key.plain c hc).1, (key.plain c hc).2.1⟩
    have hopen : scan (Part.source (.site key) ++ rest) =
        scanFrom (some []) false (key.text.toList ++ '\x7d' :: rest) := by
      simp [Part.source, scan, scanFrom]
    rw [hopen, scanFrom_site hbody]
    rfl

theorem scan_source (draft : Draft) : scan draft.source = draft.flatMap Part.pieces := by
  induction draft with
  | nil => rfl
  | cons part draft ih =>
    rw [Draft.source, List.flatMap_cons, scan_part, List.flatMap_cons, ← ih, Draft.source]

variable {draft : Draft}

theorem mem_keys {name : String} : name ∈ draft.keys ↔ ∃ key, .site key ∈ draft ∧ key.text = name := by
  rw [Draft.keys, List.mem_filterMap]
  constructor
  · rintro ⟨part, hmem, hkey⟩
    cases part with
    | literal text => cases hkey
    | site key => exact ⟨key, hmem, Option.some.inj hkey⟩
  · rintro ⟨key, hmem, rfl⟩
    exact ⟨.site key, hmem, rfl⟩

theorem site_mem_scan_source {body : List Char} :
    Piece.site body ∈ scan draft.source ↔ ∃ key, .site key ∈ draft ∧ body = key.text.toList := by
  rw [scan_source, List.mem_flatMap]
  constructor
  · rintro ⟨part, hmem, hbody⟩
    cases part with
    | literal text => simp [Part.pieces] at hbody
    | site key => exact ⟨key, hmem, by simpa [Part.pieces] using hbody⟩
  · rintro ⟨key, hmem, rfl⟩
    exact ⟨.site key, hmem, by simp [Part.pieces]⟩

/-! ### Filling -/

theorem read_key (key : Key) : Field.read key.text.toList = .ok { key := key.text } := by
  have hne : key.text.toList ≠ [] := String.toList_eq_nil_iff.not.mpr key.nonempty
  rw [Field.read_plain hne fun hcolon => (key.plain _ hcolon).2.2 rfl, String.ofList_toList]

variable {named : String → Option String} {token : String → String}

theorem fill_part (part : Part) (h : ∀ key, part = .site key → named key.text = some (token key.text)) :
    fill named part.pieces = .ok (part.command token) := by
  cases part with
  | literal text =>
    rw [Part.pieces, Part.command]
    induction text.toList with
    | nil => rfl
    | cons c text ih => exact fill_cons_eq_ok.mpr ⟨[c], text, rfl, ih, rfl⟩
  | site key =>
    have hfilled : (Piece.site key.text.toList).filled named = .ok (token key.text).toList :=
      filled_site.mpr ⟨_, token key.text, read_key key, h key rfl, Field.place_plain _ _⟩
    exact fill_cons_eq_ok.mpr ⟨_, [], hfilled, rfl, List.append_nil _⟩

theorem fill_source (h : ∀ name ∈ draft.keys, named name = some (token name)) :
    fill named (scan draft.source) = .ok (draft.command token) := by
  replace h : ∀ key, Part.site key ∈ draft → named key.text = some (token key.text) :=
    fun key hkey => h _ (mem_keys.mpr ⟨key, hkey, rfl⟩)
  rw [scan_source]
  induction draft with
  | nil => rfl
  | cons part draft ih =>
    have hfirst := fill_part part fun key hkey => h key (hkey ▸ List.mem_cons_self)
    have hrest := ih fun key hkey => h key (List.mem_cons_of_mem _ hkey)
    exact fill_append hfirst hrest

theorem exists_siteKeys {pieces : List Piece} {out : List Char} (h : fill named pieces = .ok out) :
    ∃ keys, siteKeys pieces = .ok keys := by
  induction pieces generalizing out with
  | nil => exact ⟨[], rfl⟩
  | cons piece pieces ih =>
    obtain ⟨part, rest, hpart, hrest, -⟩ := fill_cons_eq_ok.mp h
    obtain ⟨keys, hkeys⟩ := ih hrest
    cases piece with
    | char c => exact ⟨keys, hkeys⟩
    | misplaced fault => cases hpart
    | site body =>
      obtain ⟨field, text, hread, -⟩ := filled_site.mp hpart
      exact ⟨field.key :: keys, by rw [siteKeys, hread, hkeys]; rfl⟩

/-- A draft is a template unless it is blank. -/
theorem exists_parse_source :
    (∃ t, parse (String.ofList draft.source) = .ok t) ↔ Text.trim draft.source ≠ [] := by
  constructor
  · rintro ⟨t, ht⟩
    have hblank := (parse_eq_ok.mp ht).1
    rwa [String.toList_ofList] at hblank
  · intro hblank
    -- the check with `0` fills the template like any other tokens do
    have hzero : fill (fun _ => some "0") (scan draft.source) = .ok (draft.command fun _ => "0") :=
      fill_source fun _ _ => rfl
    obtain ⟨keys, hkeys⟩ := exists_siteKeys hzero
    let t : Template := ⟨String.ofList draft.source,
      (Keyed.ofList (keys.map fun k => (k, ()))).keys⟩
    refine ⟨t, parse_eq_ok.mpr ?_⟩
    rw [String.toList_ofList]
    exact ⟨hblank, rfl, ⟨keys, hkeys, rfl⟩, _, hzero⟩

variable {t : Template} (ht : parse (String.ofList draft.source) = .ok t)
include ht

theorem mem_keys_source {name : String} : name ∈ t.keys ↔ name ∈ draft.keys := by
  rw [mem_keys_of_parse ht, mem_keys, String.toList_ofList]
  constructor
  · rintro ⟨body, field, hbody, hread, rfl⟩
    obtain ⟨key, hkey, rfl⟩ := site_mem_scan_source.mp hbody
    rw [read_key, Except.ok.injEq] at hread
    exact ⟨key, hkey, hread ▸ rfl⟩
  · rintro ⟨key, hkey, rfl⟩
    exact ⟨_, _, site_mem_scan_source.mpr ⟨key, hkey, rfl⟩, read_key key, rfl⟩

theorem render_source (h : ∀ name ∈ draft.keys, named name = some (token name)) :
    t.render named = .ok (String.ofList (draft.command token)) := by
  rw [render_eq_ok, source_of_parse ht, String.toList_ofList, String.toList_ofList]
  exact fill_source h

end InstrumentControl.Template
