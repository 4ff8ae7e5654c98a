import InstrumentControl.Template.Basic
import Mathlib.Data.List.Forall2
import Mathlib.Data.List.Infix

/-! What filled templates look like.  A template is filled piece by piece: `Piece.filled` says what
becomes of one piece, and `fill` puts the results together or fails with the first fault.  The keys
of a template are those of its sites.  The text before the first site stands at the beginning of
every command, whatever the tokens are. -/

namespace InstrumentControl.Template

/-- What stands for the piece when `token` gives what stands for a key. -/
def Piece.filled (token : String → Option String) : Piece → Except Fault (List Char)
  | .char c => .ok [c]
  | .misplaced fault => .error fault
  | .site body => do
    let field ← Field.read body
    match token field.key with
    | none => throw (.unknownKey field.key)
    | some text => field.place text.toList

variable {token : String → Option String} {piece : Piece} {pieces pieces' : List Piece}

theorem filled_site {body part : List Char} : (Piece.site body).filled token = .ok part ↔
    ∃ field text, Field.read body = .ok field ∧ token field.key = some text ∧
      field.place text.toList = .ok part := by
  cases hread : Field.read body with
  | error fault => simp [Piece.filled, hread, bind, Except.bind]
  | ok field =>
    cases htoken : token field.key with
    | none => simp [Piece.filled, hread, htoken, bind, Except.bind, throw, throwThe,
        MonadExceptOf.throw]
    | some text => simp [Piece.filled, hread, htoken, bind, Except.bind]

theorem fill_cons : fill token (piece :: pieces) =
    do return (← piece.filled token) ++ (← fill token pieces) := by
  cases piece with
  | char c => rfl
  | misplaced fault => rfl
  | site body =>
    rw [fill, Piece.filled]
    cases Field.read body with
    | error fault => rfl
    | ok field => cases htoken : token field.key <;> simp [htoken, bind, Except.bind]; rfl

theorem fill_cons_eq_ok {out : List Char} : fill token (piece :: pieces) = .ok out ↔
    ∃ part rest, piece.filled token = .ok part ∧ fill token pieces = .ok rest ∧
      part ++ rest = out := by
  rw [fill_cons]
  cases piece.filled token <;> cases fill token pieces <;> simp [bind, Except.bind, pure, Except.pure]

/-- A filled template is what becomes of its pieces, one after the other. -/
theorem fill_eq_ok {out : List Char} : fill token pieces = .ok out ↔
    ∃ parts, List.Forall₂ (fun piece part => piece.filled token = .ok part) pieces parts ∧
      parts.flatten = out := by
  induction pieces generalizing out with
  | nil => simp [fill]
  | cons piece pieces ih =>
    rw [fill_cons_eq_ok]
    constructor
    · rintro ⟨part, rest, hpart, hrest, rfl⟩
      obtain ⟨parts, hparts, rfl⟩ := ih.mp hrest
      exact ⟨part :: parts, .cons hpart hparts, rfl⟩
    · rintro ⟨_, _ | ⟨hpart, hparts⟩, rfl⟩
      exact ⟨_, _, hpart, ih.mpr ⟨_, hparts, rfl⟩, rfl⟩

/-- A template can be filled if each of its pieces can. -/
theorem exists_fill : (∃ out, fill token pieces = .ok out) ↔
    ∀ piece ∈ pieces, ∃ part, piece.filled token = .ok part := by
  induction pieces with
  | nil => simp [fill]
  | cons piece pieces ih =>
    rw [List.forall_mem_cons, ← ih]
    constructor
    · rintro ⟨out, hout⟩
      obtain ⟨part, rest, hpart, hrest, -⟩ := fill_cons_eq_ok.mp hout
      exact ⟨⟨part, hpart⟩, rest, hrest⟩
    · rintro ⟨⟨part, hpart⟩, rest, hrest⟩
      exact ⟨part ++ rest, fill_cons_eq_ok.mpr ⟨part, rest, hpart, hrest, rfl⟩⟩

theorem fill_append {out out' : List Char} (h : fill token pieces = .ok out)
    (h' : fill token pieces' = .ok out') : fill token (pieces ++ pieces') = .ok (out ++ out') := by
  obtain ⟨parts, hparts, rfl⟩ := fill_eq_ok.mp h
  obtain ⟨parts', hparts', rfl⟩ := fill_eq_ok.mp h'
  exact fill_eq_ok.mpr ⟨parts ++ parts', List.rel_append hparts hparts', List.flatten_append⟩

theorem render_eq_ok {t : Template} {command : String} :
    t.render token = .ok command ↔ fill token (scan t.source.toList) = .ok command.toList := by
  rw [render]
  cases fill token (scan t.source.toList) with
  | error fault => simp [Except.map]
  | ok out => simp [Except.map, ← String.toList_inj]

/-! ### Parsing -/

theorem mem_siteKeys {keys : List String} (h : siteKeys pieces = .ok keys) {key : String} :
    key ∈ keys ↔ ∃ body field, Piece.site body ∈ pieces ∧ Field.read body = .ok field ∧
      field.key = key := by
  induction pieces generalizing keys with
  | nil =>
    cases h
    simp
  | cons piece pieces ih =>
    cases piece with
    | char c => simpa using ih h
    | misplaced fault => cases h
    | site body =>
      rw [siteKeys] at h
      cases hread : Field.read body with
      | error fault =>
        rw [hread] at h
        cases h
      | ok field =>
        cases hrest : siteKeys pieces with
        | error fault =>
          rw [hread, hrest] at h
          cases h
        | ok rest =>
          rw [hread, hrest] at h
          cases h
          rw [List.mem_cons, ih hrest]
          constructor
          · rintro (rfl | ⟨body', field', hmem, hfield⟩)
            · exact ⟨body, field, List.mem_cons_self, hread, rfl⟩
            · exact ⟨body', field', List.mem_cons_of_mem _ hmem, hfield⟩
          · rintro ⟨body', field', hmem, hread', rfl⟩
            rcases List.mem_cons.mp hmem with heq | hmem
            · cases heq
              rw [hread, Except.ok.injEq] at hread'
              exact .inl (hread' ▸ rfl)
            · exact .inr ⟨body', field', hmem, hread', rfl⟩

/-- A template is a text that is not blank, whose sites are read, and that can be filled with `0`
everywhere. -/
theorem parse_eq_ok {source : String} {t : Template} : parse source = .ok t ↔
    Text.trim source.toList ≠ [] ∧ t.source = source ∧
      (∃ keys, siteKeys (scan source.toList) = .ok keys ∧
        t.keys = (Keyed.ofList (keys.map fun k => (k, ()))).keys) ∧
      ∃ out, fill (fun _ => some "0") (scan source.toList) = .ok out := by
  unfold parse
  by_cases hblank : Text.trim source.toList = []
  · simp [hblank]
  rw [if_neg (by simpa using hblank)]
  cases hkeys : siteKeys (scan source.toList) with
  | error fault => simp
  | ok keys =>
    cases hfill : fill (fun _ => some "0") (scan source.toList) with
    | error fault => simp [render, hfill, Except.map]
    | ok out =>
      obtain ⟨source', keys'⟩ := t
      simp [render, hfill, hblank, Except.map, eq_comm]

theorem source_of_parse {source : String} {t : Template} (h : parse source = .ok t) :
    t.source = source := (parse_eq_ok.mp h).2.1

theorem mem_keys_of_parse {source : String} {t : Template} (h : parse source = .ok t)
    {key : String} : key ∈ t.keys ↔ ∃ body field, Piece.site body ∈ scan source.toList ∧
      Field.read body = .ok field ∧ field.key = key := by
  obtain ⟨-, -, ⟨keys, hkeys, hsorted⟩, -⟩ := parse_eq_ok.mp h
  rw [← mem_siteKeys hkeys, hsorted, Keyed.mem_keys_ofList, List.map_map]
  simp

/-! ### Arguments -/

theorem argumentKey_injective {i j : Nat} (h : argumentKey i = argumentKey j) : i = j := by
  have hdigits : Nat.toDigits 10 i = Nat.toDigits 10 j := String.ofList_injective h
  calc i = Nat.ofDigitChars 10 (Nat.toDigits 10 i) 0 := Nat.ofDigitChars_ten_toDigits.symm
    _ = Nat.ofDigitChars 10 (Nat.toDigits 10 j) 0 := by rw [hdigits]
    _ = j := Nat.ofDigitChars_ten_toDigits

theorem find?_zipIdx_argumentKey (tokens : List String) (start i : Nat) :
    ((tokens.zipIdx start).find? fun p => argumentKey p.2 = argumentKey (start + i)).map Prod.fst =
      tokens[i]? := by
  induction tokens generalizing start i with
  | nil => rfl
  | cons token tokens ih =>
    rw [List.zipIdx_cons]
    cases i with
    | zero => simp
    | succ i =>
      -- the key of the first place is that of no later one, so the search goes on
      have hne : argumentKey start ≠ argumentKey (start + (i + 1)) := by
        intro h
        have := argumentKey_injective h
        omega
      rw [List.find?_cons_of_neg (by simpa using hne), List.getElem?_cons_succ, ← ih (start + 1) i,
        Nat.add_right_comm, Nat.add_assoc]

theorem argumentToken_eq (tokens : List String) (i : Nat) :
    ((tokens.zipIdx).find? fun p => argumentKey p.2 = argumentKey i).map Prod.fst = tokens[i]? := by
  simpa using find?_zipIdx_argumentKey tokens 0 i

/-! ### The text before the first site -/

/-- The characters before the first site. -/
def lead : List Piece → List Char
  | .char c :: pieces => c :: lead pieces
  | _ => []

theorem lead_prefix_of_fill {token : String → Option String} {pieces : List Piece}
    {out : List Char} (h : fill token pieces = .ok out) : lead pieces <+: out := by
  induction pieces generalizing out with
  | nil => exact List.nil_prefix
  | cons piece pieces ih =>
    cases piece with
    | char c =>
      cases hrest : fill token pieces with
      | error fault =>
        rw [fill, hrest] at h
        cases h
      | ok rest =>
        rw [fill, hrest] at h
        cases h
        exact List.cons_prefix_cons.mpr ⟨rfl, ih hrest⟩
    | site body => exact List.nil_prefix
    | misplaced fault => exact List.nil_prefix

theorem lead_prefix_of_renderValue {t : Template} {token command : String}
    (h : t.renderValue token = .ok command) : lead (scan t.source.toList) <+: command.toList :=
  lead_prefix_of_fill (render_eq_ok.mp h)

end InstrumentControl.Template
