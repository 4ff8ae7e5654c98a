import InstrumentControl.Proofs.Json.Real
import InstrumentControl.Proofs.Json.String
import Mathlib.Data.List.DropRight

/-! Reading what was written.  Every JSON text that `compact` writes is read back; `reread` says as
what.  Numbers without a sign become integers and characters texts.  What is not finite comes back
as nothing, a real otherwise as the double that the reader makes of its shortest digits, and
everything else as it was. -/

namespace InstrumentControl.Json

open Decimal

mutual

/-- What is read where the data was written. -/
def reread : Data → Data
  | .null | .unreadable => .null
  | .bool b => .bool b
  | .int i => number (i < 0) (Nat.toDigits 10 i.natAbs) none none
  | .unsigned n => number false (Nat.toDigits 10 n) none none
  | .real x => rereadReal x
  | .text s => .text s
  | .char c => .text (String.singleton c)
  | .list items => .list (rereadItems items)
  | .table entries => .table (rereadEntries entries)

def rereadItems : List Data → List Data
  | [] => []
  | d :: ds => reread d :: rereadItems ds

def rereadEntries : List (String × Data) → List (String × Data)
  | [] => []
  | (key, d) :: rest => (key, reread d) :: rereadEntries rest

end

/-! ### The pieces of a text -/

variable {fuel : Nat} {s s' rest : List Char} {d : Data} {ds : List Data}

@[simp] theorem skipBlanks_skipBlanks (s : List Char) : skipBlanks (skipBlanks s) = skipBlanks s := by
  rw [skipBlanks, skipBlanks, List.dropWhile_idempotent]

theorem readValue_skipBlanks (fuel : Nat) (s : List Char) :
    readValue fuel (skipBlanks s) = readValue fuel s := by
  cases fuel with
  | zero => rfl
  | succ fuel => rw [readValue, readValue, skipBlanks_skipBlanks]

theorem readItems_skipBlanks (fuel : Nat) (s : List Char) :
    readItems fuel (skipBlanks s) = readItems fuel s := by
  cases fuel with
  | zero => rfl
  | succ fuel => rw [readItems, readItems, readValue_skipBlanks]

theorem readEntries_skipBlanks (fuel : Nat) (s : List Char) :
    readEntries fuel (skipBlanks s) = readEntries fuel s := by
  cases fuel with
  | zero => rfl
  | succ fuel => rw [readEntries, readEntries, skipBlanks_skipBlanks]

/-- A number begins with a minus sign or a digit. -/
theorem exists_of_readNumber {p : Data × List Char} (h : readNumber s = some p) :
    ∃ c t, s = c :: t ∧ (c = '-' ∨ c.isDigit = true) := by
  cases s with
  | nil => cases h
  | cons c t =>
    refine ⟨c, t, rfl, ?_⟩
    by_contra hc
    obtain ⟨hsign, hdigit⟩ := not_or.mp hc
    have hminus : takeMinus (c :: t) = (false, c :: t) := by
      rw [takeMinus]
      rintro _ ⟨⟩
      exact hsign rfl
    have hdigits : takeDigits (c :: t) = ([], c :: t) := by
      simp [takeDigits, hdigit]
    rw [readNumber, hminus] at h
    simp [hdigits] at h

theorem isBlank_of_isDigit {c : Char} (hc : c.isDigit = true) : isBlank c = false := by
  obtain ⟨hlow, -⟩ := Char.isDigit_iff_toNat.mp hc
  simp only [isBlank, Bool.or_eq_false_iff, decide_eq_false_iff_not]
  refine ⟨⟨⟨?_, ?_⟩, ?_⟩, ?_⟩ <;>
    · rintro rfl
      exact absurd hlow (by decide)

theorem skipBlanks_cons {c : Char} (hc : isBlank c = false) : skipBlanks (c :: s) = c :: s :=
  List.dropWhile_cons_of_neg (by simp [hc])

theorem readValue_of_readNumber {p : Data × List Char} (h : readNumber s = some p) :
    readValue (fuel + 1) s = some p := by
  obtain ⟨c, t, rfl, rfl | hdigit⟩ := exists_of_readNumber h
  · exact h
  · rw [← h, readValue, skipBlanks_cons (isBlank_of_isDigit hdigit)]
    split
    case h_1 h => cases h
    case h_8 => rfl
    all_goals
      next h =>
        cases h
        exact absurd hdigit (by decide)

theorem readValue_string (text : String) (fuel : Nat) (rest : List Char) :
    readValue (fuel + 1) ((string text).toList ++ rest) = some (.text text, rest) := by
  have htext : (string text).toList ++ rest = '"' :: (text.toList.flatMap escaped ++ '"' :: rest) := by
    simp [string]
  rw [htext, readValue, skipBlanks_cons (by decide)]
  simp only [readString_string]
  rfl

/-- No value begins with the end of a list. -/
theorem skipBlanks_ne_of_readValue {p : Data × List Char} (h : readValue fuel s = some p)
    (t : List Char) : skipBlanks s ≠ ']' :: t := by
  intro hs
  cases fuel with
  | zero => cases h
  | succ fuel =>
    rw [readValue, hs] at h
    cases h

theorem readValue_bracket (fuel : Nat) (s : List Char) : readValue (fuel + 1) ('[' :: s) =
    match skipBlanks s with
    | ']' :: s => some (.list [], s)
    | s => (readItems fuel s).map fun p => (.list p.1, p.2) := rfl

theorem readValue_of_readItems (h : readItems fuel s = some (ds, rest)) :
    readValue (fuel + 1) ('[' :: s) = some (.list ds, rest) := by
  have hnonempty : ∀ t, skipBlanks s ≠ ']' :: t := by
    cases fuel with
    | zero => cases h
    | succ fuel =>
      cases hvalue : readValue fuel s with
      | none => simp [readItems, hvalue] at h
      | some p => exact skipBlanks_ne_of_readValue hvalue
  rw [readValue_bracket]
  split
  · next t ht => exact absurd ht (hnonempty t)
  · rw [readItems_skipBlanks, h]
    rfl

theorem readItems_last (h : readValue fuel s = some (d, ']' :: rest)) :
    readItems (fuel + 1) s = some ([d], rest) := by
  rw [readItems, h]
  rfl

theorem readItems_cons (hd : readValue fuel s = some (d, ',' :: s'))
    (hds : readItems fuel s' = some (ds, rest)) :
    readItems (fuel + 1) s = some (d :: ds, rest) := by
  have hcomma : skipBlanks (',' :: s') = ',' :: s' := skipBlanks_cons (by decide)
  simp [readItems, hd, hds, hcomma]

section

variable {key : String} {entries : List (Option String × Data)}

theorem readString_key (key : String) (s : List Char) :
    skipBlanks ((string key).toList ++ s) =
      '"' :: (key.toList.flatMap escaped ++ '"' :: s) := by
  simp [string]
  exact skipBlanks_cons (by decide)

theorem readValue_brace (fuel : Nat) (s : List Char) : readValue (fuel + 1) ('\x7b' :: s) =
    match skipBlanks s with
    | '\x7d' :: s => some (.table [], s)
    | s => (readEntries fuel s).map fun p => (tableOf p.1, p.2) := rfl

theorem readValue_of_readEntries (h : readEntries fuel s = some (entries, rest)) :
    readValue (fuel + 1) ('\x7b' :: s) = some (tableOf entries, rest) := by
  have hnonempty : ∀ t, skipBlanks s ≠ '\x7d' :: t := by
    intro t ht
    cases fuel with
    | zero => cases h
    | succ fuel =>
      rw [readEntries, ht] at h
      cases h
  rw [readValue_brace]
  split
  · next t ht => exact absurd ht (hnonempty t)
  · rw [readEntries_skipBlanks, h]
    rfl

theorem readEntries_last (h : readValue fuel s = some (d, '\x7d' :: rest)) :
    readEntries (fuel + 1) ((string key).toList ++ ':' :: s) = some ([(some key, d)], rest) := by
  have hbrace : skipBlanks ('\x7d' :: rest) = '\x7d' :: rest := skipBlanks_cons (by decide)
  have hcolon : skipBlanks (':' :: s) = ':' :: s := skipBlanks_cons (by decide)
  rw [readEntries, readString_key]
  simp [readString_string, hcolon, h, hbrace]

theorem readEntries_cons (hd : readValue fuel s = some (d, ',' :: s'))
    (hentries : readEntries fuel s' = some (entries, rest)) :
    readEntries (fuel + 1) ((string key).toList ++ ':' :: s) =
      some ((some key, d) :: entries, rest) := by
  have hcomma : skipBlanks (',' :: s') = ',' :: s' := skipBlanks_cons (by decide)
  have hcolon : skipBlanks (':' :: s) = ':' :: s := skipBlanks_cons (by decide)
  rw [readEntries, readString_key]
  simp [readString_string, hcolon, hd, hcomma, hentries]

end

theorem tableOf_map (entries : List (String × Data)) :
    tableOf (entries.map fun entry => (some entry.1, entry.2)) = .table entries := by
  have hall : (entries.map fun entry => (some entry.1, entry.2)).mapM
      (fun entry : Option String × Data => entry.1.map fun key => (key, entry.2)) = some entries := by
    induction entries with
    | nil => rfl
    | cons entry entries ih => simp_all
  rw [tableOf, hall]

/-! ### Whole texts -/

/-- A value ends before it, and not only a part of the value. -/
def EndsValue (rest : List Char) : Prop := ∀ c ∈ rest.head?, c = ',' ∨ c = ']' ∨ c = '\x7d'

theorem EndsValue.endsNumber (h : EndsValue rest) : EndsNumber rest := by
  intro c hc
  rcases h c hc with rfl | rfl | rfl <;> decide

theorem toList_compactItems (d : Data) (ds : List Data) : (compactItems "," (d :: ds)).toList =
    ',' :: (compactItems "" (d :: ds)).toList := by
  simp [compactItems]

theorem toList_compactEntries (entry : String × Data) (entries : List (String × Data)) :
    (compactEntries "," (entry :: entries)).toList =
      ',' :: (compactEntries "" (entry :: entries)).toList := by
  simp [compactEntries]

theorem readNumber_unsigned (n : Nat) (hrest : EndsNumber rest) :
    readNumber ((intText n).toList ++ rest) =
      some (number false (Nat.toDigits 10 n) none none, rest) := by
  have hread := readNumber_intText n hrest
  rwa [Int.natAbs_natCast, decide_eq_false (by omega)] at hread

theorem readValue_real (x : Float) (hrest : EndsNumber rest) :
    readValue (fuel + 1) ((real x).toList ++ rest) = some (rereadReal x, rest) := by
  by_cases hx : isFinite x = true
  · exact readValue_of_readNumber (readNumber_real hx hrest)
  · rw [real, if_neg hx, rereadReal_of_not_finite (Bool.eq_false_of_not_eq_true hx)]
    rfl

/-- The text of the data is read back, with enough steps for its length. -/
def Reads (d : Data) : Prop :=
  0 < (compact d).toList.length ∧ ∀ fuel rest, 2 * (compact d).toList.length ≤ fuel →
    EndsValue rest → readValue fuel ((compact d).toList ++ rest) = some (reread d, rest)

def ReadsItems (items : List Data) : Prop :=
  ∀ fuel rest, 2 * (compactItems "" items).toList.length + 1 ≤ fuel →
    readItems fuel ((compactItems "" items).toList ++ ']' :: rest) =
      some (rereadItems items, rest)

def ReadsEntries (entries : List (String × Data)) : Prop :=
  ∀ fuel rest, 2 * (compactEntries "" entries).toList.length + 1 ≤ fuel →
    readEntries fuel ((compactEntries "" entries).toList ++ '\x7d' :: rest) =
      some ((rereadEntries entries).map fun entry => (some entry.1, entry.2), rest)

/-- What is read in one step is not written as the empty text. -/
theorem reads_of_step (h : ∀ fuel rest, EndsValue rest →
    readValue (fuel + 1) ((compact d).toList ++ rest) = some (reread d, rest)) : Reads d := by
  have hpos : 0 < (compact d).toList.length := by
    rw [List.length_pos_iff]
    intro hnil
    have hread := h 0 [] nofun
    rw [hnil] at hread
    cases hread
  refine ⟨hpos, fun fuel rest hfuel hrest => ?_⟩
  cases fuel with
  | zero => omega
  | succ fuel => exact h fuel rest hrest

theorem reads_list {items : List Data} (h : items ≠ [] → ReadsItems items) :
    Reads (.list items) := by
  have htext : (compact (.list items)).toList = '[' :: ((compactItems "" items).toList ++ [']']) := by
    simp [compact]
  refine ⟨by simp [htext], fun fuel rest hfuel hrest => ?_⟩
  rw [htext, List.length_cons, List.length_append] at hfuel
  obtain ⟨fuel, rfl⟩ : ∃ n, fuel = n + 1 := ⟨fuel - 1, by omega⟩
  cases items with
  | nil => rfl
  | cons d items =>
    have hread := h (by simp) fuel rest (by omega)
    rw [htext]
    simp only [List.cons_append, List.append_assoc, List.nil_append]
    exact readValue_of_readItems hread

theorem readsItems_cons {items : List Data} (hd : Reads d) (h : items ≠ [] → ReadsItems items) :
    ReadsItems (d :: items) := by
  intro fuel rest hfuel
  obtain ⟨fuel, rfl⟩ : ∃ n, fuel = n + 1 := ⟨fuel - 1, by omega⟩
  cases items with
  | nil =>
    have htext : (compactItems "" [d]).toList = (compact d).toList := by simp [compactItems]
    rw [htext] at hfuel ⊢
    exact readItems_last (hd.2 fuel _ (by omega) (by simp [EndsValue]))
  | cons d' items =>
    have htext : (compactItems "" (d :: d' :: items)).toList =
        (compact d).toList ++ ',' :: (compactItems "" (d' :: items)).toList := by
      rw [compactItems, String.toList_append, toList_compactItems]
      simp
    rw [htext, List.length_append, List.length_cons] at hfuel
    have hread := h (by simp) fuel rest (by omega)
    rw [htext, List.append_assoc]
    exact readItems_cons (hd.2 fuel _ (by omega) (by simp [EndsValue])) hread

theorem reads_table {entries : List (String × Data)} (h : entries ≠ [] → ReadsEntries entries) :
    Reads (.table entries) := by
  have htext : (compact (.table entries)).toList =
      '\x7b' :: ((compactEntries "" entries).toList ++ ['\x7d']) := by
    simp [compact]
  refine ⟨by simp [htext], fun fuel rest hfuel hrest => ?_⟩
  rw [htext, List.length_cons, List.length_append] at hfuel
  obtain ⟨fuel, rfl⟩ : ∃ n, fuel = n + 1 := ⟨fuel - 1, by omega⟩
  cases entries with
  | nil => rfl
  | cons entry entries =>
    have hread := h (by simp) fuel rest (by omega)
    rw [htext]
    simp only [List.cons_append, List.append_assoc, List.nil_append]
    rw [readValue_of_readEntries hread, tableOf_map, reread]

theorem readsEntries_cons {key : String} {entries : List (String × Data)} (hd : Reads d)
    (h : entries ≠ [] → ReadsEntries entries) : ReadsEntries ((key, d) :: entries) := by
  intro fuel rest hfuel
  obtain ⟨fuel, rfl⟩ : ∃ n, fuel = n + 1 := ⟨fuel - 1, by omega⟩
  cases entries with
  | nil =>
    have htext : (compactEntries "" [(key, d)]).toList =
        (string key).toList ++ ':' :: (compact d).toList := by
      simp [compactEntries]
    rw [htext, List.length_append, List.length_cons] at hfuel
    rw [htext, List.append_assoc, List.cons_append]
    exact readEntries_last (hd.2 fuel _ (by omega) (by simp [EndsValue]))
  | cons entry entries =>
    have htext : (compactEntries "" ((key, d) :: entry :: entries)).toList =
        (string key).toList ++ ':' :: ((compact d).toList ++ ',' ::
          (compactEntries "" (entry :: entries)).toList) := by
      rw [compactEntries, String.toList_append, toList_compactEntries]
      simp
    rw [htext, List.length_append, List.length_cons, List.length_append, List.length_cons] at hfuel
    have hread := h (by simp) fuel rest (by omega)
    rw [htext]
    simp only [List.cons_append, List.append_assoc]
    exact readEntries_cons (hd.2 fuel _ (by omega) (by simp [EndsValue])) hread

mutual

theorem reads_compact : ∀ d : Data, Reads d
  | .null => reads_of_step fun _ _ _ => rfl
  | .unreadable => reads_of_step fun _ _ _ => rfl
  | .bool true => reads_of_step fun _ _ _ => rfl
  | .bool false => reads_of_step fun _ _ _ => rfl
  | .int i => reads_of_step fun _ _ hrest =>
    readValue_of_readNumber (readNumber_intText i hrest.endsNumber)
  | .unsigned n => reads_of_step fun _ _ hrest =>
    readValue_of_readNumber (readNumber_unsigned n hrest.endsNumber)
  | .real x => reads_of_step fun _ _ hrest => readValue_real x hrest.endsNumber
  | .text s => reads_of_step fun fuel rest _ => readValue_string s fuel rest
  | .char _ => reads_of_step fun fuel rest _ => readValue_string _ fuel rest
  | .list items => reads_list (readsItems_compact items)
  | .table entries => reads_table (readsEntries_compact entries)

theorem readsItems_compact : ∀ items : List Data, items ≠ [] → ReadsItems items
  | [] => fun h => absurd rfl h
  | d :: items => fun _ => readsItems_cons (reads_compact d) (readsItems_compact items)

theorem readsEntries_compact : ∀ entries : List (String × Data), entries ≠ [] → ReadsEntries entries
  | [] => fun h => absurd rfl h
  | (_, d) :: entries => fun _ => readsEntries_cons (reads_compact d) (readsEntries_compact entries)

end

/-- A JSON text that was written is read back. -/
theorem read?_compact (d : Data) : read? (compact d) = some (reread d) := by
  have hread := (reads_compact d).2 (2 * (compact d).toList.length + 1) [] (by omega) nofun
  rw [List.append_nil] at hread
  simp only [read?, hread]
  rfl

end InstrumentControl.Json
