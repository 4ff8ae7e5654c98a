import InstrumentControl.Mapping
import InstrumentControl.Proofs.Text.Blank
import Mathlib.Data.List.Nodup

/-! Mappings in both directions.  A value is written as the token of the first pair that agrees with
it.  A response is read as the value of the first pair with its token, and if no token occurs twice
there is no other such pair: then what was written is read as the value of that very pair.  If the
keys are told apart, what was read is written as the token that it was read from. -/

namespace InstrumentControl.Mapping

open Text

variable {m : Mapping} {value key : Value} {token response : String}

theorem toWire_eq_some : m.toWire value = some token ↔ ∃ before key after,
    m.pairs = before ++ (key, token) :: after ∧ key.agrees value = true ∧
      ∀ pair ∈ before, pair.1.agrees value = false := by
  simp only [toWire, Option.map_eq_some_iff, List.find?_eq_some_iff_append, Prod.exists,
    exists_eq_right, Bool.not_eq_true']
  constructor
  · rintro ⟨key, hkey, before, after, hpairs, hfirst⟩
    exact ⟨before, key, after, hpairs, hkey, hfirst⟩
  · rintro ⟨before, key, after, hpairs, hkey, hfirst⟩
    exact ⟨key, hkey, before, after, hpairs, hfirst⟩

theorem toWire_eq_none :
    m.toWire value = none ↔ ∀ pair ∈ m.pairs, pair.1.agrees value = false := by
  simp [toWire, List.find?_eq_none]

theorem fromWire_eq_none : m.fromWire response = none ↔ strip response ∉ m.tokens := by
  rw [fromWire, Option.map_eq_none_iff, List.find?_eq_none, tokens, List.mem_map]
  simp only [beq_iff_eq, not_exists, not_and]

/-- What a response is read as stands in the table with that response. -/
theorem mem_of_fromWire (h : m.fromWire response = some key) : (key, strip response) ∈ m.pairs := by
  obtain ⟨⟨key, token⟩, hfound, rfl⟩ := Option.map_eq_some_iff.mp h
  obtain rfl : token = strip response := by simpa using List.find?_some hfound
  exact List.mem_of_find?_eq_some hfound

/-- The value with a token is found by it if no token occurs twice. -/
theorem fromWire_eq_some (hdistinct : m.tokens.Nodup) :
    m.fromWire response = some key ↔ (key, strip response) ∈ m.pairs := by
  refine ⟨mem_of_fromWire, fun hmem => ?_⟩
  cases hread : m.fromWire response with
  | none => exact absurd (List.mem_map_of_mem hmem) (fromWire_eq_none.mp hread)
  | some key' =>
    obtain ⟨⟨key', token⟩, hfound, rfl⟩ := Option.map_eq_some_iff.mp hread
    have htoken : token = strip response := by simpa using List.find?_some hfound
    have hpair := List.inj_on_of_nodup_map hdistinct (List.mem_of_find?_eq_some hfound) hmem htoken
    rw [hpair]

/-- What is written for a value is the token of the first key that agrees with it. -/
theorem exists_key_of_toWire (h : m.toWire value = some token) : ∃ key,
    m.values.find? (·.agrees value) = some key ∧ key.agrees value = true ∧
      (key, token) ∈ m.pairs := by
  obtain ⟨⟨key, token⟩, hfound, rfl⟩ := Option.map_eq_some_iff.mp h
  refine ⟨key, ?_, by simpa using List.find?_some hfound, List.mem_of_find?_eq_some hfound⟩
  rw [values, List.find?_map]
  exact congrArg (Option.map Prod.fst) hfound

/-- The tokens are told apart, and from the blanks around them. -/
structure Legible (m : Mapping) : Prop where
  distinct : m.tokens.Nodup
  trimmed : ∀ token ∈ m.tokens, strip token = token

/-- A token of the table is read as its value, in blanks or not. -/
theorem Legible.fromWire_padded (hm : m.Legible) (hpair : (key, token) ∈ m.pairs)
    {left right : List Char} (hleft : Blank left) (hright : Blank right) :
    m.fromWire (String.ofList (left ++ token.toList ++ right)) = some key := by
  have hstrip : strip (String.ofList (left ++ token.toList ++ right)) = token := by
    rw [strip, String.toList_ofList, trim_append_right hright, trim_append_left hleft]
    exact hm.trimmed token (List.mem_map_of_mem hpair)
  exact (fromWire_eq_some hm.distinct).mpr (hstrip.symm ▸ hpair)

/-- The keys are told apart: each agrees with itself, and with no key before it.  Tokens may
repeat. -/
structure Separated (m : Mapping) : Prop where
  itself : ∀ key ∈ m.values, key.agrees key = true
  apart : m.values.Pairwise fun earlier later => earlier.agrees later = false

/-- A key of the table is written as its own token. -/
theorem Separated.toWire_of_mem (hm : m.Separated) (hpair : (key, token) ∈ m.pairs) :
    m.toWire key = some token := by
  obtain ⟨before, after, hpairs⟩ := List.append_of_mem hpair
  refine toWire_eq_some.mpr ⟨before, key, after, hpairs, ?_, fun pair hbefore => ?_⟩
  · exact hm.itself key (List.mem_map_of_mem hpair)
  · have hapart := hm.apart
    rw [values, List.pairwise_map, hpairs] at hapart
    exact (List.pairwise_append.mp hapart).2.2 pair hbefore _ List.mem_cons_self

end InstrumentControl.Mapping
