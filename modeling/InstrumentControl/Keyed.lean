/-! Tables with text keys, kept in the order of their keys.  A key occurs at most once: inserting an
entry replaces the entry of the same key. -/

namespace InstrumentControl

/-- Entries in strictly increasing order of their keys, compared by code points. -/
abbrev Keyed (α : Type) := List (String × α)

namespace Keyed

variable {α : Type}

def insert (key : String) (a : α) : Keyed α → Keyed α
  | [] => [(key, a)]
  | (k, b) :: rest =>
    if key = k then (key, a) :: rest
    else if key < k then (key, a) :: (k, b) :: rest
    else (k, b) :: insert key a rest

def get? (key : String) : Keyed α → Option α
  | [] => none
  | (k, a) :: rest => if key = k then some a else get? key rest

def erase (key : String) : Keyed α → Keyed α
  | [] => []
  | (k, a) :: rest => if key = k then rest else (k, a) :: erase key rest

/-- The entries of a list, later ones replacing earlier ones of the same key. -/
def ofList (entries : List (String × α)) : Keyed α :=
  entries.foldl (fun table entry => insert entry.1 entry.2 table) []

def keys (t : Keyed α) : List String := t.map Prod.fst

def contains (key : String) (t : Keyed α) : Bool := (get? key t).isSome

@[simp] theorem get?_insert_self (key : String) (a : α) (t : Keyed α) :
    get? key (insert key a t) = some a := by
  induction t with
  | nil => simp [insert, get?]
  | cons entry rest ih =>
    obtain ⟨k, b⟩ := entry
    by_cases h : key = k
    · simp [insert, get?, h]
    · by_cases hlt : key < k <;> simp [insert, get?, h, hlt, ih]

theorem get?_insert_ne {key other : String} (h : other ≠ key) (a : α) (t : Keyed α) :
    get? other (insert key a t) = get? other t := by
  induction t with
  | nil => simp [insert, get?, h]
  | cons entry rest ih =>
    obtain ⟨k, b⟩ := entry
    by_cases hk : key = k
    · subst hk
      simp [insert, get?, h]
    · by_cases hlt : key < k <;> simp [insert, get?, h, hk, hlt, ih]

theorem mem_keys_insert {key other : String} {a : α} {t : Keyed α} :
    other ∈ keys (insert key a t) ↔ other = key ∨ other ∈ keys t := by
  induction t with
  | nil => simp [insert, keys]
  | cons entry rest ih =>
    obtain ⟨k, b⟩ := entry
    by_cases hk : key = k
    · simp [insert, keys, hk]
    · by_cases hlt : key < k
      · simp [insert, keys, hk, hlt]
      · simp only [insert, hk, hlt, if_false, keys, List.map_cons, List.mem_cons] at ih ⊢
        rw [ih]
        exact or_left_comm

theorem mem_keys_foldl_insert {key : String} {entries : List (String × α)} {t : Keyed α} :
    key ∈ keys (entries.foldl (fun table entry => insert entry.1 entry.2 table) t) ↔
      key ∈ keys t ∨ key ∈ entries.map Prod.fst := by
  induction entries generalizing t with
  | nil => simp
  | cons entry entries ih =>
    rw [List.foldl_cons, ih, mem_keys_insert, List.map_cons, List.mem_cons, or_assoc,
      or_left_comm]

/-- The keys of a table are those of the entries that it was made of. -/
theorem mem_keys_ofList {key : String} {entries : List (String × α)} :
    key ∈ keys (ofList entries) ↔ key ∈ entries.map Prod.fst := by
  rw [ofList, mem_keys_foldl_insert]
  simp [keys]

end Keyed

end InstrumentControl
