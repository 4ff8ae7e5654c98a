import InstrumentControl.Keyed

/-! Data as text formats hold it: scalars, lists and tables.  A table keeps the entries in the order
in which they stand in the text, and may hold a key more than once.  Some formats tell characters
from texts, and whole numbers without a sign from those that may have one.  `fields?` looks up the
members of a record, which may be written as a table or as a list in the order of the
declaration. -/

namespace InstrumentControl

inductive Data where
  | null
  | bool (b : Bool)
  | int (i : Int)
  /-- A number of a format that keeps numbers without a sign apart. -/
  | unsigned (n : Nat)
  | real (x : Float)
  | text (s : String)
  /-- One character, of a format that keeps them apart from texts. -/
  | char (c : Char)
  | list (items : List Data)
  | table (entries : List (String × Data))
  /-- Well formed, but without a value: a number out of range, or half a character. -/
  | unreadable
deriving Inhabited

namespace Data

def bool? : Data → Option Bool
  | bool b => some b
  | _ => none

def text? : Data → Option String
  | text s => some s
  | char c => some (String.singleton c)
  | _ => none

def int? : Data → Option Int
  | int i => some i
  | unsigned n => some n
  | _ => none

/-- A whole number from zero up to, and without, `bound`. -/
def natBelow? (bound : Nat) (d : Data) : Option Nat :=
  d.int?.bind fun i => if 0 ≤ i ∧ i < bound then some i.toNat else none

/-- The data where it may be absent. -/
def optional? {α : Type} (read : Data → Option α) : Data → Option (Option α)
  | null => some none
  | d => (read d).map some

def textTable? : Data → Option (Keyed String)
  | table entries =>
    (entries.mapM fun entry => (text? entry.2).map fun s => (entry.1, s)).map Keyed.ofList
  | _ => none

mutual

/-- The number of lists and tables nested in one another. -/
def depth : Data → Nat
  | list items => depthOfItems items + 1
  | table entries => depthOfEntries entries + 1
  | _ => 0

def depthOfItems : List Data → Nat
  | [] => 0
  | d :: ds => max (depth d) (depthOfItems ds)

def depthOfEntries : List (String × Data) → Nat
  | [] => 0
  | (_, d) :: rest => max (depth d) (depthOfEntries rest)

end

mutual

/-- Everything in it has a value. -/
def isReadable : Data → Bool
  | unreadable => false
  | list items => areItemsReadable items
  | table entries => areEntriesReadable entries
  | _ => true

def areItemsReadable : List Data → Bool
  | [] => true
  | d :: ds => isReadable d && areItemsReadable ds

def areEntriesReadable : List (String × Data) → Bool
  | [] => true
  | (_, d) :: rest => isReadable d && areEntriesReadable rest

end

mutual

/-- The data with all its characters made unreadable. -/
def sealed : Data → Data
  | char _ => unreadable
  | list items => list (sealedItems items)
  | table entries => table (sealedEntries entries)
  | d => d

def sealedItems : List Data → List Data
  | [] => []
  | d :: ds => sealed d :: sealedItems ds

def sealedEntries : List (String × Data) → List (String × Data)
  | [] => []
  | (key, d) :: rest => (key, sealed d) :: sealedEntries rest

end

mutual

/-- The data with the entries of all its tables in the order of their keys. -/
def sorted : Data → Data
  | list items => list (sortedItems items)
  | table entries => table (Keyed.ofList (sortedEntries entries))
  | d => d

def sortedItems : List Data → List Data
  | [] => []
  | d :: ds => sorted d :: sortedItems ds

def sortedEntries : List (String × Data) → List (String × Data)
  | [] => []
  | (key, d) :: rest => (key, sorted d) :: sortedEntries rest

end

mutual

/-- Puts the second value in the place of the first; of two tables the entries are joined. -/
def merge (base : Data) : Data → Data
  | table changes =>
    match base with
    | table entries => table (mergeEntries entries changes)
    | _ => table changes
  | d => d

/-- Entries with further entries put in. -/
def mergeEntries (entries : Keyed Data) : List (String × Data) → Keyed Data
  | [] => entries
  | (key, d) :: rest =>
    match entries.get? key with
    | some base => mergeEntries (entries.insert key (merge base d)) rest
    | none => mergeEntries (entries.insert key d) rest

end

/-- The data, of which no more than the first `n` items are kept if it is a list. -/
def take (n : Nat) : Data → Data
  | list items => list (items.take n)
  | d => d

/-- The members of a record of the given names, or of its beginning if it is a list. -/
def fields? (names : List String) : Data → Option (List (String × Data))
  | table entries => some entries
  | list items => if items.length ≤ names.length then some (names.zip items) else none
  | _ => none

/-- The member of that name: nothing if it is missing.  Fails if there is more than one. -/
def member? (entries : List (String × Data)) (name : String) : Option (Option Data) :=
  match entries.filter (·.1 = name) with
  | [] => some none
  | [entry] => some (some entry.2)
  | _ => none

/-- The member of that name, read by `read`. -/
def required? {α : Type} (entries : List (String × Data)) (name : String)
    (read : Data → Option α) : Option α := do
  match ← member? entries name with
  | some d => read d
  | none => none

/-- The member of that name, read by `read`, or `default` if it is missing. -/
def defaulted? {α : Type} (entries : List (String × Data)) (name : String) (default : α)
    (read : Data → Option α) : Option α := do
  match ← member? entries name with
  | some d => read d
  | none => some default

/-- The variant that a tag names: by its name, or by its place among the variants. -/
def variant? (variants : List String) : Data → Option String
  | text s => some s
  | unsigned n => variants[n]?
  | _ => none

/-- The variant that the tag of a record names, and what else was written with it.  All of it must
have a value, and characters are no texts in it. -/
def tagged? (tag : String) (variants : List String) (d : Data) : Option (String × Data) :=
  if !d.isReadable then none
  else
    match d with
    | table entries => do
      match ← member? entries tag with
      | some name =>
        return (← variant? variants name, (table (entries.filter (·.1 ≠ tag))).sealed)
      | none => none
    | list (name :: items) => do return (← variant? variants name, (list items).sealed)
    | _ => none

end Data

end InstrumentControl
