import InstrumentControl.Text.Blank

/-! Fixed texts at the ends and in the middle of a text. -/

namespace InstrumentControl.Text

variable {α : Type} [DecidableEq α]

/-- What follows `head` in `s`, if `s` begins with it. -/
def dropHead? : (head s : List α) → Option (List α)
  | [], s => some s
  | _ :: _, [] => none
  | h :: head, c :: s => if h = c then dropHead? head s else none

theorem append_of_dropHead? {head s rest : List α} (h : dropHead? head s = some rest) :
    s = head ++ rest := by
  induction head generalizing s with
  | nil => simpa [dropHead?] using h
  | cons a head ih =>
    cases s with
    | nil => simp [dropHead?] at h
    | cons c s =>
      simp only [dropHead?] at h
      split at h
      · next e => rw [e, ih h, List.cons_append]
      · cases h

@[simp] theorem dropHead?_append (head rest : List α) :
    dropHead? head (head ++ rest) = some rest := by
  induction head with
  | nil => rfl
  | cons a head ih => simp [dropHead?, ih]

/-- What precedes `tail` in `s`, if `s` ends with it. -/
def dropTail? (tail s : List α) : Option (List α) :=
  (dropHead? tail.reverse s.reverse).map List.reverse

/-- `s` without the copies of `head` that it begins with.  An empty `head` removes nothing. -/
def dropHeads (head s : List α) : List α :=
  match h : dropHead? head s with
  | none => s
  | some rest =>
    if hne : head = [] then s
    else
      have : rest.length < s.length := by
        have hpos := List.length_pos_iff.mpr hne
        simp only [append_of_dropHead? h, List.length_append]
        omega
      dropHeads head rest
termination_by s.length

/-- `part` occurs in `s`. -/
def occursIn (part : List α) : List α → Bool
  | [] => part.isEmpty
  | c :: s => (dropHead? part (c :: s)).isSome || occursIn part s

/-- What precedes and what follows the first `mark` in `s`, if it occurs.  The empty mark does
not. -/
def cutAt? (mark : List α) : List α → Option (List α × List α)
  | [] => none
  | c :: s =>
    match dropHead? mark (c :: s) with
    | some rest => if mark.isEmpty then none else some ([], rest)
    | none => (cutAt? mark s).map fun parts => (c :: parts.1, parts.2)

/-- `s` cut at every `mark`; a text without one is the only piece. -/
def pieces (mark : Char) : List Char → List (List Char)
  | [] => [[]]
  | c :: s =>
    if c = mark then [] :: pieces mark s
    else match pieces mark s with
      | [] => [[c]]
      | first :: rest => (c :: first) :: rest

/-- `s` without one pair of equal quotes around it, blanks outside the quotes not counted. -/
def unquote (s : String) : String :=
  match trim s.toList with
  | [] => ""
  | [c] => String.ofList [c]
  | q :: rest =>
    if (q = '"' || q = '\'') && rest.getLast? = some q then String.ofList rest.dropLast
    else String.ofList (q :: rest)

end InstrumentControl.Text
