import InstrumentControl.Toml.Scalar

/-! Reading TOML documents.  A document is a list of statements: entries and headers of tables.  The
statements build a tree of `Item`s that remembers how each table came about, because a table may be
opened by a header once only, and dotted keys may extend only tables that dotted keys have made. -/

namespace InstrumentControl.Toml

/-- A node of a document under construction. -/
inductive Item where
  | value (d : Data)
  /-- A table.  It is implied if only the keys or headers of others name it, and dotted if a dotted
  key has made it. -/
  | table (implied dotted : Bool) (entries : List (String × Item))
  /-- The tables of a header in double brackets, the last one first. -/
  | tables (entries : List (List (String × Item)))

/-- Entries of a table under construction. -/
abbrev Items := List (String × Item)

def Items.find? (key : String) (es : Items) : Option Item :=
  (List.find? (·.1 = key) es).map Prod.snd

/-- The entries with the item of a key replaced, or added. -/
def Items.put (key : String) (item : Item) : Items → Items
  | [] => [(key, item)]
  | (k, i) :: es => if k = key then (key, item) :: es else (k, i) :: put key item es

/-- Changes the entries that a path leads to, making tables where there are none.  `change` is told
whether a dotted key has made the table. -/
def descend (dotted : Bool) (change : Bool → Items → Option Items) :
    (path : List String) → (here : Bool) → Items → Option Items
  | [], here, es => change here es
  | key :: path, _, es =>
    match es.find? key with
    | none => do
      let inner ← descend dotted change path dotted []
      return es.put key (.table true dotted inner)
    | some (.value _) => none
    | some (.tables []) => none
    | some (.tables (last :: others)) => do
      let inner ← descend dotted change path false last
      return es.put key (.tables (inner :: others))
    | some (.table implied made inner) =>
      if dotted && !implied then none
      else do
        let inner ← descend dotted change path made inner
        return es.put key (.table implied made inner)

/-- Adds the entry of a key that may be dotted. -/
def addEntry (path : List String) (d : Data) (es : Items) : Option Items := do
  let key ← path.getLast?
  let parents := path.dropLast
  let add (made : Bool) (es : Items) : Option Items :=
    if made = parents.isEmpty then none
    else if (es.find? key).isSome then none
    else some (es.put key (.value d))
  descend true add parents false es

/-- Opens the table of a header. -/
def openTable (path : List String) (root : Items) : Option Items := do
  let key ← path.getLast?
  let openKey (_ : Bool) (es : Items) : Option Items :=
    match es.find? key with
    | none => some (es.put key (.table false false []))
    | some (.table true false inner) => some (es.put key (.table false false inner))
    | some _ => none
  descend false openKey path.dropLast false root

/-- Opens a further table of a header in double brackets. -/
def appendTable (path : List String) (root : Items) : Option Items := do
  let key ← path.getLast?
  let append (_ : Bool) (es : Items) : Option Items :=
    match es.find? key with
    | none => some (es.put key (.tables [[]]))
    | some (.tables ts) => some (es.put key (.tables ([] :: ts)))
    | some _ => none
  descend false append path.dropLast false root

mutual

def Item.toData : Item → Data
  | .value d => d
  | .table _ _ entries => .table (entriesToData entries)
  | .tables ts => .list (tablesToData ts).reverse

def entriesToData : List (String × Item) → List (String × Data)
  | [] => []
  | (key, item) :: rest => (key, item.toData) :: entriesToData rest

def tablesToData : List (List (String × Item)) → List Data
  | [] => []
  | t :: ts => .table (entriesToData t) :: tablesToData ts

end

/-- What follows a comment, if there is one. -/
def skipComment? : List Char → Option (List Char)
  | '#' :: s =>
    let rest := s.dropWhile isPlain
    if rest.isEmpty || (readNewline? rest).isSome then some rest else none
  | s => some s

/-- What follows blanks, comments and line breaks. -/
def skipTrivia (fuel : Nat) (s : List Char) : Option (List Char) :=
  match fuel with
  | 0 => none
  | fuel + 1 => do
    let s ← skipComment? (skipSpaces s)
    match readNewline? s with
    | some s => skipTrivia fuel s
    | none => return s

mutual

/-- The value that `s` begins with, and what follows it.  Inside it `room` lists and tables may be
nested; `fuel` bounds the number of steps. -/
def readValue (fuel room : Nat) (s : List Char) : Option (Data × List Char) :=
  match fuel with
  | 0 => none
  | fuel + 1 =>
    match s with
    | '"' :: _ | '\'' :: _ => (readString s).map fun p => (.text (String.ofList p.1), p.2)
    | 't' :: 'r' :: 'u' :: 'e' :: s => some (.bool true, s)
    | 'f' :: 'a' :: 'l' :: 's' :: 'e' :: s => some (.bool false, s)
    | '[' :: s => if room = 0 then none else do
      let (items, s) ← readItems fuel (room - 1) s
      return (.list items, s)
    | '\x7b' :: s => if room = 0 then none else do
      match skipSpaces s with
      | '\x7d' :: s => return (.table [], s)
      | s =>
        let (items, s) ← readInline fuel (room - 1) [] s
        return (.table (entriesToData items), s)
    | s => readNumber s

/-- The items of a list up to its closing bracket. -/
def readItems (fuel room : Nat) (s : List Char) : Option (List Data × List Char) :=
  match fuel with
  | 0 => none
  | fuel + 1 => do
    match ← skipTrivia (s.length + 1) s with
    | ']' :: s => return ([], s)
    | s =>
      let (d, s) ← readValue fuel room s
      match ← skipTrivia (s.length + 1) s with
      | ',' :: s =>
        let (ds, s) ← readItems fuel room s
        return (d :: ds, s)
      | ']' :: s => return ([d], s)
      | _ => none

/-- The entries of a table in braces up to its closing brace. -/
def readInline (fuel room : Nat) (es : Items) (s : List Char) : Option (Items × List Char) :=
  match fuel with
  | 0 => none
  | fuel + 1 => do
    let (path, s) ← readKey nesting s
    let s ← readMark '=' s
    let (d, s) ← readValue fuel room (skipSpaces s)
    let es ← addEntry path d es
    match skipSpaces s with
    | ',' :: s => readInline fuel room es s
    | '\x7d' :: s => return (es, s)
    | _ => none

end

/-- What follows the end of a line. -/
def readLineEnd (s : List Char) : Option (List Char) := do
  let s ← skipComment? (skipSpaces s)
  if s.isEmpty then return [] else readNewline? s

/-- One statement: the document so far, the path of the table in use, and what follows. -/
def readStatement (root : Items) (current : List String) (s : List Char) :
    Option (Items × List String × List Char) :=
  match s with
  | '[' :: '[' :: s => do
    let (path, s) ← readKey nesting s
    let s ← readMark ']' s
    let s ← readMark ']' s
    return (← appendTable path root, path, s)
  | '[' :: s => do
    let (path, s) ← readKey nesting s
    let s ← readMark ']' s
    return (← openTable path root, path, s)
  | s => do
    let (path, s) ← readKey nesting s
    let s ← readMark '=' s
    let (d, s) ← readValue (2 * s.length + 1) nesting (skipSpaces s)
    let root ← descend false (fun _ es => addEntry path d es) current false root
    return (root, current, s)

/-- The statements up to the end of the text. -/
def readStatements (fuel : Nat) (root : Items) (current : List String) (s : List Char) :
    Option Items :=
  match fuel with
  | 0 => none
  | fuel + 1 => do
    match ← skipTrivia (s.length + 1) s with
    | [] => return root
    | s =>
      let (root, current, s) ← readStatement root current s
      readStatements fuel root current (← readLineEnd s)

/-- The table of a document, which a byte order mark may precede. -/
def read? (text : String) : Option Data := do
  let s := match text.toList with
    | '\ufeff' :: s => s
    | s => s
  let root ← readStatements (s.length + 1) [] [] s
  return .table (entriesToData root)

end InstrumentControl.Toml
