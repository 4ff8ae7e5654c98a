import InstrumentControl.Decimal.Layout
import InstrumentControl.Keyed
import InstrumentControl.Template.Field
import InstrumentControl.Text.Blank

/-! Command templates: texts with sites between braces that tokens are put into.  A brace that is
text is written twice.  `scan` cuts a template into characters and sites and ends at the first
misplaced brace; `fill` puts tokens into the sites; `Template.parse` takes a template that can be
filled when every site gets the token `0`. -/

namespace InstrumentControl

namespace Template

/-- A piece of a template, or the misplaced brace that ends it. -/
inductive Piece where
  | char (c : Char)
  | site (body : List Char)
  | misplaced (fault : Fault)
deriving DecidableEq

/-- The pieces of the text that follows, inside the site that has begun with `site` if there is one.
`closing` tells that a closing brace was read that waits for its double. -/
def scanFrom (site : Option (List Char)) (closing : Bool) : List Char → List Piece
  | [] =>
    if closing then [.misplaced .singleBrace]
    else if site.isSome then [.misplaced .unclosed]
    else []
  | c :: s =>
    if c = '\x7b' then
      match site with
      | none => scanFrom (some []) closing s
      | some [] => .char c :: scanFrom none closing s
      | some (_ :: _) => [.misplaced .extraBrace]
    else if c = '\x7d' then
      if closing then .char c :: scanFrom (site.map (· ++ [c])) false s
      else
        match site with
        | none => scanFrom none true s
        | some body => .site body :: scanFrom none false s
    else if closing then [.misplaced .singleBrace]
    else
      match site with
      | none => .char c :: scanFrom none false s
      | some body => scanFrom (some (body ++ [c])) false s

def scan (s : List Char) : List Piece := scanFrom none false s

/-- The text of the pieces, with `token` giving what stands for a key. -/
def fill (token : String → Option String) : List Piece → Except Fault (List Char)
  | [] => .ok []
  | .char c :: pieces => do return c :: (← fill token pieces)
  | .misplaced fault :: _ => .error fault
  | .site body :: pieces => do
    let field ← Field.read body
    match token field.key with
    | none => throw (.unknownKey field.key)
    | some text => return (← field.place text.toList) ++ (← fill token pieces)

/-- The keys of the sites, in the order of the text. -/
def siteKeys : List Piece → Except Fault (List String)
  | [] => .ok []
  | .char _ :: pieces => siteKeys pieces
  | .misplaced fault :: _ => .error fault
  | .site body :: pieces => do
    let field ← Field.read body
    return field.key :: (← siteKeys pieces)

end Template

/-- A template that fills when every site gets the token `0`. -/
structure Template where
  source : String
  /-- The keys of the sites, in order and without repetition. -/
  keys : List String
deriving DecidableEq

namespace Template

/-- Why a text is no command template. -/
inductive ParseError where
  | blank
  | faulty (source : String) (fault : Fault)
deriving DecidableEq

def ParseError.message : ParseError → String
  | blank => "empty command template"
  | faulty source fault => Text.quoted source ++ ": " ++ fault.message

/-- The template with the tokens that `token` gives. -/
def render (t : Template) (token : String → Option String) : Except Fault String :=
  (fill token (scan t.source.toList)).map String.ofList

def parse (source : String) : Except ParseError Template :=
  if (Text.trim source.toList).isEmpty then .error .blank
  else
    match siteKeys (scan source.toList) with
    | .error fault => .error (.faulty source fault)
    | .ok keys =>
      let t : Template := ⟨source, (Keyed.ofList (keys.map fun k => (k, ()))).keys⟩
      match t.render fun _ => some "0" with
      | .error fault => .error (.faulty source fault)
      | .ok _ => .ok t

/-- The template has no site. -/
def isVerbatim (t : Template) : Bool := t.keys.isEmpty

/-- The key of the site that takes a parameter's token. -/
def valueKey : String := "val"

/-- The template with the token at its sites `val`. -/
def renderValue (t : Template) (token : String) : Except Fault String :=
  t.render fun key => if key = valueKey then some token else none

/-- The key of the site of the argument at position `i`. -/
def argumentKey (i : Nat) : String := Decimal.decimalText i

/-- The template with the tokens at the sites of their positions. -/
def renderArguments (t : Template) (tokens : List String) : Except Fault String :=
  t.render fun key => ((tokens.zipIdx).find? fun p => argumentKey p.2 = key).map Prod.fst

end Template

end InstrumentControl
