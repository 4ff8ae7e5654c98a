import InstrumentControl.Decimal.Layout
import InstrumentControl.Program
import InstrumentControl.Text.Quoted

/-! Links to instruments.  There are four calls on a link: write a command, write a command and read
a response, read a further response, and discard what was not read.  A link is a state machine that
answers calls; a conversation is a program of calls.  `run` holds a conversation over a link, and
`exchanges` lists the calls that it makes with their replies. -/

namespace InstrumentControl

/-- How a response broke the framing contract. -/
inductive FramingFault where
  | missingEcho
  | promptInside
  | expectedEcho
deriving DecidableEq

def FramingFault.message : FramingFault → String
  | missingEcho => "missing command echo"
  | promptInside => "prompt inside payload"
  | expectedEcho => "expected command echo"

inductive LinkError where
  /-- Reading or writing failed. -/
  | io (cause : String)
  /-- No complete response to `command` came within `limit` milliseconds. -/
  | timeout (command : String) (limit : Nat)
  | closed
  | malformed (command : String) (fault : FramingFault) (raw : String)
  | unsupported (operation : String)
  /-- A scripted link has no response left for `command`. -/
  | noResponse (command : String)
deriving DecidableEq

/-- A span of milliseconds: in seconds from one second on. -/
def durationText (millis : Nat) : String :=
  if millis = 0 then "0ns"
  else if millis < 1000 then Decimal.decimalText millis ++ "ms"
  else
    let digits := Nat.toDigits 10 (1000 + millis % 1000)
    let fraction := ((digits.drop 1).reverse.dropWhile (· = '0')).reverse
    let point := if fraction.isEmpty then [] else ['.']
    Decimal.decimalText (millis / 1000) ++ String.ofList (point ++ fraction) ++ "s"

namespace LinkError

def message : LinkError → String
  | io cause => "I/O error: " ++ cause
  | timeout command limit =>
    "Timeout after " ++ durationText limit ++ " waiting for response to '" ++ command ++ "'"
  | closed => "Connection closed by instrument"
  | malformed command fault raw =>
    "Malformed response to '" ++ command ++ "': " ++ fault.message ++ " (raw: " ++
      Text.quoted raw ++ ")"
  | unsupported operation => "Transport does not support " ++ operation
  | noResponse command => "No scripted response for '" ++ command ++ "'"

/-- The message and the messages of what caused it. -/
def chain (e : LinkError) : List String :=
  match e with
  | io cause => [e.message, cause]
  | _ => [e.message]

end LinkError

/-- One call on a link. -/
inductive Call where
  | send (command : String)
  | query (command : String)
  | receive
  | clear
deriving DecidableEq

namespace Call

/-- What a call gives when it succeeds. -/
abbrev Answer : Call → Type
  | send _ => Unit
  | query _ => String
  | receive => String
  | clear => Unit

abbrev Reply (c : Call) : Type := Except LinkError c.Answer

end Call

/-- A call and the reply to it. -/
structure Exchange where
  call : Call
  reply : call.Reply

/-- A state machine that answers calls. -/
abbrev Link (σ : Type) : Type := (c : Call) → σ → c.Reply × σ

/-- A program of calls on a link. -/
abbrev Conversation (α : Type) : Type := Program Call.Reply α

namespace Conversation

variable {α σ : Type}

def send (command : String) : Conversation (Except LinkError Unit) :=
  Program.perform (Call.send command)

def query (command : String) : Conversation (Except LinkError String) :=
  Program.perform (Call.query command)

def receive : Conversation (Except LinkError String) := Program.perform Call.receive

def clear : Conversation (Except LinkError Unit) := Program.perform Call.clear

/-- The result of a conversation and the state in which it leaves the link. -/
def run (link : Link σ) : Conversation α → σ → α × σ
  | .done a, s => (a, s)
  | .step c next, s => run link (next (link c s).1) (link c s).2

/-- The calls of a conversation with their replies, in order. -/
def exchanges (link : Link σ) : Conversation α → σ → List Exchange
  | .done _, _ => []
  | .step c next, s =>
    ⟨c, (link c s).1⟩ :: exchanges link (next (link c s).1) (link c s).2

end Conversation

/-- The link that can only send and query. -/
def Link.basic {σ : Type} (send : String → σ → Except LinkError Unit × σ)
    (query : String → σ → Except LinkError String × σ) : Link σ
  | .send command, s => send command s
  | .query command, s => query command s
  | .receive, s => (.error (.unsupported "receive"), s)
  | .clear, s => (.ok (), s)

/-- The link that answers every command with `head` and the command itself. -/
def Link.parrot (head : String) : Link Unit :=
  Link.basic (fun _ s => (.ok (), s)) fun command s => (.ok (head ++ command), s)

end InstrumentControl
