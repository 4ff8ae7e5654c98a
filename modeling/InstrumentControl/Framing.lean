import InstrumentControl.Link
import InstrumentControl.Text.Affix

/-! Framing of responses by devices that echo their commands.  `extract` finds the payload of a
response by its structure: blanks and prompts left over from the exchange before, the echo of the
command, the payload, and the prompt that ends the exchange.  `Framing.link` keeps a link aligned
with such a device: what was not read is discarded before each exchange, and `send` reads the
echo. -/

namespace InstrumentControl

inductive Framing where
  /-- Responses are the payload. -/
  | plain
  /-- A response begins with the command and ends with the prompt. -/
  | echoPrompt (prompt : String)
  /-- The command comes back on a line of its own before the payload. -/
  | echoLine
deriving DecidableEq, Inhabited

namespace Framing

open Text

/-- What follows the blanks and prompts that `raw` begins with. -/
def dropLeftover (prompt raw : List Char) : List Char :=
  if prompt.isEmpty then trimStart raw else trimStart (dropHeads prompt (trimStart raw))

/-- `body` without the prompt that it ends with. -/
def dropPrompt (prompt body : List Char) : List Char :=
  if prompt.isEmpty then body
  else match dropTail? prompt body with
    | some payload => trimEnd payload
    | none => body

/-- The payload of the response `raw` to `command` when the device ends exchanges with `prompt`. -/
def payload (prompt command raw : List Char) : Except FramingFault (List Char) :=
  match dropHead? (trim command) (dropLeftover prompt raw) with
  | none => .error .missingEcho
  | some rest =>
    let body := dropPrompt prompt (trim rest)
    if !prompt.isEmpty && occursIn prompt body then .error .promptInside else .ok body

/-- The payload of the response `raw` to `command`. -/
def extract (framing : Framing) (command raw : String) : Except LinkError String :=
  match framing with
  | plain | echoLine => .ok (strip raw)
  | echoPrompt prompt =>
    match payload prompt.toList command.toList raw.toList with
    | .ok body => .ok (String.ofList body)
    | .error fault => .error (.malformed command fault raw)

/-- Queries `command` after discarding what was not read. -/
def freshQuery (command : String) : Conversation (Except LinkError String) := do
  match ← Conversation.clear with
  | .error e => return .error e
  | .ok _ => Conversation.query command

/-- Queries `command` and expects its echo. -/
def awaitEcho (command : String) : Conversation (Except LinkError Unit) := do
  match ← freshQuery command with
  | .error e => return .error e
  | .ok echo =>
    if strip echo = strip command then return .ok ()
    else return .error (.malformed command .expectedEcho echo)

/-- Queries `command` on a device that echoes it before the response and sends a prompt after it. -/
def queryPrompted (prompt command : String) : Conversation (Except LinkError String) := do
  match ← freshQuery command with
  | .error e => return .error e
  | .ok raw => return (echoPrompt prompt).extract command raw

/-- Queries `command` on a device that echoes it on a line of its own. -/
def queryEchoed (command : String) : Conversation (Except LinkError String) := do
  match ← awaitEcho command with
  | .error e => return .error e
  | .ok _ =>
    match ← Conversation.receive with
    | .error e => return .error e
    | .ok response => return .ok (strip response)

/-- The calls on the device's own link that a framed call makes. -/
def exchange (framing : Framing) (c : Call) : Conversation c.Reply :=
  match framing, c with
  | echoPrompt prompt, .send command => do
    return (← queryPrompted prompt command).map fun _ => ()
  | echoPrompt prompt, .query command => queryPrompted prompt command
  | echoLine, .send command => awaitEcho command
  | echoLine, .query command => queryEchoed command
  | _, c => Program.perform c

/-- The link on which every call is framed. -/
def link {σ : Type} (framing : Framing) (inner : Link σ) : Link σ :=
  fun c s => (framing.exchange c).run inner s

end Framing

end InstrumentControl
