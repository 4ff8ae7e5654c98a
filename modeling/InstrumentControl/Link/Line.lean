import InstrumentControl.Link
import InstrumentControl.Text.Affix
import InstrumentControl.Text.Utf8

/-! Links over streams of bytes on which a terminator ends each line.  What arrives is kept in
`pending` until a terminator comes; bytes after it stay for the next line.  A line is waited for
until the time limit has passed, however often the stream has nothing to read in between.  The far
end of the stream is a `Device`, which may let further bytes arrive when something is written to
it. -/

namespace InstrumentControl

/-- What the texts written to an instrument and the responses read from it end with. -/
structure Terminators where
  write : String := "\n"
  read : String := "\n"
deriving DecidableEq, Inhabited

/-- What one read of a stream meets. -/
inductive Arrival where
  | bytes (data : List UInt8)
  /-- Nothing yet; the stream is to be read again. -/
  | nothingYet
  /-- Nothing until the time limit has passed. -/
  | stall
  | failure (cause : String)
deriving DecidableEq

/-- What a stream does when all that arrived has been read. -/
inductive Drained where
  | ended
  | silent
deriving DecidableEq

/-- The far end of a stream. -/
structure Device (δ : Type) where
  /-- Takes the text written to it and lets bytes arrive, or fails. -/
  write : String → δ → Except String (List Arrival) × δ
  drained : Drained
  /-- Discarding what was not read also discards what has arrived but was not read yet. -/
  discardsArrivals : Bool

/-- How lines are written to and read from a stream. -/
structure LineRules where
  terminators : Terminators := {}
  /-- The time limit of a response in milliseconds. -/
  limit : Nat := 2000
deriving DecidableEq, Inhabited

/-- A stream in use, with the device behind it. -/
structure Stream (δ : Type) where
  pending : List UInt8 := []
  arrivals : List Arrival := []
  device : δ

namespace Line

open Text

/-- The number of bytes that one read takes at most. -/
def chunkSize : Nat := 256

/-- A bound on the reads that the arrivals allow. -/
def weight : List Arrival → Nat
  | [] => 0
  | .bytes data :: rest => data.length + 1 + weight rest
  | _ :: rest => 1 + weight rest

/-- The text of a line: its characters without the blanks at their ends. -/
def lineText (bytes : List UInt8) : String := String.ofList (trim (Utf8.decode bytes))

/-- Reads until `pending` holds a line, and gives what stays pending and what was not read.  `late`
tells that the time limit has passed. -/
def readLine (rules : LineRules) (drained : Drained) (command : String) (late : Bool)
    (pending : List UInt8) (arrivals : List Arrival) :
    Except LinkError String × List UInt8 × List Arrival :=
  match cutAt? (Utf8.encode rules.terminators.read.toList) pending with
  | some (line, rest) => (.ok (lineText line), rest, arrivals)
  | none =>
    if late then (.error (.timeout command rules.limit), pending, arrivals)
    else
      match arrivals with
      | [] =>
        match drained with
        | .ended => (.error .closed, pending, [])
        | .silent => (.error (.timeout command rules.limit), pending, [])
      | .bytes [] :: more => (.error .closed, pending, more)
      | .bytes (b :: data) :: more =>
        if data.length < chunkSize then
          readLine rules drained command false (pending ++ b :: data) more
        else
          readLine rules drained command false (pending ++ (b :: data).take chunkSize)
            (.bytes ((b :: data).drop chunkSize) :: more)
      | .nothingYet :: more => readLine rules drained command false pending more
      | .stall :: more => readLine rules drained command true pending more
      | .failure cause :: more => (.error (.io cause), pending, more)
termination_by weight arrivals
decreasing_by
  all_goals
    simp only [weight, chunkSize, List.length_cons, List.length_drop] at *
    omega

variable {δ : Type}

/-- Reads one line; `command` names the request in errors.  A limit of zero has passed at once. -/
def receive (rules : LineRules) (device : Device δ) (command : String) (s : Stream δ) :
    Except LinkError String × Stream δ :=
  let (reply, pending, arrivals) :=
    readLine rules device.drained command (rules.limit == 0) s.pending s.arrivals
  (reply, { s with pending, arrivals })

/-- Writes `command` and the terminator. -/
def send (rules : LineRules) (device : Device δ) (command : String) (s : Stream δ) :
    Except LinkError Unit × Stream δ :=
  match device.write (command ++ rules.terminators.write) s.device with
  | (.ok arrivals, d) => (.ok (), { s with arrivals := s.arrivals ++ arrivals, device := d })
  | (.error cause, d) => (.error (.io cause), { s with device := d })

/-- The number of bytes that arrived but were not part of a line that was read. -/
def pendingCount (s : Stream δ) : Nat := s.pending.length

def discard (device : Device δ) (s : Stream δ) : Stream δ :=
  { s with pending := [], arrivals := if device.discardsArrivals then [] else s.arrivals }

/-- The link that writes lines to a stream and reads lines from it. -/
def link (rules : LineRules) (device : Device δ) : Link (Stream δ)
  | .send command, s => send rules device command s
  | .query command, s =>
    match send rules device command s with
    | (.ok (), s) => receive rules device command s
    | (.error e, s) => (.error e, s)
  | .receive, s => receive rules device "<receive>" s
  | .clear, s => (.ok (), discard device s)

end Line

end InstrumentControl
