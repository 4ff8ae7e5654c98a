import InstrumentControl.Keyed
import InstrumentControl.Link

/-! Links with responses set beforehand.  A query takes the next response of the script; when the
script has run out it takes the fixed response of its command.  Every call is recorded. -/

namespace InstrumentControl

structure Scripted where
  /-- Responses in the order in which they are given. -/
  script : List String := []
  /-- Responses by command, for when the script has run out. -/
  fixed : Keyed String := []
  /-- The calls made, in order. -/
  log : List Call := []
deriving DecidableEq, Inhabited

namespace Scripted

def record (s : Scripted) (c : Call) : Scripted := { s with log := s.log ++ [c] }

def link : Link Scripted
  | .send command, s => (.ok (), s.record (.send command))
  | .query command, s =>
    let s := s.record (.query command)
    match s.script with
    | response :: script => (.ok response, { s with script })
    | [] =>
      match s.fixed.get? command with
      | some response => (.ok response, s)
      | none => (.error (.noResponse command), s)
  | .receive, s =>
    let s := s.record .receive
    match s.script with
    | response :: script => (.ok response, { s with script })
    | [] => (.error (.noResponse "<receive>"), s)
  | .clear, s => (.ok (), s.record .clear)

def push (s : Scripted) (response : String) : Scripted :=
  { s with script := s.script ++ [response] }

def respondTo (s : Scripted) (command response : String) : Scripted :=
  { s with fixed := s.fixed.insert command response }

/-- The commands sent, in order. -/
def sent (s : Scripted) : List String :=
  s.log.filterMap fun
    | .send command => some command
    | _ => none

/-- The commands queried, in order. -/
def queries (s : Scripted) : List String :=
  s.log.filterMap fun
    | .query command => some command
    | _ => none

/-- The number of calls that send, query or receive. -/
def callCount (s : Scripted) : Nat := s.log.countP (· ≠ .clear)

def resetLog (s : Scripted) : Scripted := { s with log := [] }

end Scripted

end InstrumentControl
