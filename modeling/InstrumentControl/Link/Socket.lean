import InstrumentControl.Link.Line

/-! Sockets.  Lines are written to a socket and read from it as on any stream.  Clearing a socket
also reads what has arrived, without waiting for more, and so notices a far end that has closed the
connection. -/

namespace InstrumentControl.Socket

/-- Reads what has arrived and discards it, up to the first read that meets nothing. -/
def drain (drained : Drained) : List Arrival → Except LinkError Unit × List Arrival
  | [] =>
    match drained with
    | .ended => (.error .closed, [])
    | .silent => (.ok (), [])
  | .bytes [] :: more => (.error .closed, more)
  | .bytes (_ :: _) :: more => drain drained more
  | .nothingYet :: more => (.ok (), more)
  -- a read that does not wait meets nothing; the time to wait has still to pass
  | .stall :: more => (.ok (), .stall :: more)
  | .failure cause :: more => (.error (.io cause), more)

/-- The link that writes lines to a socket and reads lines from it. -/
def link {δ : Type} (rules : LineRules) (device : Device δ) : Link (Stream δ)
  | .clear, s =>
    let (reply, arrivals) := drain device.drained s.arrivals
    (reply, { s with pending := [], arrivals })
  | c, s => Line.link rules device c s

end InstrumentControl.Socket
