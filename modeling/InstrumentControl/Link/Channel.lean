import InstrumentControl.Framing
import InstrumentControl.Link.Scripted
import InstrumentControl.Link.Serial
import InstrumentControl.Link.Socket

/-! Channels: the links that connections open.  A scripted channel gives fixed responses; a serial
channel reads and writes lines on a wire, which is a serial port or a socket, and frames the
responses. -/

namespace InstrumentControl

/-- What lines travel on. -/
inductive Wire where
  | port (rules : LineRules)
  | socket (rules : LineRules)
deriving DecidableEq

/-- The link over a wire to a responder. -/
def Wire.link : Wire → Link (Stream Responder)
  | port rules => Line.link rules Responder.device
  | socket rules => Socket.link rules Responder.device

inductive Channel where
  | scripted (s : Scripted)
  | serial (wire : Wire) (framing : Framing) (stream : Stream Responder)

namespace Channel

def link : Link Channel
  | c, scripted s =>
    let (reply, s) := Scripted.link c s
    (reply, scripted s)
  | c, serial wire framing stream =>
    let (reply, stream) := framing.link wire.link c stream
    (reply, serial wire framing stream)

end Channel

end InstrumentControl
