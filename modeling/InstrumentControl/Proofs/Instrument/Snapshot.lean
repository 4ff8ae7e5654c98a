import InstrumentControl.Proofs.Instrument.Requests
import InstrumentControl.Proofs.Keyed
import InstrumentControl.Proofs.Registry.History

/-! Snapshots.  The readable parameters are read one after the other in the order of the table, each
on the link as the reads before it left it, whatever came of them.  The readings are kept by the
names of the parameters, which are distinct, so none of them is lost. -/

namespace InstrumentControl.Instrument

open Conversation

variable {r : Registry} {a : Access} {get : String → Conversation (Except GetError Value)}
  {σ : Type} {link : Link σ} {names : List String} {s : σ}

/-! ### One read after the other -/

end InstrumentControl.Instrument
