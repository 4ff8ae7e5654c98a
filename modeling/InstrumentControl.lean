import InstrumentControl.Main
import InstrumentControl.Proofs.Catalogue.Opening
import InstrumentControl.Proofs.CommandLine.Preview
import InstrumentControl.Proofs.Device.Format
import InstrumentControl.Proofs.Framing.Acceptance
import InstrumentControl.Proofs.Framing.Alignment
import InstrumentControl.Proofs.Line.Answers
import InstrumentControl.Proofs.Line.Socket
import InstrumentControl.Proofs.Model.ActiveFunction
import InstrumentControl.Proofs.Model.Depth
import InstrumentControl.Proofs.Model.Inline
import InstrumentControl.Proofs.Registry.Invocation
import InstrumentControl.Proofs.Registry.Token
import InstrumentControl.Proofs.Registry.WireReading
import InstrumentControl.Proofs.Agreement
import InstrumentControl.Proofs.Response
import InstrumentControl.Proofs.Decimal.Whole
import InstrumentControl.Proofs.Model.Enumeration
import InstrumentControl.Proofs.Catalogue.Handshake
import InstrumentControl.Proofs.Domain.Leaves
import InstrumentControl.Proofs.Instrument.Snapshot
import InstrumentControl.Proofs.Model.Observation
import InstrumentControl.Proofs.Inference
import InstrumentControl.Proofs.CommandLine.Numbers
