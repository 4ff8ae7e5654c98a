import InstrumentControl.CommandLine.Run
import InstrumentControl.Proofs.Model.Known

/-! Dry runs.  What a command does without an instrument ends with the first query, and that this
query has no answer is no failure of a dry run.  The exception are parameters that a routine sets
after another parameter was read: the failure of that read is the failure of the dry run. -/

namespace InstrumentControl.CommandLine

open Conversation

/-- The command sets a parameter to a value that a routine is to carry out. -/
def Command.Delegates (r : Registry) : Command → Prop
  | set _ name text => ∃ routine, r.Delegates name (Value.infer text) routine
  | _ => False

namespace Command

variable {r : Registry} {c : Command}

end Command

namespace Invocation

variable {i : Invocation} {c : Catalogue} {d : DeviceConfig} {r : Registry}

/-- A source whose channel is said to be the second. -/
def laser : DeviceConfig where
  id := "laser"
  driver := "mcls"
  connection := .mock [("channel?", "2")]

theorem exists_laser_table :
    ∃ r, Catalogue.known.registry laser.driver = .ok r ∧ Mcls.IsTable r := by
  obtain ⟨r, hbuild, hr⟩ := Mcls.exists_table
  exact ⟨r, Catalogue.registry_eq_ok rfl hbuild, hr⟩

theorem permits_ten : Mcls.Permits "2" (.int 10) := by
  refine ⟨2, 97.8, 10, by with_unfolding_all rfl, ?_, ?_, ?_, ?_, ?_, ?_, ?_⟩ <;> decide +kernel

end Invocation

end InstrumentControl.CommandLine
