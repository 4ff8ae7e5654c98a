import InstrumentControl.Catalogue.Known
import InstrumentControl.CommandLine.Run
import InstrumentControl.Text.Utf8

/-! The program: reads the configuration file and the environment, runs the command, and prints what
it prints.  No serial port is at hand and no host is reached. -/

namespace InstrumentControl.CommandLine

/-- The variables of the process. -/
def readVariables : IO (List Configuration.Variable) := do
  try
    let block ← IO.FS.readBinFile "/proc/self/environ"
    return Configuration.variablesOf (Text.Utf8.decode block.toList)
  catch _ => return []

/-- The code of the error of reading a directory. -/
def directoryCode : UInt32 := 21

/-- The text of a file, if it can be read.  A directory has the empty text. -/
def readText (path : String) : IO (Option String) := do
  try
    return some (← IO.FS.readFile path)
  catch
    | .inappropriateType _ code _ => return if code = directoryCode then some "" else none
    | _ => return none

/-- The surroundings of a run with the given arguments. -/
def observe (arguments : List String) : IO Surroundings := do
  let environment ← readVariables
  let files ← match parse? arguments with
    | some i => do
      let text ← readText i.path
      pure fun path => if path = i.path then text else none
    | none => pure fun _ => none
  return { files, environment, ports := fun _ => none }

end InstrumentControl.CommandLine

def main (arguments : List String) : IO UInt32 := do
  let surroundings ← InstrumentControl.CommandLine.observe arguments
  let outcome := InstrumentControl.CommandLine.run .known surroundings arguments
  (← IO.getStdout).putStr outcome.output
  for line in outcome.report do
    (← IO.getStderr).putStrLn line
  return UInt32.ofNat outcome.exitCode
