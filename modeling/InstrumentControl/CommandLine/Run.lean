import InstrumentControl.CommandLine.Arguments
import InstrumentControl.CommandLine.Listing
import InstrumentControl.CommandLine.Report
import InstrumentControl.Configuration.Load
import InstrumentControl.LogFilter

/-! Running a command.  A command on a device loads the configuration, chooses the filter of the
log, checks the configuration and looks the device up, in this order; then the device is opened and
the command is performed.  A dry run performs it on a scripted link without responses and shows the
commands that it made; that an answer is missing is no failure then. -/

namespace InstrumentControl.CommandLine

/-- What a run can see of the outside. -/
structure Surroundings where
  /-- The texts of the files that there are; where a path leads to a directory, the empty text. -/
  files : String → Option String
  environment : List Configuration.Variable
  ports : Ports
  /-- The help for arguments that ask for it. -/
  help : List String → String := fun _ => ""

inductive Failure where
  | load (cause : Configuration.LoadError)
  | level (cause : LogFilter.LevelError)
  | invalid (cause : Configuration.Fault)
  | noDevice (id path : String)
  | opening (cause : OpenError)
  | get (cause : GetError)
  | set (cause : SetError)
  | call (cause : CallError)

/-- The error is the last whose wording is kept. -/
def isCut : OpenError → Bool
  | .connection _ (.noHost ..) => true
  | .options _ (.malformed _) => true
  | _ => false

def Failure.report : Failure → Report
  | load (.notFound path) => ⟨[(Configuration.LoadError.notFound path).message], false⟩
  | load cause => ⟨[cause.message], true⟩
  | level cause => ⟨[cause.message], true⟩
  | invalid cause => ⟨[cause.message], false⟩
  | noDevice id path => ⟨["No device '" ++ id ++ "' in " ++ path], false⟩
  | opening cause => ⟨cause.chain, isCut cause⟩
  | get cause => ⟨cause.chain, false⟩
  | set cause => ⟨cause.chain, false⟩
  | call cause => ⟨cause.chain, false⟩

/-- The failure only says that a scripted link had no response. -/
def Failure.isUnanswered : Failure → Bool
  | get (.link (.noResponse _)) => true
  | set (.link (.noResponse _)) => true
  | call (.link (.noResponse _)) => true
  | _ => false

/-- Performs a command on an instrument, and gives what it prints. -/
def Command.perform (i : Instrument) (asJson : Bool) :
    Command → Conversation (Except Failure String)
  | get _ parameter => do
    return match ← i.registry.get parameter with
      | .ok v => .ok (Listing.value i.name parameter v asJson)
      | .error e => .error (.get e)
  | set _ parameter value => do
    return match ← i.registry.set parameter (Value.infer value) with
      | .ok _ => .ok ""
      | .error e => .error (.set e)
  | call _ function arguments => do
    return match ← i.registry.call function (arguments.map Value.infer) with
      | .ok _ => .ok ""
      | .error e => .error (.call e)
  | snapshot _ => do return .ok (Listing.snapshot (← i.snapshot) asJson)
  | drivers | params _ => return .ok ""

namespace Invocation

/-- Performs the command without a device and shows the commands. -/
def runDry (i : Invocation) (c : Catalogue) (d : DeviceConfig) : Except Failure String :=
  match c.registry d.driver with
  | .error e => .error (.opening e)
  | .ok r =>
    let (outcome, link) := (i.command.perform ⟨d.id, r⟩ i.asJson).run Scripted.link {}
    match outcome with
    | .ok printed => .ok (printed ++ Listing.dryRun link.log i.asJson)
    | .error e =>
      if e.isUnanswered then .ok (Listing.dryRun link.log i.asJson) else .error e

/-- Opens the device and performs the command on it. -/
def runOpen (i : Invocation) (c : Catalogue) (ports : Ports) (d : DeviceConfig) :
    Except Failure String :=
  match c.openDevice ports d with
  | .ready instrument channel =>
    ((i.command.perform instrument i.asJson).run Channel.link channel).1
  | .failed e _ => .error (.opening e)

/-- The name of the variable that holds a filter of the log. -/
def filterVariable : String := "RUST_LOG"

/-- The configuration that is in force, if it is valid. -/
def configuration (i : Invocation) (c : Catalogue) (s : Surroundings) :
    Except Failure Configuration := do
  let settings ← (Configuration.load s.files s.environment i.path).mapError .load
  let variableText := (s.environment.find? (·.1 = filterVariable)).map Prod.snd
  let _ ← (LogFilter.choose variableText settings.logLevel).mapError .level
  (settings.check c).mapError .invalid
  return settings

/-- Performs the command on a device of the configuration. -/
def runOn (i : Invocation) (c : Catalogue) (s : Surroundings) (id : String) :
    Except Failure String := do
  let settings ← i.configuration c s
  match settings.device? id with
  | none => .error (.noDevice id i.path)
  | some d => if i.isDry then i.runDry c d else i.runOpen c s.ports d

/-- What the command prints. -/
def run (i : Invocation) (c : Catalogue) (s : Surroundings) : Except Failure String :=
  match i.command with
  | .drivers => .ok (Listing.models c i.asJson)
  | .params type =>
    match c.registry type with
    | .ok r => .ok (Listing.registry type r i.asJson)
    | .error e => .error (.opening e)
  | .get device _ | .set device .. | .call device .. | .snapshot device => i.runOn c s device

end Invocation

/-- What a run of the program leaves: its exit code, what it prints, and the report of an error. -/
structure Outcome where
  exitCode : Nat
  output : String := ""
  report : List String := []

/-- Runs the program with the given arguments.  The wording of help is not modelled, nor is what a
run prints that does not understand its arguments. -/
def run (c : Catalogue) (s : Surroundings) (arguments : List String) : Outcome :=
  match parse? arguments with
  | none =>
    if asksHelp arguments then { exitCode := 0, output := s.help arguments }
    else { exitCode := 2 }
  | some i =>
    match i.run c s with
    | .ok output => { exitCode := 0, output }
    | .error e => { exitCode := 1, report := e.report.lines }

end InstrumentControl.CommandLine
