import InstrumentControl.Text.Affix

/-! The arguments of the command line.  Options may stand before the name of a command and after it,
each of them once in either place, and what follows counts.  After `--` every argument is taken as
it is; before it, an argument with a leading dash is an option, unless it is the dash alone.  Help is
asked for by an option or by a command of its own.  It is given if nothing before the option is wrong,
whatever stands after it. -/

namespace InstrumentControl.CommandLine

inductive Command where
  | drivers
  | params (driver : String)
  | get (device parameter : String)
  | set (device parameter value : String)
  | call (device function : String) (arguments : List String)
  | snapshot (device : String)
deriving DecidableEq

structure Invocation where
  /-- The path of the configuration file. -/
  path : String := "labinstr.toml"
  /-- Show the commands instead of sending them. -/
  isDry : Bool := false
  /-- Write JSON. -/
  asJson : Bool := false
  command : Command
deriving DecidableEq

inductive Token where
  | path (p : String)
  | dryRun
  | json
  /-- Help is asked for; no argument is read after this. -/
  | help
  /-- From here on no argument is an option. -/
  | separator
  | word (s : String)
deriving DecidableEq

/-- The argument has a leading dash, and more than that. -/
def isDashed (argument : String) : Bool :=
  match argument.toList with
  | '-' :: _ :: _ => true
  | _ => false

/-- The path that an option is given. -/
def path? (p : String) : Option Token := if p.isEmpty then none else some (.path p)

/-- The token of one argument. -/
def token? (argument : String) : Option Token :=
  if argument = "--dry-run" then some .dryRun
  else if argument = "--json" then some .json
  else
    match Text.dropHead? "--config=".toList argument.toList with
    | some p => path? (String.ofList p)
    | none => if isDashed argument then none else some (.word argument)

/-- The argument asks for help.  Of short options only the first letter counts. -/
def isHelp (argument : String) : Bool :=
  argument = "--help" || "-h".toList.isPrefixOf argument.toList

/-- The tokens of arguments up to the first that asks for help, if all options are known and
complete. -/
def tokens? : List String → Option (List Token)
  | [] => some []
  | "--" :: rest => some (.separator :: rest.map .word)
  | "--config" :: p :: rest =>
    if isDashed p then none else do return (← path? p) :: (← tokens? rest)
  | argument :: rest =>
    if isHelp argument then some [.help]
    else do return (← token? argument) :: (← tokens? rest)

/-- The options of one place. -/
structure Switches where
  path : Option String
  isDry : Bool
  asJson : Bool

/-- The options among tokens, if each occurs once at most and none asks for help. -/
def switches? (ts : List Token) : Option Switches :=
  let paths := ts.filterMap fun
    | .path p => some p
    | _ => none
  if paths.length ≤ 1 && ts.count .dryRun ≤ 1 && ts.count .json ≤ 1 && !ts.contains .help then
    some ⟨paths.head?, ts.contains .dryRun, ts.contains .json⟩
  else none

def words (ts : List Token) : List String :=
  ts.filterMap fun
    | .word s => some s
    | _ => none

/-- The command of the given name and arguments. -/
def command? (name : String) (arguments : List String) : Option Command :=
  match name, arguments with
  | "drivers", [] => some .drivers
  | "params", [driver] => some (.params driver)
  | "get", [device, parameter] => some (.get device parameter)
  | "set", [device, parameter, value] => some (.set device parameter value)
  | "call", device :: function :: arguments => some (.call device function arguments)
  | "snapshot", [device] => some (.snapshot device)
  | _, _ => none

/-- The token is an option. -/
def isOption : Token → Bool
  | .word _ | .separator => false
  | _ => true

/-- What the arguments ask to be done, if they are complete and correct. -/
def parse? (arguments : List String) : Option Invocation := do
  let ts ← tokens? arguments
  let outer ← switches? (ts.takeWhile isOption)
  match ts.dropWhile isOption with
  | .word name :: rest =>
    let inner ← switches? rest
    let command ← command? name (words rest)
    return {
      path := ((inner.path <|> outer.path).getD "labinstr.toml")
      isDry := outer.isDry || inner.isDry
      asJson := outer.asJson || inner.asJson
      command }
  | _ => none

/-- More arguments can make a command of the name and arguments: three are the most that one
lacks. -/
def isCompletable (name : String) (arguments : List String) : Bool :=
  (List.range 4).any fun n => (command? name (arguments ++ List.replicate n "")).isSome

/-- Nothing is wrong with the tokens so far. -/
def isBeginning (ts : List Token) : Bool :=
  (switches? (ts.takeWhile isOption)).isSome &&
    match ts.dropWhile isOption with
    | [] => true
    | .word name :: rest => (switches? rest).isSome && isCompletable name (words rest)
    | _ => false

/-- The tokens are the command that explains the program or the command of a name. -/
def isHelpCommand (ts : List Token) : Bool :=
  (switches? (ts.takeWhile isOption)).isSome &&
    match ts.dropWhile isOption with
    | [.word "help"] => true
    | [.word "help", .word name] => name = "help" || isCompletable name []
    | _ => false

/-- The arguments ask for help, and nothing is wrong with what stands before that. -/
def asksHelp (arguments : List String) : Bool :=
  match tokens? arguments with
  | none => false
  | some ts => if ts.getLast? = some .help then isBeginning ts.dropLast else isHelpCommand ts

end InstrumentControl.CommandLine
