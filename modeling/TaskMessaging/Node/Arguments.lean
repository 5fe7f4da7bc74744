import TaskMessaging.Decimal

/-!
# Command line

The options of the node. An option may be given once; its value follows as the next argument or,
behind an equals sign, in the same one. The short form of an option takes its value in the same
argument as well. The first argument that is wrong ends the reading, and so does the first that
asks for help or for the version.
-/

namespace TaskMessaging.Node

/-- What the options say. -/
structure Arguments where
  /-- The configuration file. -/
  config : Option String
  /-- In place of the configured log filter. -/
  logLevel : Option String
  noDiagnostics : Bool
  /-- The period of the heartbeat task in milliseconds. -/
  heartbeat : Option Nat
deriving DecidableEq

def Arguments.none : Arguments := ⟨.none, .none, false, .none⟩

/-- What a command line asks for. -/
inductive Command where
  | run (arguments : Arguments)
  | help
  | version
  /-- The arguments make no sense. -/
  | misuse
deriving DecidableEq

/-! ## Texts -/

def programName : String := "itti-node"

/-- What is printed when the version is asked for. -/
def versionText : String := programName ++ " 0.1.0\n"

/-- What is printed when help is asked for. -/
def helpText : String := String.intercalate "\n" [
  "Process entrypoint hosting the inter-task messaging core",
  "",
  "Usage: " ++ programName ++ " [OPTIONS]",
  "",
  "Options:",
  "  -c, --config <CONFIG>              Configuration file path",
  "      --log-level <LOG_LEVEL>        Log filter, overrides `logging.level`",
  "      --no-diagnostics               Disable the diagnostic listener",
  "      --heartbeat-ms <HEARTBEAT_MS>  Run a heartbeat task with this period in milliseconds",
  "  -h, --help                         Print help",
  "  -V, --version                      Print version",
  ""]

/-- The first line of what is said about arguments that make no sense. -/
def misuseText : String := "error: the arguments are not understood"

/-! ## Reading -/

/-- An option. -/
inductive Switch where
  | config
  | logLevel
  | noDiagnostics
  | heartbeat
  | help
  | version
deriving DecidableEq

namespace Switch

def ofName? : String → Option Switch
  | "config" => some .config
  | "log-level" => some .logLevel
  | "no-diagnostics" => some .noDiagnostics
  | "heartbeat-ms" => some .heartbeat
  | "help" => some .help
  | "version" => some .version
  | _ => none

def ofLetter? : Char → Option Switch
  | 'c' => some .config
  | 'h' => some .help
  | 'V' => some .version
  | _ => none

/-- The option is followed by a value. -/
def takesValue : Switch → Bool
  | .config | .logLevel | .heartbeat => true
  | _ => false

end Switch

/-- A natural number of 64 bits, perhaps with a plus sign. -/
def readPeriod? (value : String) : Option Nat :=
  let digits := match value.toList with
    | '+' :: cs => cs
    | cs => cs
  (Decimal.read? digits).filter (· < Word.count 64)

namespace Arguments

/-- Gives an option its value. A second value is refused, and so is one that makes no sense. -/
def set? (a : Arguments) (s : Switch) (value : String) : Option Arguments :=
  match s with
  | .config =>
    if a.config.isSome || value.isEmpty then .none else some { a with config := some value }
  | .logLevel => if a.logLevel.isSome then .none else some { a with logLevel := some value }
  | .heartbeat =>
    if a.heartbeat.isSome then .none
    else (readPeriod? value).map fun n ↦ { a with heartbeat := some n }
  | .noDiagnostics => if a.noDiagnostics then .none else some { a with noDiagnostics := true }
  | _ => .none

end Arguments

/-- One argument: a switch with the value that stands in the same argument, if any. -/
def readSwitch? (argument : String) : Option (Switch × Option String) :=
  match argument.toList with
  | '-' :: '-' :: cs =>
    let value := match cs.dropWhile (· ≠ '=') with
      | _ :: value => some (String.ofList value)
      | [] => none
    (Switch.ofName? (String.ofList (cs.takeWhile (· ≠ '=')))).map (·, value)
  | '-' :: c :: cs =>
    let value := match cs with
      | [] => none
      | '=' :: value => some (String.ofList value)
      | value => some (String.ofList value)
    (Switch.ofLetter? c).map (·, value)
  | _ => none

/-- An argument that starts with a minus sign and goes on is no value. -/
def isValue (argument : String) : Bool :=
  match argument.toList with
  | '-' :: _ :: _ => false
  | _ => true

/-- Reads the arguments one by one. -/
def Command.read (a : Arguments) : List String → Command
  | [] => .run a
  | [argument] =>
    match readSwitch? argument with
    | some (s, value) => step a s value argument
    | none => if argument = "--" then .run a else .misuse
  | argument :: next :: rest =>
    match readSwitch? argument with
    | none => .misuse
    | some (s, none) =>
      if s.takesValue then
        if isValue next then
          match a.set? s next with
          | some a => Command.read a rest
          | none => .misuse
        else .misuse
      else
        match step a s none argument with
        | .run a => Command.read a (next :: rest)
        | other => other
    | some (s, some value) =>
      match step a s (some value) argument with
      | .run a => Command.read a (next :: rest)
      | other => other
where
  /-- A switch with the value in its own argument. -/
  step (a : Arguments) (s : Switch) (value : Option String) (argument : String) : Command :=
    let letters := argument.toList.take 2 ≠ ['-', '-']
    match s with
    | .help => if value.isNone || letters then .help else .misuse
    | .version => if value.isNone || letters then .version else .misuse
    | .noDiagnostics =>
      if value.isSome then .misuse
      else match a.set? s "" with
        | some a => .run a
        | none => .misuse
    | s => match value.bind (a.set? s) with
      | some a => .run a
      | none => .misuse

/-- What the arguments of the node ask for. -/
def Command.ofArguments (arguments : List String) : Command := Command.read .none arguments

end TaskMessaging.Node
