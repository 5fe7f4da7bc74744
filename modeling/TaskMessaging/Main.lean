import TaskMessaging.Log.Line
import TaskMessaging.Node.Run
import TaskMessaging.Text.Split

/-!
# The program

Runs the node from the command line. The configuration file and the environment are those of the
process. The signals are read as numbers from the standard input, one in each line, so that a run
can be repeated.
-/

namespace TaskMessaging.Node

/-- The files that the arguments may mean. -/
def namedFiles (arguments : List String) : List String :=
  match Command.ofArguments arguments with
  | .run a => a.config.elim [] Config.SourceFile.candidates
  | _ => []

/-- The signal whose number stands in a line. -/
def readSignal? (line : String) : Option Signal :=
  (Decimal.read? (line.toList.takeWhile fun c ↦ c ≠ '\n')).bind Signal.ofNumber?

/-- Reads a file, if there is one of this name. -/
def readFile? (name : String) : IO (Option (String × String)) := do
  try
    return some (name, ← IO.FS.readFile ⟨name⟩)
  catch _ => return none

/-- Where the system shows the environment of the process: names and values with equals signs
between them, each ended by a null character. -/
def environmentFile : String := "/proc/self/environ"

/-- The name and the value of a variable. -/
def readVariable? (cs : List Char) : Option (String × String) :=
  match cs.dropWhile (· ≠ '=') with
  | _ :: value => some (String.ofList (cs.takeWhile (· ≠ '=')), String.ofList value)
  | [] => none

/-- Reads signals to the end of the input. -/
partial def readSignals (input : IO.FS.Stream) : IO (List Signal) := do
  let line ← input.getLine
  if line.isEmpty then return []
  return (readSignal? line).toList ++ (← readSignals input)

/-- What the process finds. -/
def observe (arguments : List String) : IO Situation := do
  let files ← (namedFiles arguments).filterMapM readFile?
  let environment := ((← readFile? environmentFile).map (·.2)).getD ""
  let signals ← match Command.ofArguments arguments with
    | .run _ => readSignals (← IO.getStdin)
    | _ => pure []
  return ⟨arguments, files, (Text.splitAt '\x00' environment.toList).filterMap readVariable?,
    signals⟩

/-- Writes down what a run leaves. -/
def report (o : Outcome) : IO UInt32 := do
  IO.print o.printed
  for e in o.journal do
    IO.println (e.line "main" o.json)
  if let some complaint := o.complaint then IO.eprintln complaint
  return match o.ending with
    | .exited code => UInt32.ofNat code
    | .killed s => UInt32.ofNat (128 + s.number)
    | .unfinished => 0

end TaskMessaging.Node

def main (arguments : List String) : IO UInt32 := do
  TaskMessaging.Node.report (TaskMessaging.Node.run (← TaskMessaging.Node.observe arguments))
