import TaskMessaging.Config.Reader
import TaskMessaging.Config.SourceFile
import TaskMessaging.Setting.Path
import TaskMessaging.Setting.Read

/-!
# Loading a configuration

A file lies over the defaults, and the environment over the file. Variables whose names begin with
`ITTI_` are read, without regard to case; two underscores in the rest of the name stand for a
point.
-/

namespace TaskMessaging.Config

/-! ## Environment -/

/-- What the names of the variables begin with, in lower case. -/
def variableMark : List Char := ['i', 't', 't', 'i', '_']

/-- Two underscores become a point. -/
def pointed : List Char → List Char
  | '_' :: '_' :: cs => '.' :: pointed cs
  | c :: cs => c :: pointed cs
  | [] => []

/-- The name of the setting that a variable stands for. -/
def settingName? (varName : String) : Option String :=
  let name := (Text.lower varName).toList
  if name.take variableMark.length = variableMark then
    some (String.ofList (pointed (name.drop variableMark.length)))
  else none

/-- The text of a variable as a truth value, an integer of 64 bits, a floating point number, or
else as a text. -/
def ofVariable (text : String) : Setting :=
  match Text.lower text with
  | "true" => .bool true
  | "false" => .bool false
  | _ =>
    match Decimal.readInt64? text.toList with
    | some n => .int n
    | none =>
      match Binary64.read? text.toList with
      | some x => .float x
      | none => .text text

/-- The settings in the environment, in its order. -/
def environmentSettings (environment : List (String × String)) : List (Path × Setting) :=
  environment.filterMap fun (varName, text) ↦
    (settingName? varName).map fun name ↦ (Path.ofName name, ofVariable text)

/-! ## Configurations -/

/-- Reads settings, converting where that makes sense. -/
def settingReader : Reader Setting where
  fields? := Setting.fields?
  elements? := Setting.elements?
  uint16? := Setting.uint16?
  uint64? := Setting.uint64?
  bool? := Setting.bool?
  text? := Setting.text?
  policy? := fun s ↦ s.caseName?.bind FatalPolicy.ofName?

/-- The configuration that settings describe. -/
def ofSetting? (s : Setting) : Option Config := read? settingReader s

/-- Why a configuration could not be loaded. -/
inductive LoadError where
  /-- The file cannot be read, or not be understood. -/
  | build
  /-- A path leads to before the start of a list. Nothing recovers from that. -/
  | position
  /-- A value cannot be read as the type that it should have. -/
  | deserialize
  | invalid (cause : Invalid)
deriving DecidableEq

/-- The name of the step that failed. -/
def LoadError.name : LoadError → String
  | .build | .position => "build"
  | .deserialize => "deserialize"
  | .invalid _ => "validate"

/-- The outermost message. -/
def LoadError.message : LoadError → String
  | .build => "Failed to build configuration"
  | .position => "A negative index leads to before the start of a list"
  | .deserialize => "Failed to deserialize configuration"
  | .invalid cause => cause.message

/-- The settings of a file by their paths. -/
def fileSettings (s : Setting) : List (Path × Setting) :=
  s.entries.map fun (name, v) ↦ (Path.ofName name, v)

/-- All sources laid over one another. -/
def layers (file : Option SourceFile) (environment : List (String × String)) :
    Except LoadError Setting := do
  let fromFile ← match file with
    | none => pure []
    | some f => match f.settings? with
      | none => throw .build
      | some s => pure (fileSettings s)
  match Setting.empty.assignAll? (fromFile ++ environmentSettings environment) with
  | none => throw .position
  | some s => return s

/-- The configuration before it is validated. -/
def loadUnchecked (file : Option SourceFile) (environment : List (String × String)) :
    Except LoadError Config := do
  match ofSetting? (← layers file environment) with
  | none => throw .deserialize
  | some c => return c

/-- Loads a configuration that can be run. -/
def load (file : Option SourceFile) (environment : List (String × String)) :
    Except LoadError Config := do
  let c ← loadUnchecked file environment
  match c.invalid? with
  | some e => throw (.invalid e)
  | none => return c

end TaskMessaging.Config
