import TaskMessaging.Json.Render
import TaskMessaging.Log

/-!
# Log lines

How an entry of a journal is written: as one JSON object, or as text with the fields behind the
message. The time is left to whoever writes the lines.
-/

namespace TaskMessaging.Log

/-- The field as a JSON value. -/
def Field.toJson : Field → Json.Value
  | .int n => .number ⟨n < 0, n.natAbs, 0, true⟩
  | .bool b => .bool b
  | .text s => .text s

def Field.plain : Field → String
  | .int n => Decimal.intText n
  | .bool b => if b then "true" else "false"
  | .text s => s

namespace Entry

/-- The fields as the members of one object. -/
def fieldsJson (e : Entry) : Json.Value :=
  .object (e.fields.map fun (name, f) ↦ (name, f.toJson))

/-- The entry as an object; the message is the first of its fields. -/
def toJson (e : Entry) (thread : String) : Json.Value :=
  .object [("level", .text e.level.text),
    ("fields", .object (("message", .text e.message) :: e.fields.map fun (name, f) ↦
      (name, f.toJson))),
    ("target", .text e.target), ("threadName", .text thread)]

/-- The entry as text. -/
def text (e : Entry) (thread : String) : String :=
  e.level.text ++ " " ++ thread ++ " " ++ e.target ++ ": " ++ e.message ++
    String.join (e.fields.map fun (name, f) ↦ " " ++ name ++ "=" ++ f.plain)

/-- The line of an entry. -/
def line (e : Entry) (thread : String) (json : Bool) : String :=
  if json then (e.toJson thread).toText else e.text thread

end Entry

end TaskMessaging.Log
