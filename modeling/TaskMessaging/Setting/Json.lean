import TaskMessaging.Json.Parse
import TaskMessaging.Setting.Basic

/-!
# Settings in JSON

A JSON text whose numbers are taken as integers of 64 bits where they are written and fit as such,
and as floating point numbers otherwise. A repeated name keeps its last value.
-/

namespace TaskMessaging.Setting

/-- An integer, or a finite floating point number. -/
def ofNumber? (n : Json.Number) : Option Setting :=
  let value : Int := if n.negative then -n.mantissa else n.mantissa
  if n.plain ∧ ¬(n.negative ∧ n.mantissa = 0) ∧ Word.isInt64 value then
    some (.int value)
  else
    match Binary64.ofDecimal n.negative n.mantissa n.exponent with
    | .finite negative units => some (.float (.finite negative units))
    | _ => none

mutual

/-- The setting that a JSON value describes. -/
def ofJson? : Json.Value → Option Setting
  | .null => some .absent
  | .bool b => some (.bool b)
  | .number n => ofNumber? n
  | .text s => some (.text s)
  | .unpaired => none
  | .array xs => (ofElements? xs).map .list
  | .object ms => (ofMembers? ms empty).map fun es ↦ .table es.entries

def ofElements? : List Json.Value → Option (List Setting)
  | [] => some []
  | v :: vs => do return (← ofJson? v) :: (← ofElements? vs)

/-- Adds members to a table. -/
def ofMembers? : List (String × Json.Value) → Setting → Option Setting
  | [], t => some t
  | (name, v) :: ms, t => do ofMembers? ms (.table (setEntry name (← ofJson? v) t.entries))

end

/-- Values nested deeper than this are refused. -/
def nestingLimit : Nat := 127

/-- The table that a JSON text describes. -/
def ofJsonText? (text : String) : Option Setting := do
  let v ← Json.Value.parse? text
  if nestingLimit < v.depth then none
  else
    match ← ofJson? v with
    | .table es => some (.table es)
    | _ => none

end TaskMessaging.Setting
