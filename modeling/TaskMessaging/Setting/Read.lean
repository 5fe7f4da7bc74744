import TaskMessaging.Setting.Basic

/-!
# Typed readings of settings

Sources of configuration often know texts only, so a setting is read as the type that is asked for
whenever that makes sense: words stand for truth values, texts for numbers, and numbers for texts.
-/

namespace TaskMessaging.Setting

/-- The words for yes and no. -/
def word? (s : String) : Option Bool :=
  match Text.lower s with
  | "true" | "on" | "yes" => some true
  | "false" | "off" | "no" => some false
  | _ => none

/-- A natural number, perhaps with a plus sign. -/
def natural? : List Char → Option Nat
  | '+' :: cs => Decimal.read? cs
  | cs => Decimal.read? cs

/-- A natural number of 64 bits. Fractions are rounded, and what exceeds the range is cut to it. -/
def uint64? : Setting → Option UInt64
  | .bool b => some (if b then 1 else 0)
  | .int n => if 0 ≤ n ∧ n < Word.count 64 then some (UInt64.ofNat n.toNat) else none
  | .float x => some x.toUInt64
  | .text s =>
    match word? s with
    | some b => some (if b then 1 else 0)
    | none => ((natural? s.toList).filter (· < Word.count 64)).map UInt64.ofNat
  | _ => none

/-- A natural number of 16 bits. -/
def uint16? (s : Setting) : Option UInt16 :=
  (s.uint64?.filter fun n ↦ n.toNat < Word.count 16).map fun n ↦ UInt16.ofNat n.toNat

/-- A truth value. Numbers are true unless they are zero. -/
def bool? : Setting → Option Bool
  | .bool b => some b
  | .int n => some (n != 0)
  | .float x => some x.isNonzero
  | .text s => if s = "1" then some true else if s = "0" then some false else word? s
  | _ => none

/-- A text. -/
def text? : Setting → Option String
  | .bool b => some (if b then "true" else "false")
  | .int n => some (Decimal.intText n)
  | .float x => some x.text
  | .text s => some s
  | _ => none

def elements? : Setting → Option (List Setting)
  | .list xs => some xs
  | _ => none

/-- The value of each field of a record, if it was given: a table by names, or a list by places.
What the record has no field for is skipped. -/
def fields? (names : List String) : Setting → Option (List (Option Setting))
  | .table es => some (names.map fun n ↦ es.lookup n)
  | .list xs => some ((List.range names.length).map fun i ↦ xs[i]?)
  | _ => none

/-- The case of an enumeration: a text, or a table with one entry, whose value does not matter. -/
def caseName? : Setting → Option String
  | .text s => some (Text.lower s)
  | .table [(name, _)] => some (Text.lower name)
  | _ => none

end TaskMessaging.Setting
