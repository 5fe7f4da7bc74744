import TaskMessaging.Decimal

/-!
# JSON values

A value keeps what a reader may still want to refuse: the members of an object stay in the order
in which they were written, repeated names included, and a number stays the decimal numeral it
was, so that `1`, `1.0` and `1e0` can be told apart.
-/

namespace TaskMessaging.Json

/-- A numeral: `mantissa * 10 ^ exponent`, negated if `negative`. -/
structure Number where
  /-- The numeral has a minus sign; `-0` is not `0`. -/
  negative : Bool
  mantissa : Nat
  exponent : Int
  /-- Written with neither a fraction nor an exponent. -/
  plain : Bool
deriving DecidableEq

/-- The numeral that is written with the digits of `n` alone. -/
def Number.ofNat (n : Nat) : Number := ⟨false, n, 0, true⟩

/-- The number that a plain numeral without a sign stands for. -/
def Number.natural? (n : Number) : Option Nat :=
  if n.plain && !n.negative then some n.mantissa else none

@[simp] theorem Number.natural?_ofNat (n : Nat) : (Number.ofNat n).natural? = some n := rfl

/-- A JSON value. -/
inductive Value where
  | null
  | bool (b : Bool)
  | number (n : Number)
  | text (s : String)
  /-- A string with the escape of half a surrogate pair: legal to write, but no text. -/
  | unpaired
  | array (elements : List Value)
  | object (members : List (String × Value))

instance : Inhabited Value := ⟨.null⟩

namespace Value

/-- A natural number. -/
def nat (n : Nat) : Value := .number (.ofNat n)

/-- A number that is a natural number below `bound`, written as digits alone. -/
def natBelow? (bound : Nat) : Value → Option Nat
  | .number n => n.natural?.filter (· < bound)
  | _ => none

def uint16? (v : Value) : Option UInt16 := (v.natBelow? (Word.count 16)).map UInt16.ofNat

def uint64? (v : Value) : Option UInt64 := (v.natBelow? (Word.count 64)).map UInt64.ofNat

def bool? : Value → Option Bool
  | .bool b => some b
  | _ => none

def text? : Value → Option String
  | .text s => some s
  | _ => none

def elements? : Value → Option (List Value)
  | .array xs => some xs
  | _ => none

/-! ## Records

A record is an object or, equally, the array of its fields in their declared order. -/

/-- How often a name occurs among the members. -/
def occurrences (name : String) (members : List (String × Value)) : Nat :=
  members.countP (·.1 == name)

/-- The value of each declared field, if it was given. Other members are skipped, a declared one
may not be repeated, and an array may have fewer elements than the record has fields but not
more. -/
def fields? (names : List String) : Value → Option (List (Option Value))
  | .object ms =>
    if names.all fun n ↦ occurrences n ms ≤ 1 then some (names.map fun n ↦ ms.lookup n) else none
  | .array xs =>
    if xs.length ≤ names.length then
      some ((List.range names.length).map fun i ↦ xs[i]?)
    else none
  | _ => none

/-! ## Nesting -/

mutual

/-- How many arrays and objects lie inside one another. -/
def depth : Value → Nat
  | .array xs => depthArray xs + 1
  | .object ms => depthObject ms + 1
  | _ => 0

/-- The deepest of the elements. -/
def depthArray : List Value → Nat
  | [] => 0
  | v :: vs => max (depth v) (depthArray vs)

/-- The deepest of the members. -/
def depthObject : List (String × Value) → Nat
  | [] => 0
  | (_, v) :: ms => max (depth v) (depthObject ms)

end

mutual

/-- Every string in the value, names included, is a text. -/
def isText : Value → Bool
  | .unpaired => false
  | .array xs => isTextArray xs
  | .object ms => isTextObject ms
  | _ => true

def isTextArray : List Value → Bool
  | [] => true
  | v :: vs => isText v && isTextArray vs

def isTextObject : List (String × Value) → Bool
  | [] => true
  | (_, v) :: ms => isText v && isTextObject ms

end

end Value

end TaskMessaging.Json
