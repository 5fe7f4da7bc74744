import TaskMessaging.Setting.Basic

/-!
# Paths

A name with points and subscripts leads into nested tables and lists: `pools[0].item_size`. What a
path leads through is created where it is missing, and what is in its way is replaced.
-/

namespace TaskMessaging

/-- One step into a nested value. -/
inductive Step where
  | entry (name : String)
  /-- A position in a list; a negative one counts from the end. -/
  | element (index : Int)
deriving DecidableEq

namespace Step

/-- The characters of names in paths. -/
def isNameChar (c : Char) : Bool :=
  c.isAlphanum || c = '_' || c = '-' || c = ' '

/-- A minus sign or none, and digits. -/
def readIndex? : List Char → Option Int
  | '-' :: cs => (Decimal.read? cs).map fun n ↦ -Int.ofNat n
  | cs => (Decimal.read? cs).map Int.ofNat

/-- The position that an index means in a list of a given length. -/
def position? (index : Int) (length : Nat) : Option Nat :=
  if 0 ≤ index then some index.toNat
  else if index.natAbs ≤ length then some (length - index.natAbs)
  else none

end Step

/-- The steps to a value, the first one from the root. -/
abbrev Path := List Step

namespace Path

/-- The steps behind the first: names behind points and indices in brackets. The number bounds how
many there may be. -/
def readSteps? : Nat → List Char → Option Path
  | _, [] => some []
  | fuel + 1, '.' :: cs =>
    let name := cs.takeWhile Step.isNameChar
    if name = [] then none
    else (readSteps? fuel (cs.dropWhile Step.isNameChar)).map (.entry (String.ofList name) :: ·)
  | fuel + 1, '[' :: cs =>
    match cs.dropWhile (· ≠ ']') with
    | [] => none
    | _ :: rest => do
      let index ← Step.readIndex? (cs.takeWhile (· ≠ ']'))
      return .element index :: (← readSteps? fuel rest)
  | _, _ => none

/-- A path that starts with a name. -/
def read? (cs : List Char) : Option Path :=
  let name := cs.takeWhile Step.isNameChar
  if name = [] then none
  else
    (readSteps? cs.length (cs.dropWhile Step.isNameChar)).map (.entry (String.ofList name) :: ·)

/-- The path that a name means; a name that is no path means itself. -/
def ofName (name : String) : Path := (read? name.toList).getD [.entry name]

end Path

namespace Setting

/-- Lays a value over what a path leads to. There is none if a negative index leads to before the
start of a list. Only the last name of a path is taken in lower case. -/
def assign? (root value : Setting) : Path → Option Setting
  | [] => some value
  | [.entry name] => some (root.put name value)
  | .entry name :: path => do
    let inner ← assign? ((root.get? name).getD .absent) value path
    return .table (setEntry name inner root.entries)
  | .element index :: path => do
    let position ← Step.position? index root.elements.length
    let inner ← assign? (root.elements[position]?.getD .absent) value path
    return .list (setElement root.elements position inner)

/-- Lays values over a root, in turn. -/
def assignAll? (root : Setting) : List (Path × Setting) → Option Setting
  | [] => some root
  | (path, v) :: rest => (root.assign? v path).bind fun r ↦ assignAll? r rest

end Setting

end TaskMessaging
