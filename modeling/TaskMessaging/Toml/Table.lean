import TaskMessaging.Setting.Basic

/-!
# TOML tables while they are built

A table comes about by its own header, by a header that passes through it, or by a dotted key.
Which of these it was decides what may still be added: a header defines a table once, and a dotted
key adds only to tables that dotted keys made.
-/

namespace TaskMessaging.Toml

/-- How a table came about. -/
inductive Origin where
  /-- By a header of its own, as the root, or between braces. -/
  | header
  /-- By a longer header that passes through it. -/
  | passage
  /-- By a dotted key. -/
  | dotted
deriving DecidableEq

/-- What stands under a name. -/
inductive Node where
  | value (v : Setting)
  | table (origin : Origin) (entries : List (String × Node))
  /-- Tables whose headers have double brackets. -/
  | tables (elements : List (List (String × Node)))

/-- The entries of a table; a name occurs at most once. -/
abbrev Entries := List (String × Node)

namespace Entries

/-- Replaces what stands under a name, or adds an entry. -/
def set (name : String) (n : Node) : Entries → Entries
  | [] => [(name, n)]
  | (m, w) :: es => if m = name then (m, n) :: es else (m, w) :: set name n es

/-- Changes the last table of several. -/
def updateLast? (f : Entries → Option Entries) (elements : List Entries) : Option (List Entries) :=
  elements.getLast?.bind fun t ↦ (f t).map fun t ↦ elements.dropLast ++ [t]

/-- Adds a value under a dotted key. `direct` says that no step was taken yet, `origin` is that of
the table reached so far. -/
def insert? (v : Setting) : List String → Bool → Origin → Entries → Option Entries
  | [], _, _, _ => none
  | [name], direct, origin, es =>
    if (direct ∨ origin = .dotted) ∧ (es.lookup name).isNone then
      some (es ++ [(name, Node.value v)])
    else none
  | name :: rest, _, _, es =>
    match es.lookup name with
    | none =>
      (insert? v rest false .dotted []).map fun inner ↦ es ++ [(name, .table .dotted inner)]
    | some (.table origin inner) =>
      if origin = .header then none
      else (insert? v rest false origin inner).map fun inner ↦ es.set name (.table origin inner)
    | some (.tables elements) =>
      (updateLast? (insert? v rest false .header) elements).map fun ts ↦ es.set name (.tables ts)
    | some (.value _) => none

/-- Changes the table that names lead to. A table that is missing on the way is a passage; of
several tables the last one is meant. -/
def within? (f : Entries → Option Entries) : List String → Entries → Option Entries
  | [], es => f es
  | name :: rest, es =>
    match es.lookup name with
    | none => (within? f rest []).map fun inner ↦ es ++ [(name, .table .passage inner)]
    | some (.table origin inner) =>
      (within? f rest inner).map fun inner ↦ es.set name (.table origin inner)
    | some (.tables elements) =>
      (updateLast? (within? f rest) elements).map fun ts ↦ es.set name (.tables ts)
    | some (.value _) => none

/-- Defines a table. One that was merely passed through may be defined once. -/
def define? (name : String) (es : Entries) : Option Entries :=
  match es.lookup name with
  | none => some (es ++ [(name, .table .header [])])
  | some (.table .passage inner) => some (es.set name (.table .header inner))
  | _ => none

/-- Adds a table to several. -/
def extend? (name : String) (es : Entries) : Option Entries :=
  match es.lookup name with
  | none => some (es ++ [(name, .tables [[]])])
  | some (.tables elements) => some (es.set name (.tables (elements ++ [[]])))
  | _ => none

end Entries

/-! ## Finished tables -/

mutual

/-- What stands under a name, as a setting. -/
def Node.setting : Node → Setting
  | .value v => v
  | .table _ es => .table (entrySettings es)
  | .tables ts => .list (tableSettings ts)

def entrySettings : List (String × Node) → List (String × Setting)
  | [] => []
  | (name, n) :: es => (name, n.setting) :: entrySettings es

def tableSettings : List (List (String × Node)) → List Setting
  | [] => []
  | es :: ts => .table (entrySettings es) :: tableSettings ts

end

end TaskMessaging.Toml
