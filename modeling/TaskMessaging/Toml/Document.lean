import TaskMessaging.Toml.Value

/-!
# TOML documents

A document is read line by line: a line is empty, a header, or a key with its value. Values go
into the table whose header was last.
-/

namespace TaskMessaging

namespace Toml

/-- A header behind its first bracket: the names, whether its brackets are double, and what follows
its line. -/
def readHeader? (cs : List Char) : Option (List String × Bool × List Char) := do
  match cs with
  | '[' :: cs =>
    match ← readKey? levelLimit cs with
    | (names, ']' :: ']' :: rest) => return (names, true, ← restOfLine? rest)
    | _ => none
  | cs =>
    match ← readKey? levelLimit cs with
    | (names, ']' :: rest) => return (names, false, ← restOfLine? rest)
    | _ => none

/-- A key with its value, and what follows its line. -/
def readAssignment? (cs : List Char) : Option (List String × Setting × List Char) := do
  match ← readKey? levelLimit cs with
  | (names, '=' :: rest) =>
    let (v, rest) ← readValue? (2 * cs.length) levelLimit (skipBlanks rest)
    return (names, v, ← restOfLine? rest)
  | _ => none

/-- The table that a header opens. -/
def openTable? (names : List String) (double : Bool) (root : Entries) : Option Entries :=
  names.getLast?.bind fun name ↦
    root.within? (if double then Entries.extend? name else Entries.define? name) names.dropLast

/-- Reads lines. The number bounds how many, `current` names the table whose header was last. -/
def readLinesInto? : Nat → List String → Entries → List Char → Option Entries
  | _, _, root, [] => some root
  | 0, _, _, _ => none
  | fuel + 1, current, root, cs =>
    match skipBlanks cs with
    | '[' :: rest => do
      let (names, double, rest) ← readHeader? rest
      readLinesInto? fuel names (← openTable? names double root) rest
    | c :: rest =>
      if c = '#' ∨ c = '\n' ∨ c = '\r' then
        (restOfLine? (c :: rest)).bind fun rest ↦ readLinesInto? fuel current root rest
      else do
        let (names, v, rest) ← readAssignment? (c :: rest)
        let root ← root.within? (Entries.insert? v names true .header) current
        readLinesInto? fuel current root rest
    | [] => some root

end Toml

/-- The table that a TOML document describes. -/
def Setting.ofToml? (text : String) : Option Setting :=
  (Toml.readLinesInto? (text.length + 1) [] [] text.toList).map fun es ↦
    .table (Toml.entrySettings es)

end TaskMessaging
