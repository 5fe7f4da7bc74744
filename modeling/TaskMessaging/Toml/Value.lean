import TaskMessaging.Toml.Moment
import TaskMessaging.Toml.Number
import TaskMessaging.Toml.Quoted
import TaskMessaging.Toml.Table

/-!
# TOML keys and values

Keys are one or more names with points between them. Values are strings, words, numbers, moments,
arrays, which may extend over several lines, and tables between braces, which may not.
-/

namespace TaskMessaging.Toml

/-- As many levels of arrays and tables between braces may lie in one another, and as many names
may stand in a key. -/
def levelLimit : Nat := 79

/-! ## Keys -/

/-- The characters of a name without quotes. -/
def isBareChar (c : Char) : Bool := c.isAlphanum || c = '_' || c = '-'

/-- One name. -/
def readName? (cs : List Char) : Option (String × List Char) :=
  if cs.head? = some '"' ∨ cs.head? = some '\'' then readLineString? cs
  else
    let name := cs.takeWhile isBareChar
    if name = [] then none else some (String.ofList name, cs.dropWhile isBareChar)

/-- Names with points between them and blanks around them. The number bounds how many. -/
def readKey? : Nat → List Char → Option (List String × List Char)
  | 0, _ => none
  | limit + 1, cs => do
    let (name, rest) ← readName? (skipBlanks cs)
    match skipBlanks rest with
    | '.' :: rest =>
      let (names, rest) ← readKey? limit rest
      return (name :: names, rest)
    | rest => return ([name], rest)

/-! ## Words, numbers and moments -/

/-- The characters of values that are no strings, arrays or tables. -/
def isScalarChar (c : Char) : Bool :=
  c.isAlphanum || c = '+' || c = '-' || c = '_' || c = '.' || c = ':'

/-- The value of a whole word. -/
def ofScalar? (cs : List Char) : Option Setting :=
  if cs = ['t', 'r', 'u', 'e'] then some (.bool true)
  else if cs = ['f', 'a', 'l', 's', 'e'] then some (.bool false)
  else ((readMoment? cs).map fun m ↦ .text (String.ofList m)).or (readNumber? cs)

/-- A value up to the next character that cannot belong to it. A date may be followed by a blank
and a time. -/
def readScalar? (cs : List Char) : Option (Setting × List Char) :=
  let word := cs.takeWhile isScalarChar
  let rest := cs.dropWhile isScalarChar
  match readDate? word, rest with
  | some (date, []), ' ' :: more =>
    match readZonedTime? (more.takeWhile isScalarChar) with
    | some time => some (.text (String.ofList (date ++ 'T' :: time)), more.dropWhile isScalarChar)
    | none => (ofScalar? word).map (·, rest)
  | _, _ => (ofScalar? word).map (·, rest)

/-! ## All values -/

mutual

/-- A value, and what follows it. The first number bounds the steps, the second one the levels. -/
def readValue? : Nat → Nat → List Char → Option (Setting × List Char)
  | 0, _, _ => none
  | fuel + 1, level, cs =>
    match cs, level with
    | '[' :: rest, level + 1 =>
      (readElements? fuel level (skipVoid false rest)).map fun (xs, rest) ↦ (.list xs, rest)
    | '\x7b' :: rest, level + 1 =>
      match skipBlanks rest with
      | '\x7d' :: rest => some (.empty, rest)
      | rest => (readEntries? fuel level rest []).map fun (es, rest) ↦
          (.table (entrySettings es), rest)
    | cs, _ =>
      if cs.head? = some '"' ∨ cs.head? = some '\'' then
        (readString? cs).map fun (s, rest) ↦ (.text s, rest)
      else readScalar? cs

/-- Elements up to the closing bracket. A comma may follow the last one. -/
def readElements? : Nat → Nat → List Char → Option (List Setting × List Char)
  | 0, _, _ => none
  | _ + 1, _, ']' :: rest => some ([], rest)
  | fuel + 1, level, cs => do
    let (v, rest) ← readValue? fuel level cs
    match skipVoid false rest with
    | ',' :: rest =>
      let (vs, rest) ← readElements? fuel level (skipVoid false rest)
      return (v :: vs, rest)
    | ']' :: rest => return ([v], rest)
    | _ => none

/-- Entries up to the closing brace, added to those before. -/
def readEntries? : Nat → Nat → List Char → Entries → Option (Entries × List Char)
  | 0, _, _, _ => none
  | fuel + 1, level, cs, es => do
    match ← readKey? levelLimit cs with
    | (names, '=' :: rest) =>
      let (v, rest) ← readValue? fuel level (skipBlanks rest)
      let es ← Entries.insert? v names true .header es
      match skipBlanks rest with
      | ',' :: rest => readEntries? fuel level rest es
      | '\x7d' :: rest => return (es, rest)
      | _ => none
    | _ => none

end

end TaskMessaging.Toml
