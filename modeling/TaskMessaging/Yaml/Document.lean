import TaskMessaging.Text.Split
import TaskMessaging.Yaml.Scalar

/-!
# YAML documents

The part of YAML that configurations are written in: tables and lists by indentation or, in one
line, between brackets, and scalars in one line. Anchors, tags and texts over several lines are
refused.
-/

namespace TaskMessaging

namespace Yaml

open Toml (isBlank skipBlanks)

/-! ## Lines -/

/-- A line that says something. -/
structure Line where
  indent : Nat
  /-- Without the indentation and the blanks at the end. -/
  text : List Char
deriving DecidableEq

/-- The line of a text, unless it is empty or a comment. -/
def Line.ofText? (cs : List Char) : Option Line :=
  let text := trimEnd ((cs.dropWhile (· = ' ')).filter (· ≠ '\r'))
  if text = [] ∨ text.head? = some '#' then none
  else some ⟨(cs.takeWhile (· = ' ')).length, text⟩

/-- An element of a list begins here. -/
def Line.isElement (l : Line) : Bool :=
  match l.text with
  | '-' :: cs => cs.head?.all isBlank
  | _ => false

/-- A document begins or ends here. -/
def Line.isMark (l : Line) : Bool :=
  l.indent = 0 && (l.text.take 3 = ['-', '-', '-'] || l.text.take 3 = ['.', '.', '.'])

/-! ## Values in one line -/

mutual

/-- A value, and what follows it. The number bounds the steps. -/
def readValue? : Nat → Bool → List Char → Option (Setting × List Char)
  | 0, _, _ => none
  | fuel + 1, _, '[' :: rest =>
    (readElements? fuel (skipBlanks rest)).map fun (xs, rest) ↦ (.list xs, rest)
  | fuel + 1, _, '\x7b' :: rest =>
    (readEntries? fuel (skipBlanks rest) []).map fun (es, rest) ↦ (.table es, rest)
  | _ + 1, inFlow, cs => readScalar? inFlow cs

/-- Elements up to the closing bracket. -/
def readElements? : Nat → List Char → Option (List Setting × List Char)
  | 0, _ => none
  | _ + 1, ']' :: rest => some ([], rest)
  | fuel + 1, cs => do
    let (v, rest) ← readValue? fuel true cs
    match skipBlanks rest with
    | ',' :: rest =>
      let (vs, rest) ← readElements? fuel (skipBlanks rest)
      return (v :: vs, rest)
    | ']' :: rest => return ([v], rest)
    | _ => none

/-- Entries up to the closing brace, added to those before. -/
def readEntries? : Nat → List Char → List (String × Setting) →
    Option (List (String × Setting) × List Char)
  | 0, _, _ => none
  | _ + 1, '\x7d' :: rest, es => some (es, rest)
  | fuel + 1, cs, es => do
    let (name, rest) ← readName? true cs
    let (v, rest) ← readValue? fuel true rest
    let es := Setting.setEntry name v es
    match skipBlanks rest with
    | ',' :: rest => readEntries? fuel (skipBlanks rest) es
    | '\x7d' :: rest => return (es, rest)
    | _ => none

end

/-- A value with nothing behind it but a comment. -/
def ofInline? (cs : List Char) : Option Setting := do
  let (v, rest) ← readValue? (2 * cs.length + 2) false cs
  match skipBlanks rest with
  | [] => return v
  | '#' :: _ => return v
  | _ => none

/-- Nothing stands here but perhaps a comment. -/
def isVoid (cs : List Char) : Bool := cs.head?.all (· = '#')

/-! ## Values over lines -/

mutual

/-- The value in the lines that are indented at least so far, and the lines behind it. -/
def readBlock? : Nat → Nat → List Line → Option (Setting × List Line)
  | 0, _, _ => none
  | _ + 1, _, [] => some (.absent, [])
  | fuel + 1, least, l :: ls =>
    if l.indent < least then some (.absent, l :: ls)
    else if l.isElement then
      (readItems? fuel l.indent (l :: ls)).map fun (xs, ls) ↦ (.list xs, ls)
    else if (readName? false l.text).isSome then
      (readFields? fuel l.indent (l :: ls) []).map fun (es, ls) ↦ (.table es, ls)
    else (ofInline? l.text).map (·, ls)

/-- The elements of a list at one indentation. -/
def readItems? : Nat → Nat → List Line → Option (List Setting × List Line)
  | 0, _, _ => none
  | _ + 1, _, [] => some ([], [])
  | fuel + 1, indent, l :: ls =>
    if l.indent = indent ∧ l.isElement then do
      let behind := l.text.drop 1
      let text := skipBlanks behind
      let ls := if isVoid text then ls
        else ⟨indent + 1 + (behind.length - text.length), text⟩ :: ls
      let (v, ls) ← readBlock? fuel (indent + 1) ls
      let (vs, ls) ← readItems? fuel indent ls
      return (v :: vs, ls)
    else if indent < l.indent then none
    else some ([], l :: ls)

/-- The entries of a table at one indentation, added to those before. A list may stand at the
indentation of its name. -/
def readFields? : Nat → Nat → List Line → List (String × Setting) →
    Option (List (String × Setting) × List Line)
  | 0, _, _, _ => none
  | _ + 1, _, [], es => some (es, [])
  | fuel + 1, indent, l :: ls, es =>
    if indent < l.indent then none
    else if l.indent < indent then some (es, l :: ls)
    else do
      let (name, text) ← readName? false l.text
      let (v, ls) ←
        if isVoid text then
          let least := if ls.head?.any fun m ↦ m.isElement && m.indent == indent then indent
            else indent + 1
          readBlock? fuel least ls
        else (ofInline? text).map (·, ls)
      readFields? fuel indent ls (Setting.setEntry name v es)

end

/-- The lines of the only document. No line is indented by tabs. -/
def documentLines? (text : String) : Option (List Line) :=
  let lines := (Text.splitAt '\n' text.toList).filterMap Line.ofText?
  let lines := match lines with
    | l :: ls => if l.isMark && l.text.length = 3 then ls else l :: ls
    | [] => []
  if lines.any fun l ↦ l.isMark || l.text.head? = some '\t' then none else some lines

end Yaml

/-- The table that a YAML document describes. -/
def Setting.ofYaml? (text : String) : Option Setting := do
  let lines ← Yaml.documentLines? text
  if lines.isEmpty then some .empty
  else
    match ← Yaml.readBlock? (2 * text.length + 2) 0 lines with
    | (.table es, []) => some (.table es)
    | _ => none

end TaskMessaging
