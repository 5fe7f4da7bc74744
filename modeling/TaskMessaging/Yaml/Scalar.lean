import TaskMessaging.Setting.Basic
import TaskMessaging.Text.Hex
import TaskMessaging.Toml.Quoted

/-!
# YAML scalars

A scalar stands between quotes, or it is plain: then it ends where a comment, the value behind a
colon or, between brackets, the next mark begins, and its characters say of what kind it is.
-/

namespace TaskMessaging.Yaml

open Toml (isBlank skipBlanks)

/-! ## Kinds of plain scalars -/

/-- Digits of a base above their mark, below 2^63. -/
def readBased? : List Char → Option Int
  | '0' :: 'x' :: cs => (natural? 16 cs).map Int.ofNat
  | '0' :: 'o' :: cs => (natural? 8 cs).map Int.ofNat
  | _ => none
where
  /-- A number of at least one digit. -/
  natural? (base : Nat) (cs : List Char) : Option Nat :=
    if cs = [] then none
    else (cs.foldlM (fun n c ↦ ((Text.Hex.value? c).filter (· < base)).map (base * n + ·)) 0).filter
      (· < Word.count 63)

/-- Words for numbers that have no digits; they are recognized, but stand for no setting. -/
def isSpecialNumber (cs : List Char) : Bool :=
  let unsigned := match cs with
    | '+' :: ds => ds
    | '-' :: ds => ds
    | ds => ds
  [".inf", ".Inf", ".INF"].contains (String.ofList unsigned) ||
    [".nan", ".NAN"].contains (String.ofList cs)

/-- The value of a plain scalar. -/
def ofPlain? (cs : List Char) : Option Setting :=
  let word := String.ofList cs
  if cs = [] ∨ word = "~" ∨ word = "null" then some .absent
  else if word = "true" then some (.bool true)
  else if word = "false" then some (.bool false)
  else if isSpecialNumber cs then none
  else
    match (readBased? cs).or (Decimal.readInt64? cs) with
    | some n => some (.int n)
    | none =>
      match Binary64.read? cs with
      | some x => some (.float x)
      | none => some (.text word)

/-! ## Extent -/

/-- A plain scalar ends before these characters, given the character before them and whether it
stands between brackets. -/
def endsPlain (inFlow : Bool) (before : Char) : List Char → Bool
  | [] => true
  | ':' :: cs =>
    match cs with
    | [] => true
    | c :: _ => isBlank c || (inFlow && [',', '[', ']', '\x7b', '\x7d'].contains c)
  | '#' :: _ => isBlank before
  | c :: _ => inFlow && [',', '[', ']', '\x7b', '\x7d'].contains c

/-- The characters of a plain scalar, and what follows it. -/
def splitPlain (inFlow : Bool) (before : Char) : List Char → List Char × List Char
  | [] => ([], [])
  | c :: cs =>
    if endsPlain inFlow before (c :: cs) then ([], c :: cs)
    else (c :: (splitPlain inFlow c cs).1, (splitPlain inFlow c cs).2)

/-- Nothing is lost where a plain scalar is split off. -/
theorem splitPlain_append (inFlow : Bool) (before : Char) (cs : List Char) :
    (splitPlain inFlow before cs).1 ++ (splitPlain inFlow before cs).2 = cs := by
  induction cs generalizing before with
  | nil => rfl
  | cons c cs ih =>
    unfold splitPlain
    split
    · rfl
    · simp [ih]

/-- Without the blanks at its end. -/
def trimEnd (cs : List Char) : List Char := (cs.reverse.dropWhile isBlank).reverse

/-- No plain scalar begins with a mark. -/
def beginsPlain : List Char → Bool
  | [] => true
  | c :: cs =>
    if ['-', '?', ':'].contains c then cs.head?.any fun d ↦ !isBlank d
    else !(c = '\'' || c = '"' || c = '\x7b' || c = '\x7d' || ",[]#&*!|>%@`".toList.contains c)

/-! ## Quoted scalars -/

/-- The character that is written by the characters behind a backslash, and what follows. -/
def escape? : List Char → Option (Char × List Char)
  | '0' :: cs => some ('\x00', cs)
  | 'a' :: cs => some ('\x07', cs)
  | 'v' :: cs => some ('\x0b', cs)
  | 'e' :: cs => some ('\x1b', cs)
  | ' ' :: cs => some (' ', cs)
  | '/' :: cs => some ('/', cs)
  | 'x' :: a :: b :: cs => ((Toml.hexNumber? [a, b]).bind Toml.codePoint?).map (·, cs)
  | cs => Toml.escape? cs

/-- The text up to the closing quote. The number bounds the characters. -/
def readDouble? : Nat → List Char → Option (List Char × List Char)
  | 0, _ => none
  | _ + 1, [] => none
  | _ + 1, '"' :: rest => some ([], rest)
  | fuel + 1, '\\' :: rest => do
    let (c, rest) ← escape? rest
    let (cs, rest) ← readDouble? fuel rest
    return (c :: cs, rest)
  | fuel + 1, c :: rest => (readDouble? fuel rest).map fun (cs, rest) ↦ (c :: cs, rest)

/-- The text up to the closing apostrophe; one that is doubled belongs to the text. -/
def readSingle? : List Char → Option (List Char × List Char)
  | [] => none
  | '\'' :: '\'' :: rest => (readSingle? rest).map fun (cs, rest) ↦ ('\'' :: cs, rest)
  | '\'' :: rest => some ([], rest)
  | c :: rest => (readSingle? rest).map fun (cs, rest) ↦ (c :: cs, rest)

/-- A scalar of any kind, and what follows it. -/
def readScalar? (inFlow : Bool) (cs : List Char) : Option (Setting × List Char) :=
  match cs with
  | '"' :: rest =>
    (readDouble? cs.length rest).map fun (s, rest) ↦ (.text (String.ofList s), rest)
  | '\'' :: rest => (readSingle? rest).map fun (s, rest) ↦ (.text (String.ofList s), rest)
  | cs =>
    if beginsPlain cs then
      let (word, rest) := splitPlain inFlow ' ' cs
      (ofPlain? (trimEnd word)).map (·, rest)
    else none

/-- The name that a scalar gives to an entry. -/
def name? : Setting → Option String
  | .text s => some s
  | .int n => some (Decimal.intText n)
  | _ => none

/-- A name with the colon behind it, and what follows. -/
def readName? (inFlow : Bool) (cs : List Char) : Option (String × List Char) := do
  let (s, rest) ← readScalar? inFlow cs
  match skipBlanks rest with
  | ':' :: rest =>
    if inFlow || rest.head?.all isBlank then return (← name? s, skipBlanks rest) else none
  | _ => none

end TaskMessaging.Yaml
