import TaskMessaging.Text.Hex
import TaskMessaging.Toml.Blank

/-!
# TOML strings

Four kinds: between quotes with escapes, between apostrophes as it stands, and either of them over
several lines between tripled marks. Line ends inside are read as line feeds, and one right behind
the opening mark is dropped. The closing mark may follow up to two quotes that belong to the text.
-/

namespace TaskMessaging.Toml

/-! ## Escapes -/

/-- The value of hexadecimal digits. -/
def hexNumber? (cs : List Char) : Option Nat :=
  cs.foldlM (fun n c ↦ (Text.Hex.value? c).map (16 * n + ·)) 0

/-- The character with a code point; half of a surrogate pair is none. -/
def codePoint? (n : Nat) : Option Char := if n.isValidChar then some (Char.ofNat n) else none

/-- The character that is written by the characters behind a backslash, and what follows. -/
def escape? : List Char → Option (Char × List Char)
  | 'b' :: cs => some ('\x08', cs)
  | 't' :: cs => some ('\t', cs)
  | 'n' :: cs => some ('\n', cs)
  | 'f' :: cs => some ('\x0c', cs)
  | 'r' :: cs => some ('\r', cs)
  | '"' :: cs => some ('"', cs)
  | '\\' :: cs => some ('\\', cs)
  | 'u' :: a :: b :: c :: d :: cs =>
    ((hexNumber? [a, b, c, d]).bind codePoint?).map (·, cs)
  | 'U' :: a :: b :: c :: d :: e :: f :: g :: h :: cs =>
    ((hexNumber? [a, b, c, d, e, f, g, h]).bind codePoint?).map (·, cs)
  | _ => none

theorem length_escape?_lt {cs rest : List Char} {c : Char} (h : escape? cs = some (c, rest)) :
    rest.length < cs.length := by
  unfold escape? at h
  split at h
  all_goals first
    | cases h; simp
    | (obtain ⟨_, _, hc⟩ := Option.map_eq_some_iff.1 h; cases hc
       simp only [List.length_cons]; omega)
    | cases h

/-! ## In one line -/

/-- The text up to the closing quote, given the characters read so far in reverse. -/
def readBasic? (cs read : List Char) : Option (String × List Char) :=
  match cs with
  | [] => none
  | '"' :: rest => some (String.ofList read.reverse, rest)
  | '\\' :: rest =>
    match _h : escape? rest with
    | some (c, rest') => readBasic? rest' (c :: read)
    | none => none
  | c :: rest => if isLineChar c then readBasic? rest (c :: read) else none
termination_by cs.length
decreasing_by
  · have := length_escape?_lt ‹escape? rest = _›; simp only [List.length_cons]; omega
  · simp

/-- The text up to the closing apostrophe. -/
def readLiteral? (cs : List Char) : Option (String × List Char) :=
  match cs.dropWhile fun c ↦ isLineChar c && c ≠ '\'' with
  | '\'' :: rest => some (String.ofList (cs.takeWhile fun c ↦ isLineChar c && c ≠ '\''), rest)
  | _ => none

/-! ## Over several lines -/

/-- What a run of marks means in a text over several lines: fewer than three belong to the text;
three close it, behind up to two that belong to it. -/
def closing? (mark : Char) (cs : List Char) : Option (List Char × List Char) :=
  let run := (cs.takeWhile (· = mark)).length
  if run < 3 then none
  else some (List.replicate (min (run - 3) 2) mark, cs.drop (3 + min (run - 3) 2))

/-- The text up to the closing quotes. A backslash at the end of a line drops all space up to the
next character. -/
def readLines? (cs read : List Char) : Option (String × List Char) :=
  match cs with
  | [] => none
  | '\r' :: '\n' :: rest => readLines? rest ('\n' :: read)
  | '\\' :: rest =>
    match lineEnd? (skipBlanks rest) with
    | some _ => readLines? (skipSpace rest) read
    | none =>
      match _h : escape? rest with
      | some (c, rest') => readLines? rest' (c :: read)
      | none => none
  | c :: rest =>
    if c = '"' then
      match closing? '"' (c :: rest) with
      | some (more, rest) => some (String.ofList (read.reverse ++ more), rest)
      | none => readLines? rest (c :: read)
    else if c = '\n' ∨ isLineChar c then readLines? rest (c :: read)
    else none
termination_by cs.length
decreasing_by
  · simp only [List.length_cons]; omega
  · have := length_skipSpace_le rest; simp only [List.length_cons]; omega
  · have := length_escape?_lt ‹escape? rest = _›; simp only [List.length_cons]; omega
  · simp
  · simp

/-- The text up to the closing apostrophes. -/
def readLiteralLines? : List Char → List Char → Option (String × List Char)
  | [], _ => none
  | '\r' :: '\n' :: rest, read => readLiteralLines? rest ('\n' :: read)
  | c :: rest, read =>
    if c = '\'' then
      match closing? '\'' (c :: rest) with
      | some (more, rest) => some (String.ofList (read.reverse ++ more), rest)
      | none => readLiteralLines? rest (c :: read)
    else if c = '\n' ∨ isLineChar c then readLiteralLines? rest (c :: read)
    else none

/-! ## All kinds -/

/-- A string in one line, of either kind. -/
def readLineString? : List Char → Option (String × List Char)
  | '"' :: cs => readBasic? cs []
  | '\'' :: cs => readLiteral? cs
  | _ => none

/-- A string of any kind. -/
def readString? : List Char → Option (String × List Char)
  | '"' :: '"' :: '"' :: cs => readLines? ((lineEnd? cs).getD cs) []
  | '\'' :: '\'' :: '\'' :: cs => readLiteralLines? ((lineEnd? cs).getD cs) []
  | cs => readLineString? cs

end TaskMessaging.Toml
