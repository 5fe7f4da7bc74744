/-!
# Between the lexemes of TOML

Blanks, comments and line ends, and the characters that may stand in a line at all.
-/

namespace TaskMessaging.Toml

/-- Blanks and tabs. -/
def isBlank (c : Char) : Bool := c = ' ' || c = '\t'

/-- Any character but a control; the tab counts as none. -/
def isLineChar (c : Char) : Bool := c = '\t' || (32 ≤ c.toNat && c.toNat ≠ 127)

/-- Drops blanks. -/
def skipBlanks (cs : List Char) : List Char := cs.dropWhile isBlank

/-- Drops a line end: a line feed, perhaps behind a carriage return. -/
def lineEnd? : List Char → Option (List Char)
  | '\n' :: cs => some cs
  | '\r' :: '\n' :: cs => some cs
  | _ => none

/-- Drops what may follow in the same line: blanks, a comment, and the end of the line or of the
text. -/
def restOfLine? (cs : List Char) : Option (List Char) :=
  let rest := match skipBlanks cs with
    | '#' :: comment => comment.dropWhile isLineChar
    | rest => rest
  match rest with
  | [] => some []
  | rest => lineEnd? rest

/-- Drops blanks, line ends and comments, given whether a comment has begun. -/
def skipVoid : Bool → List Char → List Char
  | _, [] => []
  | comment, c :: cs =>
    if c = '\n' then skipVoid false cs
    else if c = '\r' && cs.head? = some '\n' then skipVoid false cs
    else if comment then if isLineChar c then skipVoid true cs else c :: cs
    else if isBlank c then skipVoid false cs
    else if c = '#' then skipVoid true cs
    else c :: cs

/-- Drops blanks and line ends. -/
def skipSpace : List Char → List Char
  | [] => []
  | c :: cs =>
    if c = '\n' || isBlank c then skipSpace cs
    else if c = '\r' && cs.head? = some '\n' then skipSpace cs
    else c :: cs

/-! ## Laws -/

theorem length_skipSpace_le (cs : List Char) : (skipSpace cs).length ≤ cs.length := by
  induction cs with
  | nil => simp [skipSpace]
  | cons c cs ih =>
    unfold skipSpace
    split
    · exact Nat.le_succ_of_le ih
    · split
      · exact Nat.le_succ_of_le ih
      · exact Nat.le_refl _

end TaskMessaging.Toml
