import TaskMessaging.Json.Value
import TaskMessaging.Text.Hex

/-!
# JSON tokens

A text is cut into tokens by a machine that reads one character at a time. The machine's state
is the token that is being read, so cutting a concatenation is running on: what a text means
never depends on how far a reader looks ahead. Blanks end a token and are dropped.
-/

namespace TaskMessaging.Json

/-- A token of JSON text. -/
inductive Token where
  | openObject
  | closeObject
  | openArray
  | closeArray
  | comma
  | colon
  | null
  | bool (b : Bool)
  | number (n : Number)
  /-- A string; `none` if an escape in it is half a surrogate pair. -/
  | string (text : Option String)
deriving DecidableEq

/-! ## Numerals -/

namespace Number

/-- An optional sign and at least one digit. -/
def readExponent? : List Char → Option Int
  | '+' :: cs => (Decimal.read? cs).map Int.ofNat
  | '-' :: cs => (Decimal.read? cs).map fun n ↦ -Int.ofNat n
  | cs => (Decimal.read? cs).map Int.ofNat

/-- What stands behind the digits: nothing or an exponent. -/
def readTail? (negative : Bool) (mantissa places : Nat) (plain : Bool) :
    List Char → Option Number
  | [] => some ⟨negative, mantissa, -Int.ofNat places, plain⟩
  | c :: cs =>
    if c = 'e' ∨ c = 'E' then
      (readExponent? cs).map fun e ↦ ⟨negative, mantissa, e - Int.ofNat places, false⟩
    else none

/-- A numeral without its sign: digits that do not start with a needless zero, then perhaps a
fraction of at least one digit, then perhaps an exponent. -/
def readUnsigned? (negative : Bool) (cs : List Char) : Option Number :=
  let whole := cs.takeWhile Decimal.isDigit
  if whole = [] ∨ (whole.head? = some '0' ∧ 1 < whole.length) then none
  else
    match cs.dropWhile Decimal.isDigit with
    | '.' :: rest =>
      let places := rest.takeWhile Decimal.isDigit
      if places = [] then none
      else
        readTail? negative (Decimal.value (whole ++ places)) places.length false
          (rest.dropWhile Decimal.isDigit)
    | rest => readTail? negative (Decimal.value whole) 0 true rest

/-- Reads a whole numeral. -/
def read? : List Char → Option Number
  | '-' :: cs => readUnsigned? true cs
  | cs => readUnsigned? false cs

end Number

/-! ## The machine -/

/-- What the machine is in the middle of. Characters already read stand in reverse. -/
inductive Scanning where
  | between
  | word (read : List Char)
  | number (read : List Char)
  /-- Inside a string; `paired` says that no lone surrogate was met, `high` holds the first half
  of a pair whose second half has to follow at once. -/
  | string (read : List Char) (paired : Bool) (high : Option Nat)
  /-- Behind a backslash. -/
  | escape (read : List Char) (paired : Bool) (high : Option Nat)
  /-- Behind `\u`: how many hexadecimal digits are missing, and the value of those read. -/
  | code (read : List Char) (paired : Bool) (high : Option Nat) (missing value : Nat)

/-- The machine: the tokens read so far in reverse, and the one being read. -/
structure Scanner where
  done : List Token
  now : Scanning

namespace Scanner

def start : Scanner := ⟨[], .between⟩

def emit (s : Scanner) (t : Token) : Scanner := ⟨t :: s.done, .between⟩

def isBlank (c : Char) : Bool := c = ' ' || c = '\t' || c = '\n' || c = '\r'

def isNumeral (c : Char) : Bool :=
  Decimal.isDigit c || c = '-' || c = '+' || c = '.' || c = 'e' || c = 'E'

def isLetter (c : Char) : Bool := 97 ≤ c.toNat && c.toNat ≤ 122

/-- The three words of JSON. -/
def word? : List Char → Option Token
  | ['n', 'u', 'l', 'l'] => some .null
  | ['t', 'r', 'u', 'e'] => some (.bool true)
  | ['f', 'a', 'l', 's', 'e'] => some (.bool false)
  | _ => none

/-- Ends a word or a numeral; the ends of strings are their quotes. -/
def finish (s : Scanner) : Option Scanner :=
  match s.now with
  | .between => some s
  | .word cs => (word? cs.reverse).map s.emit
  | .number cs => (Number.read? cs.reverse).map fun n ↦ s.emit (.number n)
  | _ => none

/-- A character that starts a token, is a token of its own, or is a blank. -/
def begin? (s : Scanner) (c : Char) : Option Scanner :=
  if isBlank c then some s
  else if c = '\x7b' then some (s.emit .openObject)
  else if c = '\x7d' then some (s.emit .closeObject)
  else if c = '[' then some (s.emit .openArray)
  else if c = ']' then some (s.emit .closeArray)
  else if c = ',' then some (s.emit .comma)
  else if c = ':' then some (s.emit .colon)
  else if c = '"' then some ⟨s.done, .string [] true none⟩
  else if Decimal.isDigit c || c = '-' then some ⟨s.done, .number [c]⟩
  else if isLetter c then some ⟨s.done, .word [c]⟩
  else none

/-- The one-letter escapes. -/
def escaped? (c : Char) : Option Char :=
  if c = '"' then some '"'
  else if c = '\\' then some '\\'
  else if c = '/' then some '/'
  else if c = 'b' then some '\x08'
  else if c = 'f' then some '\x0c'
  else if c = 'n' then some '\n'
  else if c = 'r' then some '\r'
  else if c = 't' then some '\t'
  else none

/-- A code unit from an escape: half of a pair waits for the other half. -/
def unit (done : List Token) (read : List Char) (paired : Bool) (high : Option Nat)
    (u : Nat) : Scanner :=
  if 0xD800 ≤ u ∧ u < 0xDC00 then ⟨done, .string read (paired && high.isNone) (some u)⟩
  else if 0xDC00 ≤ u ∧ u < 0xE000 then
    match high with
    | some h =>
      ⟨done,
        .string (Char.ofNat (0x10000 + (h - 0xD800) * 0x400 + (u - 0xDC00)) :: read) paired none⟩
    | none => ⟨done, .string read false none⟩
  else ⟨done, .string (Char.ofNat u :: read) (paired && high.isNone) none⟩

/-- Reads one character. -/
def step (s : Scanner) (c : Char) : Option Scanner :=
  match s.now with
  | .between => s.begin? c
  | .word cs =>
    if isLetter c then some ⟨s.done, .word (c :: cs)⟩ else s.finish.bind (·.begin? c)
  | .number cs =>
    if isNumeral c then some ⟨s.done, .number (c :: cs)⟩ else s.finish.bind (·.begin? c)
  | .string cs paired high =>
    if c = '"' then
      some (s.emit
        (.string (if paired && high.isNone then some (String.ofList cs.reverse) else none)))
    else if c = '\\' then some ⟨s.done, .escape cs paired high⟩
    else if c.toNat < 32 then none
    else some ⟨s.done, .string (c :: cs) (paired && high.isNone) none⟩
  | .escape cs paired high =>
    if c = 'u' then some ⟨s.done, .code cs paired high 4 0⟩
    else (escaped? c).map fun e ↦ ⟨s.done, .string (e :: cs) (paired && high.isNone) none⟩
  | .code cs paired high missing value =>
    (Text.Hex.value? c).map fun d ↦
      if missing ≤ 1 then unit s.done cs paired high (16 * value + d)
      else ⟨s.done, .code cs paired high (missing - 1) (16 * value + d)⟩

end Scanner

/-- The tokens of a text. -/
def Token.scan? (cs : List Char) : Option (List Token) :=
  (cs.foldlM Scanner.step Scanner.start).bind fun s ↦ s.finish.map (·.done.reverse)

end TaskMessaging.Json
