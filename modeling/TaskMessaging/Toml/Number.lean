import TaskMessaging.Setting.Basic
import TaskMessaging.Text.Hex

/-!
# TOML numbers

Digits may be set apart by single underscores. Integers have 64 bits and a sign and may be written
to base 16, 8 or 2; decimal ones have no leading zeros, and neither have floating point numbers.
-/

namespace TaskMessaging.Toml

/-- The digits of a nonempty string of digits in which single underscores may stand between two of
them. -/
def ungrouped? (isDigit : Char → Bool) : List Char → Option (List Char)
  | [] => none
  | [c] => if isDigit c then some [c] else none
  | c :: '_' :: cs => if isDigit c then (ungrouped? isDigit cs).map (c :: ·) else none
  | c :: cs => if isDigit c then (ungrouped? isDigit cs).map (c :: ·) else none

/-- Decimal digits without a leading zero. -/
def leadingDigits? (cs : List Char) : Option (List Char) :=
  (ungrouped? Decimal.isDigit cs).filter fun ds ↦ ds.length = 1 || ds.head? != some '0'

/-- A number of 64 bits with a sign. -/
def word? (n : Int) : Option Int := if Word.isInt64 n then some n else none

/-- A natural number to some base. -/
def readBased? (base : Nat) (cs : List Char) : Option Nat :=
  let isDigit (c : Char) : Bool := match Text.Hex.value? c with
    | some d => d < base
    | none => false
  (ungrouped? isDigit cs).map fun ds ↦
    ds.foldl (fun n c ↦ base * n + (Text.Hex.value? c).getD 0) 0

/-- The sign of a number and what follows; without a sign it is positive. -/
def readSign : List Char → Bool × List Char
  | '-' :: cs => (true, cs)
  | '+' :: cs => (false, cs)
  | cs => (false, cs)

/-- A number with a sign. -/
def signed (negative : Bool) (n : Nat) : Int := if negative then -n else n

/-- Reads a whole integer. Only decimal ones may have a sign. -/
def readInt? : List Char → Option Int
  | '0' :: 'x' :: cs => (readBased? 16 cs).bind fun n ↦ word? n
  | '0' :: 'o' :: cs => (readBased? 8 cs).bind fun n ↦ word? n
  | '0' :: 'b' :: cs => (readBased? 2 cs).bind fun n ↦ word? n
  | cs =>
    let (negative, cs) := readSign cs
    (leadingDigits? cs).bind fun ds ↦ word? (signed negative (Decimal.value ds))

/-- Marks the exponent of a floating point number. -/
def isExponentMark (c : Char) : Bool := c = 'e' || c = 'E'

/-- The exponent behind its mark; nothing stands for zero. -/
def readExponent? : List Char → Option Int
  | [] => some 0
  | _ :: cs =>
    let (negative, cs) := readSign cs
    (ungrouped? Decimal.isDigit cs).map fun ds ↦ signed negative (Decimal.value ds)

/-- A magnitude with a fraction or an exponent or both. -/
def readMagnitude? (negative : Bool) (cs : List Char) : Option Binary64 := do
  let mantissa := cs.takeWhile fun c ↦ !isExponentMark c
  let exponent ← readExponent? (cs.dropWhile fun c ↦ !isExponentMark c)
  let whole ← leadingDigits? (mantissa.takeWhile (· ≠ '.'))
  match mantissa.dropWhile (· ≠ '.') with
  | _ :: fraction =>
    let places ← ungrouped? Decimal.isDigit fraction
    return .ofDecimal negative (Decimal.value (whole ++ places)) (exponent - places.length)
  | [] =>
    if mantissa.length < cs.length then
      return .ofDecimal negative (Decimal.value whole) exponent
    else none

/-- Reads a whole floating point number. A magnitude too large for a positive number is refused. -/
def readFloat? (cs : List Char) : Option Binary64 :=
  let (negative, rest) := readSign cs
  if rest = ['i', 'n', 'f'] then some (.infinite negative)
  else if rest = ['n', 'a', 'n'] then some .nan
  else (readMagnitude? negative rest).filter (· ≠ .infinite false)

/-- Reads a whole number. -/
def readNumber? (cs : List Char) : Option Setting :=
  ((readInt? cs).map .int).or ((readFloat? cs).map .float)

end TaskMessaging.Toml
