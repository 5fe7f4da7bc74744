import TaskMessaging.Decimal

/-!
# Binary floating point numbers of 64 bits

The magnitude of a finite number is kept as a count of the smallest positive one, `2 ^ -1074`, so
all arithmetic on it is arithmetic of natural numbers. A count is a number of the format if it
has at most 53 significant bits and lies below the overflow bound.

Decimals are read as the nearest number, a tie going to the one whose last bit is zero, and are
written with the fewest digits that read back, always positionally.
-/

namespace TaskMessaging

/-- A number of the format. -/
inductive Binary64 where
  | nan
  | infinite (negative : Bool)
  /-- `units * 2 ^ -1074`, negated if `negative`; zero has a sign as well. -/
  | finite (negative : Bool) (units : Nat)
deriving DecidableEq

namespace Binary64

/-- One in units. -/
def one : Nat := Nat.pow 2 1074

/-- The first magnitude in units that is too large for the format. -/
def overflow : Nat := Nat.pow 2 2098

/-- The distance in units between a magnitude and the next larger one. -/
def spacing (units : Nat) : Nat := Nat.pow 2 (Nat.log2 units - 52)

/-! ## Rounding -/

/-- The quotient of two numbers, rounded to the nearest one, a tie to the even one. -/
def divRound (num den : Nat) : Nat :=
  let quotient := num / den
  let twice := 2 * (num % den)
  if twice < den ∨ (twice = den ∧ quotient % 2 = 0) then quotient else quotient + 1

/-- The number of the format that is nearest to a quotient. -/
def ofQuotient (negative : Bool) (num den : Nat) : Binary64 :=
  let step := spacing (num * one / den)
  let units := divRound (num * one) (den * step) * step
  if overflow ≤ units then .infinite negative else .finite negative units

/-- The number nearest to `mantissa * 10 ^ exponent`. Exponents that leave no doubt about the
outcome are not raised to. -/
def ofDecimal (negative : Bool) (mantissa : Nat) (exponent : Int) : Binary64 :=
  let magnitude := exponent + (Decimal.digits mantissa).length
  if mantissa = 0 ∨ magnitude < -330 then .finite negative 0
  else if 330 < magnitude then .infinite negative
  else if exponent < 0 then ofQuotient negative mantissa (Nat.pow 10 exponent.natAbs)
  else ofQuotient negative (mantissa * Nat.pow 10 exponent.natAbs) 1

/-! ## Reading -/

/-- An optional sign and at least one digit. -/
def readExponent? : List Char → Option Int
  | '+' :: cs => (Decimal.read? cs).map Int.ofNat
  | '-' :: cs => (Decimal.read? cs).map fun n ↦ -Int.ofNat n
  | cs => (Decimal.read? cs).map Int.ofNat

/-- Digits with perhaps a point among them, then perhaps an exponent. One digit has to be there,
on either side of the point. -/
def readMagnitude? (negative : Bool) (cs : List Char) : Option Binary64 :=
  let whole := cs.takeWhile Decimal.isDigit
  let rest := cs.dropWhile Decimal.isDigit
  let places := if rest.head? = some '.' then (rest.drop 1).takeWhile Decimal.isDigit else []
  let rest := if rest.head? = some '.' then (rest.drop 1).dropWhile Decimal.isDigit else rest
  if whole = [] ∧ places = [] then none
  else
    let number (e : Int) := ofDecimal negative (Decimal.value (whole ++ places)) (e - places.length)
    match rest with
    | [] => some (number 0)
    | c :: cs => if c = 'e' ∨ c = 'E' then (readExponent? cs).map number else none

/-- The words for what is no finite number, in any case of their letters. -/
def readWord? (negative : Bool) (cs : List Char) : Option Binary64 :=
  match String.ofList (cs.map Char.toLower) with
  | "inf" | "infinity" => some (.infinite negative)
  | "nan" => some .nan
  | _ => none

/-- Reads a number that may have a sign. -/
def read? : List Char → Option Binary64
  | '-' :: cs => (readMagnitude? true cs).or (readWord? true cs)
  | '+' :: cs => (readMagnitude? false cs).or (readWord? false cs)
  | cs => (readMagnitude? false cs).or (readWord? false cs)

/-! ## Conversions -/

/-- Not zero, of either sign. -/
def isNonzero : Binary64 → Bool
  | .finite _ units => units != 0
  | _ => true

/-- The nearest natural number below 2^64, a half going up. Negative numbers and what is no number
give zero. -/
def toUInt64 : Binary64 → UInt64
  | .nan => 0
  | .infinite negative => if negative then 0 else UInt64.ofNat (Word.count 64 - 1)
  | .finite negative units =>
    if negative then 0 else UInt64.ofNat (min ((2 * units + one) / (2 * one)) (Word.count 64 - 1))

/-! ## Writing -/

/-- A decimal reads as the number of the given units. Numerator and denominator are those of the
decimal. -/
def readsBack (units num den : Nat) : Bool :=
  let up := 2 * spacing units
  let down := if units = Nat.pow 2 (Nat.log2 units) ∧ 1 < spacing units then spacing units else up
  let low := (4 * units - down) * den
  let high := (4 * units + up) * den
  let x := 4 * num * one
  if units / spacing units % 2 = 0 then low ≤ x && x ≤ high else low < x && x < high

/-- A positive number of digits with a decimal exponent: `digits * 10 ^ exponent`. -/
structure Digits where
  digits : Nat
  exponent : Int

/-- Of the two neighbours on the grid of multiples of `10 ^ exponent`, the nearest one that reads
back. -/
def onGrid? (units : Nat) (exponent : Int) : Option Digits :=
  let up := if exponent < 0 then 1 else Nat.pow 10 exponent.natAbs
  let down := if exponent < 0 then Nat.pow 10 exponent.natAbs else 1
  let below := units * down / (one * up)
  let upper := (2 * below + 1) * (one * up)
  let nearest := if 2 * (units * down) < upper then [below, below + 1]
    else if 2 * (units * down) = upper ∧ below % 2 = 0 then [below, below + 1]
    else [below + 1, below]
  (nearest.find? fun d ↦ readsBack units (d * up) down).map fun d ↦ ⟨d, exponent⟩

/-- The decimal exponent of the first digit of a magnitude that is not zero. -/
def leading (units : Nat) : Int :=
  if one ≤ units then (Decimal.digits (units / one)).length - 1
  else -(((List.range 330).find? fun j ↦ one ≤ units * Nat.pow 10 j).getD 330 : Nat)

/-- Moves a final zero into the exponent. Only ten, the upper neighbour of nine, has one. -/
def Digits.trim (d : Digits) : Digits :=
  if d.digits % 10 = 0 then ⟨d.digits / 10, d.exponent + 1⟩ else d

/-- The fewest digits that read back. Seventeen always do. -/
def shortest (units : Nat) : Digits :=
  ((List.range 17).findSome? fun (k : Nat) ↦ onGrid? units (leading units - k)).elim
    ⟨units, 0⟩ (·.trim)

/-- Digits with zeros and a point where the exponent asks for them. -/
def Digits.positional (d : Digits) : List Char :=
  let cs := Decimal.digits d.digits
  if 0 ≤ d.exponent then cs ++ List.replicate d.exponent.natAbs '0'
  else
    let places := d.exponent.natAbs
    let padded := List.replicate (places + 1 - cs.length) '0' ++ cs
    padded.take (padded.length - places) ++ '.' :: padded.drop (padded.length - places)

/-- A number in positional notation. -/
def text : Binary64 → String
  | .nan => "NaN"
  | .infinite negative => if negative then "-inf" else "inf"
  | .finite negative units =>
    String.ofList ((if negative then ['-'] else []) ++
      (if units = 0 then ['0'] else (shortest units).positional))

/-! ## Laws -/

/-- Rounding is off by half a unit at most. -/
theorem divRound_near (num : Nat) {den : Nat} (h : 0 < den) :
    2 * num ≤ (2 * divRound num den + 1) * den ∧ 2 * (divRound num den * den) ≤ 2 * num + den := by
  have hdiv := Nat.div_add_mod num den
  have hmod := Nat.mod_lt num h
  simp only [divRound]
  generalize hq : num / den = q at *
  generalize hr : num % den = r at *
  have hc : den * q = q * den := Nat.mul_comm _ _
  split
  · constructor
    · have : (2 * q + 1) * den = 2 * (q * den) + den := by
        rw [Nat.add_mul, Nat.mul_assoc, Nat.one_mul]
      omega
    · omega
  · constructor
    · have : (2 * (q + 1) + 1) * den = 2 * (q * den) + 3 * den := by
        rw [show 2 * (q + 1) + 1 = 2 * q + 3 by omega, Nat.add_mul, Nat.mul_assoc]
      omega
    · have : 2 * ((q + 1) * den) = 2 * (q * den) + 2 * den := by
        rw [Nat.add_mul, Nat.one_mul]; omega
      omega

/-- A quotient without a remainder is not rounded. -/
theorem divRound_mul (n : Nat) {den : Nat} (h : 0 < den) : divRound (n * den) den = n := by
  simp [divRound, Nat.mul_div_cancel n h, h]

end Binary64

end TaskMessaging
