import TaskMessaging.Decimal

/-!
# TOML dates and times

A date, a time, or both with a letter or a blank between them and perhaps an offset behind. They
are settings of no type of their own: what is kept is their text in one form, with a `T` between
date and time and without zeros at the end of a fraction.
-/

namespace TaskMessaging.Toml

/-- A number of exactly two digits within bounds. -/
def readTwo? (low high : Nat) (a b : Char) : Option Nat :=
  (Decimal.read? [a, b]).filter fun n ↦ low ≤ n && n ≤ high

/-- A number in at least two digits. -/
def twoDigits (n : Nat) : List Char := (if n < 10 then ['0'] else []) ++ Decimal.digits n

/-- The days of a month. -/
def daysOf (year month : Nat) : Nat :=
  if month = 2 then
    if year % 4 = 0 ∧ (year % 100 ≠ 0 ∨ year % 400 = 0) then 29 else 28
  else if month = 4 ∨ month = 6 ∨ month = 9 ∨ month = 11 then 30
  else 31

/-- Year, month and day at the front, and what follows. -/
def readDate? : List Char → Option (List Char × List Char)
  | y₁ :: y₂ :: y₃ :: y₄ :: '-' :: m₁ :: m₂ :: '-' :: d₁ :: d₂ :: rest => do
    let year ← Decimal.read? [y₁, y₂, y₃, y₄]
    let month ← readTwo? 1 12 m₁ m₂
    let _ ← readTwo? 1 (daysOf year month) d₁ d₂
    return ([y₁, y₂, y₃, y₄, '-', m₁, m₂, '-', d₁, d₂], rest)
  | _ => none

/-- The fraction of a second to the nanosecond; further digits are dropped. -/
def fractionText (digits : List Char) : List Char :=
  let kept := ((digits.take 9).reverse.dropWhile (· = '0')).reverse
  if kept = [] then [] else '.' :: kept

/-- Hour, minute and second at the front with perhaps a fraction, and what follows. A minute may
have a leap second. -/
def readTime? : List Char → Option (List Char × List Char)
  | h₁ :: h₂ :: ':' :: m₁ :: m₂ :: ':' :: s₁ :: s₂ :: rest => do
    let _ ← readTwo? 0 23 h₁ h₂
    let _ ← readTwo? 0 59 m₁ m₂
    let _ ← readTwo? 0 60 s₁ s₂
    let time := [h₁, h₂, ':', m₁, m₂, ':', s₁, s₂]
    match rest with
    | '.' :: rest =>
      let digits := rest.takeWhile Decimal.isDigit
      if digits = [] then none
      else some (time ++ fractionText digits, rest.dropWhile Decimal.isDigit)
    | rest => some (time, rest)
  | _ => none

/-- A whole offset, or none. An offset of zero is not negative. -/
def readOffset? : List Char → Option (List Char)
  | [] => some []
  | ['Z'] => some ['Z']
  | ['z'] => some ['Z']
  | [sign, h₁, h₂, ':', m₁, m₂] => do
    let hours ← readTwo? 0 23 h₁ h₂
    let minutes ← readTwo? 0 59 m₁ m₂
    let shown := if sign = '-' ∧ hours + minutes ≠ 0 then '-' else '+'
    if sign = '+' ∨ sign = '-' then
      some (shown :: twoDigits hours ++ ':' :: twoDigits minutes)
    else none
  | _ => none

/-- A whole time with perhaps an offset. -/
def readZonedTime? (cs : List Char) : Option (List Char) := do
  let (time, rest) ← readTime? cs
  return time ++ (← readOffset? rest)

/-- A whole date, time, or date and time without a blank between them. -/
def readMoment? (cs : List Char) : Option (List Char) :=
  match readDate? cs with
  | some (date, []) => some date
  | some (date, c :: rest) =>
    if c = 'T' ∨ c = 't' then (readZonedTime? rest).map fun time ↦ date ++ 'T' :: time else none
  | none =>
    match readTime? cs with
    | some (time, []) => some time
    | _ => none

end TaskMessaging.Toml
