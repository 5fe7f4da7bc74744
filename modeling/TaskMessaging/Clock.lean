import TaskMessaging.Decimal

/-!
# Durations and instants

Time is counted in whole nanoseconds. A duration is any length of time that fits 64 bits of
seconds; an instant is a reading of the monotonic clock, whose seconds fit 63 bits. Adding a
duration to an instant therefore may fail, and nothing else about time does.
-/

namespace TaskMessaging

/-- A length of time. -/
structure Duration where
  nanoseconds : Nat
deriving DecidableEq

/-- A reading of the monotonic clock. -/
structure Instant where
  nanoseconds : Nat
deriving DecidableEq

instance : Inhabited Instant := ⟨⟨0⟩⟩

namespace Duration

def perSecond : Nat := 1000000000

def ofParts (seconds nanoseconds : Nat) : Duration := ⟨seconds * perSecond + nanoseconds⟩

def ofMilliseconds (n : Nat) : Duration := ⟨n * 1000000⟩

def isZero (d : Duration) : Bool := d.nanoseconds == 0

def milliseconds (d : Duration) : Nat := d.nanoseconds / 1000000

/-- The digits behind the point: `width` of them, without the zeros at the end. -/
def fraction (width part : Nat) : List Char :=
  let padded := List.replicate (width - (Decimal.digits part).length) '0' ++ Decimal.digits part
  let kept := (padded.reverse.dropWhile (· == '0')).reverse
  if kept = [] then [] else '.' :: kept

/-- A number of units of `10 ^ width` nanoseconds, exactly. -/
def inUnit (d : Duration) (width : Nat) (unit : String) : String :=
  String.ofList (Decimal.digits (d.nanoseconds / Nat.pow 10 width) ++
    fraction width (d.nanoseconds % Nat.pow 10 width)) ++ unit

/-- The largest unit of which there is at least one, and an exact decimal number of it. -/
def text (d : Duration) : String :=
  if perSecond ≤ d.nanoseconds then d.inUnit 9 "s"
  else if 1000000 ≤ d.nanoseconds then d.inUnit 6 "ms"
  else if 1000 ≤ d.nanoseconds then d.inUnit 3 "µs"
  else d.inUnit 0 "ns"

end Duration

namespace Instant

/-- Instants lie below this many nanoseconds: 2^63 seconds. -/
def bound : Nat := Word.count 63 * Duration.perSecond

/-- The instant a duration later, if the clock can show it. -/
def add? (t : Instant) (d : Duration) : Option Instant :=
  if t.nanoseconds + d.nanoseconds < bound then some ⟨t.nanoseconds + d.nanoseconds⟩ else none

instance : LE Instant := ⟨fun a b ↦ a.nanoseconds ≤ b.nanoseconds⟩
instance : LT Instant := ⟨fun a b ↦ a.nanoseconds < b.nanoseconds⟩
instance (a b : Instant) : Decidable (a ≤ b) := Nat.decLe a.nanoseconds b.nanoseconds
instance (a b : Instant) : Decidable (a < b) := Nat.decLt a.nanoseconds b.nanoseconds

theorem le_def {a b : Instant} : a ≤ b ↔ a.nanoseconds ≤ b.nanoseconds := Iff.rfl
theorem lt_def {a b : Instant} : a < b ↔ a.nanoseconds < b.nanoseconds := Iff.rfl

theorem add?_eq_some {t u : Instant} {d : Duration} :
    t.add? d = some u ↔
      t.nanoseconds + d.nanoseconds < bound ∧ u = ⟨t.nanoseconds + d.nanoseconds⟩ := by
  unfold add?
  split
  · simp_all [eq_comm]
  · simp only [reduceCtorEq, false_iff, not_and]
    intro h
    contradiction

end Instant

end TaskMessaging
