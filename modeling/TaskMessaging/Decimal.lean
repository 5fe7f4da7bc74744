import TaskMessaging.Word

/-!
# Decimal numerals

Numbers as digit strings, written most significant digit first and without leading zeros, and
read back by Horner's rule. Everything runs on `List Char`: formats that carry numbers (JSON,
environment texts, messages) only choose what stands around the digits.
-/

namespace TaskMessaging.Decimal

/-- The character of a digit below ten. -/
def digitChar (d : Nat) : Char := Char.ofNat (48 + d)

/-- The ten characters from `0` to `9`; digits of other scripts are not numerals here. -/
def isDigit (c : Char) : Bool := 48 ≤ c.toNat && c.toNat ≤ 57

/-- What a digit character stands for. -/
def digitValue (c : Char) : Nat := c.toNat - 48

/-- The digits of `n`, without leading zeros; zero is the one digit `0`. -/
def digits (n : Nat) : List Char :=
  if n < 10 then [digitChar n] else digits (n / 10) ++ [digitChar (n % 10)]
termination_by n
decreasing_by omega

/-- The value of a digit string, most significant digit first. -/
def value (cs : List Char) : Nat := cs.foldl (fun v c ↦ 10 * v + digitValue c) 0

/-- Reads a nonempty string of digits and nothing else; leading zeros are allowed. -/
def read? (cs : List Char) : Option Nat :=
  if cs ≠ [] ∧ cs.all isDigit then some (value cs) else none

/-- Reads an integer of 64 bits: digits behind a sign, which may be left out. -/
def readInt64? (cs : List Char) : Option Int :=
  let n := match cs with
    | '-' :: ds => (read? ds).map fun n ↦ -Int.ofNat n
    | '+' :: ds => (read? ds).map Int.ofNat
    | ds => (read? ds).map Int.ofNat
  n.filter Word.isInt64

/-- The digits of `n` as a string. -/
def text (n : Nat) : String := String.ofList (digits n)

/-- An integer: a minus sign in front of the digits of a negative one. -/
def intText : Int → String
  | .ofNat n => text n
  | .negSucc n => String.ofList ('-' :: digits (n + 1))

/-! ## Laws -/

theorem digitChar_toNat {d : Nat} (h : d < 10) : (digitChar d).toNat = 48 + d := by
  have all : ∀ d : Fin 10, (digitChar d).toNat = 48 + d := by decide
  exact all ⟨d, h⟩

theorem isDigit_digitChar {d : Nat} (h : d < 10) : isDigit (digitChar d) = true := by
  simp [isDigit, digitChar_toNat h]; omega

theorem digitValue_digitChar {d : Nat} (h : d < 10) : digitValue (digitChar d) = d := by
  simp [digitValue, digitChar_toNat h]

theorem value_concat (cs : List Char) (c : Char) :
    value (cs ++ [c]) = 10 * value cs + digitValue c := by
  simp [value]

theorem digits_ne_nil (n : Nat) : digits n ≠ [] := by
  rw [digits]; split <;> simp

theorem isDigit_of_mem_digits (n : Nat) : ∀ c ∈ digits n, isDigit c = true := by
  induction n using Nat.strongRecOn with
  | ind n ih =>
    rw [digits]
    split
    · intro c hc
      rw [List.mem_singleton.1 hc]
      exact isDigit_digitChar (by omega)
    · intro c hc
      rcases List.mem_append.1 hc with hc | hc
      · exact ih (n / 10) (by omega) c hc
      · rw [List.mem_singleton.1 hc]
        exact isDigit_digitChar (Nat.mod_lt _ (by omega))

theorem value_digits (n : Nat) : value (digits n) = n := by
  induction n using Nat.strongRecOn with
  | ind n ih =>
    rw [digits]
    split
    · next h => simp [value, digitValue_digitChar h]
    · rw [value_concat, ih (n / 10) (by omega), digitValue_digitChar (Nat.mod_lt _ (by omega))]
      omega

theorem read?_digits (n : Nat) : read? (digits n) = some n := by
  rw [read?, if_pos ⟨digits_ne_nil n, List.all_eq_true.2 (isDigit_of_mem_digits n)⟩, value_digits]

end TaskMessaging.Decimal
