/-!
# Hexadecimal digits

Digits are written in lower case and read in either case. A byte is always two digits.
-/

namespace TaskMessaging.Text.Hex

/-- The digit of a number below sixteen. -/
def digit (d : Nat) : Char := if d < 10 then Char.ofNat (48 + d) else Char.ofNat (87 + d)

/-- What a digit stands for. -/
def value? (c : Char) : Option Nat :=
  if 48 ≤ c.toNat && c.toNat ≤ 57 then some (c.toNat - 48)
  else if 97 ≤ c.toNat && c.toNat ≤ 102 then some (c.toNat - 87)
  else if 65 ≤ c.toNat && c.toNat ≤ 70 then some (c.toNat - 55)
  else none

/-- The two digits of a byte. -/
def ofByte (b : UInt8) : List Char := [digit (b.toNat / 16), digit (b.toNat % 16)]

/-- Bytes as digits. -/
def text (bytes : List UInt8) : String := String.ofList (bytes.flatMap ofByte)

/-- The bytes that an even number of digits stands for. -/
def bytes? : List Char → Option (List UInt8)
  | [] => some []
  | a :: b :: rest => do
    return UInt8.ofNat (16 * (← value? a) + (← value? b)) :: (← bytes? rest)
  | [_] => none

theorem value?_digit : ∀ d < 16, value? (digit d) = some d := by decide

theorem bytes?_flatMap_ofByte (bytes : List UInt8) :
    bytes? (bytes.flatMap ofByte) = some bytes := by
  induction bytes with
  | nil => rfl
  | cons b bs ih =>
    have hb := b.toNat_lt
    have hd : 16 * (b.toNat / 16) + b.toNat % 16 = b.toNat := by omega
    simp [ofByte, bytes?, value?_digit (b.toNat / 16) (by omega),
      value?_digit (b.toNat % 16) (by omega), ih, -UInt8.ofNat_add, -UInt8.ofNat_mul, hd]

end TaskMessaging.Text.Hex
