/-!
# Words

Numbers that are kept in a fixed number of bits.
-/

namespace TaskMessaging.Word

/-- How many numbers there are of so many bits. -/
def count (bits : Nat) : Nat := Nat.pow 2 bits

theorem count_pos (bits : Nat) : 0 < count bits := Nat.pow_pos (by decide)

/-- An integer of 64 bits with a sign. -/
def isInt64 (n : Int) : Bool := -(count 63 : Int) ≤ n && n < count 63

end TaskMessaging.Word
