/-!
# Lower case

Names of settings and the words that stand for settings are compared without regard to case. All
of them are ASCII, so it is enough to lower the letters whose lower case is ASCII: the capital
letters from A to Z and the Kelvin sign.
-/

namespace TaskMessaging.Text

/-- The lower case of a character, as far as it is ASCII. -/
def lowerChar (c : Char) : Char := if c.toNat = 0x212A then 'k' else c.toLower

/-- A text with its letters lowered. -/
def lower (s : String) : String := String.ofList (s.toList.map lowerChar)

end TaskMessaging.Text
