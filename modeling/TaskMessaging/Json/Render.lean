import TaskMessaging.Json.Value
import TaskMessaging.Text.Hex

/-!
# Writing JSON

The compact form: no blanks, members in their order, and in strings only what must be escaped is
escaped. No raw control character is ever written, so a rendered value stays on one line.
-/

namespace TaskMessaging.Json

/-- A character of a string as it is written between quotes. -/
def escape (c : Char) : List Char :=
  if c = '"' then ['\\', '"']
  else if c = '\\' then ['\\', '\\']
  else if c = '\x08' then ['\\', 'b']
  else if c = '\x0c' then ['\\', 'f']
  else if c = '\n' then ['\\', 'n']
  else if c = '\r' then ['\\', 'r']
  else if c = '\t' then ['\\', 't']
  else if c.toNat < 32 then
    ['\\', 'u', '0', '0', Text.Hex.digit (c.toNat / 16), Text.Hex.digit (c.toNat % 16)]
  else [c]

/-- A string with its quotes. -/
def quote (s : String) : List Char := '"' :: s.toList.flatMap escape ++ ['"']

/-- A numeral; the exponent is written only where the plain digits would not do. -/
def Number.render (n : Number) : List Char :=
  (if n.negative then ['-'] else []) ++ Decimal.digits n.mantissa ++
    (if n.plain then [] else 'e' :: (Decimal.intText n.exponent).toList)

namespace Value

mutual

/-- The compact text of a value. A string that is no text is written as the lone surrogate that
makes it one. -/
def render : Value → List Char
  | .null => ['n', 'u', 'l', 'l']
  | .bool true => ['t', 'r', 'u', 'e']
  | .bool false => ['f', 'a', 'l', 's', 'e']
  | .number n => n.render
  | .text s => quote s
  | .unpaired => ['"', '\\', 'u', 'd', '8', '0', '0', '"']
  | .array xs => '[' :: renderElements xs ++ [']']
  | .object ms => '\x7b' :: renderMembers ms ++ ['\x7d']

/-- Elements with commas between them. -/
def renderElements : List Value → List Char
  | [] => []
  | [v] => render v
  | v :: w :: vs => render v ++ ',' :: renderElements (w :: vs)

/-- Members with commas between them. -/
def renderMembers : List (String × Value) → List Char
  | [] => []
  | [(name, v)] => quote name ++ ':' :: render v
  | (name, v) :: m :: ms => quote name ++ ':' :: (render v ++ ',' :: renderMembers (m :: ms))

end

/-- The compact text of a value as a string. -/
def toText (v : Value) : String := String.ofList v.render

end Value

end TaskMessaging.Json
