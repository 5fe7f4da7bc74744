import TaskMessaging.Json.Token

/-!
# Reading JSON

Tokens are read by descent. Each call consumes a token before it calls another one, so the number
of tokens bounds the recursion and `Value.parse?` always hands over enough of it.
-/

namespace TaskMessaging.Json.Value

mutual

/-- A value at the head of the tokens, and the tokens behind it. -/
def read? : Nat → List Token → Option (Value × List Token)
  | 0, _ => none
  | _ + 1, .null :: ts => some (.null, ts)
  | _ + 1, .bool b :: ts => some (.bool b, ts)
  | _ + 1, .number n :: ts => some (.number n, ts)
  | _ + 1, .string (some s) :: ts => some (.text s, ts)
  | _ + 1, .string none :: ts => some (.unpaired, ts)
  | _ + 1, .openArray :: .closeArray :: ts => some (.array [], ts)
  | fuel + 1, .openArray :: ts => (readElements? fuel ts).map fun (xs, ts) ↦ (.array xs, ts)
  | _ + 1, .openObject :: .closeObject :: ts => some (.object [], ts)
  | fuel + 1, .openObject :: ts => (readMembers? fuel ts).map fun (ms, ts) ↦ (.object ms, ts)
  | _ + 1, _ => none

/-- At least one element, up to and including the closing bracket. -/
def readElements? : Nat → List Token → Option (List Value × List Token)
  | 0, _ => none
  | fuel + 1, ts =>
    match read? fuel ts with
    | some (v, .comma :: ts) => (readElements? fuel ts).map fun (vs, ts) ↦ (v :: vs, ts)
    | some (v, .closeArray :: ts) => some ([v], ts)
    | _ => none

/-- At least one member, up to and including the closing brace. -/
def readMembers? : Nat → List Token → Option (List (String × Value) × List Token)
  | 0, _ => none
  | fuel + 1, .string (some name) :: .colon :: ts =>
    match read? fuel ts with
    | some (v, .comma :: ts) => (readMembers? fuel ts).map fun (ms, ts) ↦ ((name, v) :: ms, ts)
    | some (v, .closeObject :: ts) => some ([(name, v)], ts)
    | _ => none
  | _ + 1, _ => none

end

/-- The value that a list of tokens stands for, if it is exactly one. -/
def ofTokens? (ts : List Token) : Option Value :=
  match read? (ts.length + 1) ts with
  | some (v, []) => some v
  | _ => none

/-- The value of a text that holds one value, with blanks around it. -/
def parse? (text : String) : Option Value := (Token.scan? text.toList).bind ofTokens?

end TaskMessaging.Json.Value
