import TaskMessaging.Binary64
import TaskMessaging.Text.Lower

/-!
# Settings

What configuration files and environment variables say, before it is known which type each value
should have. Settings of several sources are laid over one another: tables are merged entry by
entry, everything else is replaced as a whole.
-/

namespace TaskMessaging

/-- A value in a source of configuration. -/
inductive Setting where
  /-- Named, but without a value. -/
  | absent
  | bool (b : Bool)
  | int (n : Int)
  | float (x : Binary64)
  | text (s : String)
  | list (elements : List Setting)
  /-- Entries by name; a name occurs at most once. -/
  | table (entries : List (String × Setting))

namespace Setting

/-- A table without entries. -/
def empty : Setting := .table []

/-- The entries of a table. Anything else has none. -/
def entries : Setting → List (String × Setting)
  | .table es => es
  | _ => []

/-- The elements of a list. Anything else has none. -/
def elements : Setting → List Setting
  | .list xs => xs
  | _ => []

/-- The value under a name. -/
def get? (s : Setting) (name : String) : Option Setting := s.entries.lookup name

/-- Replaces the value under a name, or adds an entry. -/
def setEntry (name : String) (v : Setting) : List (String × Setting) → List (String × Setting)
  | [] => [(name, v)]
  | (n, w) :: es => if n = name then (n, v) :: es else (n, w) :: setEntry name v es

/-- Replaces an element. A list that is too short is filled up with absent values. -/
def setElement (xs : List Setting) (position : Nat) (v : Setting) : List Setting :=
  (xs ++ List.replicate (position + 1 - xs.length) absent).set position v

/-! ## Equality -/

mutual

/-- Two values are the same. -/
def same : Setting → Setting → Bool
  | .absent, .absent => true
  | .bool b, .bool c => b == c
  | .int n, .int m => n == m
  | .float x, .float y => x == y
  | .text s, .text t => s == t
  | .list xs, .list ys => sameElements xs ys
  | .table es, .table fs => sameEntries es fs
  | _, _ => false

def sameElements : List Setting → List Setting → Bool
  | [], [] => true
  | x :: xs, y :: ys => same x y && sameElements xs ys
  | _, _ => false

def sameEntries : List (String × Setting) → List (String × Setting) → Bool
  | [], [] => true
  | (name, x) :: es, (other, y) :: fs => name == other && same x y && sameEntries es fs
  | _, _ => false

end

mutual

theorem same_iff : ∀ v w : Setting, same v w = true ↔ v = w
  | .absent, w => by cases w <;> simp [same]
  | .bool b, w => by cases w <;> simp [same]
  | .int n, w => by cases w <;> simp [same]
  | .float x, w => by cases w <;> simp [same]
  | .text s, w => by cases w <;> simp [same]
  | .list xs, w => by cases w <;> simp [same, sameElements_iff xs]
  | .table es, w => by cases w <;> simp [same, sameEntries_iff es]

theorem sameElements_iff : ∀ xs ys : List Setting, sameElements xs ys = true ↔ xs = ys
  | [], ys => by cases ys <;> simp [sameElements]
  | x :: xs, ys => by cases ys <;> simp [sameElements, same_iff x, sameElements_iff xs]

theorem sameEntries_iff : ∀ es fs : List (String × Setting), sameEntries es fs = true ↔ es = fs
  | [], fs => by cases fs <;> simp [sameEntries]
  | (name, x) :: es, fs => by
    cases fs <;> simp [sameEntries, same_iff x, sameEntries_iff es, Prod.ext_iff]

end

instance : DecidableEq Setting := fun v w ↦ decidable_of_iff _ (same_iff v w)

/-! ## Layers -/

mutual

/-- Lays a value over what stands under a name. Names are taken in lower case. -/
def put (root : Setting) (name : String) : Setting → Setting
  | .table incoming =>
    let target := (root.get? (Text.lower name)).getD empty
    .table (setEntry (Text.lower name) (putAll target incoming) root.entries)
  | v => .table (setEntry (Text.lower name) v root.entries)

/-- Lays the entries of a table over a value. -/
def putAll (target : Setting) : List (String × Setting) → Setting
  | [] => target
  | (name, v) :: rest => putAll (target.put name v) rest

end

/-! ## Laws -/

theorem lookup_setEntry_self (name : String) (v : Setting) (es : List (String × Setting)) :
    (setEntry name v es).lookup name = some v := by
  induction es with
  | nil => simp [setEntry]
  | cons e es ih =>
    obtain ⟨n, w⟩ := e
    unfold setEntry
    split
    · next h => simp [h]
    · next h => simp [List.lookup_cons, ih, beq_eq_false_iff_ne.2 (Ne.symm h)]

theorem lookup_setEntry_of_ne {name other : String} (h : other ≠ name) (v : Setting)
    (es : List (String × Setting)) : (setEntry name v es).lookup other = es.lookup other := by
  induction es with
  | nil => simp [setEntry, List.lookup_cons, beq_eq_false_iff_ne.2 h]
  | cons e es ih =>
    obtain ⟨n, w⟩ := e
    unfold setEntry
    split
    · next hn => subst hn; simp [List.lookup_cons, beq_eq_false_iff_ne.2 h]
    · simp only [List.lookup_cons, ih]

end Setting

end TaskMessaging
