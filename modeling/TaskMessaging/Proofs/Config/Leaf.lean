import Mathlib.Data.List.Forall2
import TaskMessaging.Config.Load
import TaskMessaging.Proofs.Config.Reader

/-!
# The leaves of a configuration

A configuration is a tree of two levels: some values stand on their own and the others in sections.
Whatever is said about *each* field of it, independently of the others, is said here about a
`Leaf`. A leaf knows its place in a file, the variable that overrides it, and the kind of its
values.

A value is `Shown` by a setting in a file or `Written` as the text of a variable. The text is taken
for one of the settings that a file would show, so that nothing has to be said about variables
beyond that.
-/

namespace TaskMessaging

/-- Laid over something else, the setting replaces it as a whole. -/
def Setting.IsWhole (v : Setting) : Prop := ∀ es, v ≠ .table es

namespace Config

/-! ## Kinds -/

/-- The kinds of values in a configuration. -/
inductive Kind where
  | word
  | port
  | truth
  | text
  | policy
  | pools
deriving DecidableEq

/-- The values of a kind. -/
abbrev Kind.Value : Kind → Type
  | .word => UInt64
  | .port => UInt16
  | .truth => Bool
  | .text => String
  | .policy => FatalPolicy
  | .pools => List PoolSpec

def Kind.read? : (kind : Kind) → Setting → Option kind.Value
  | .word => settingReader.uint64?
  | .port => settingReader.uint16?
  | .truth => settingReader.bool?
  | .text => settingReader.text?
  | .policy => settingReader.policy?
  | .pools => readPools? settingReader

/-- How a pool stands in a file. -/
def PoolSpec.Shown (p : PoolSpec) (v : Setting) : Prop :=
  ∃ es, v = .table es ∧ es.lookup "item_count" = some (.int p.itemCount.toNat) ∧
    es.lookup "item_size" = some (.int p.itemSize.toNat)

/-- How a value stands in a file. -/
def Kind.Shown : (kind : Kind) → kind.Value → Setting → Prop
  | .word, n, v => v = .int n.toNat
  | .port, n, v => v = .int n.toNat
  | .truth, b, v => v = .bool b
  | .text, s, v => v = .text s
  | .policy, p, v => v = .text p.name
  | .pools, ps, v => ∃ vs, v = .list vs ∧ List.Forall₂ PoolSpec.Shown ps vs

/-- A text that can be taken for nothing else, neither a truth value nor a number. -/
structure PlainText (s : String) : Prop where
  ne_true : Text.lower s ≠ "true"
  ne_false : Text.lower s ≠ "false"
  not_int : Decimal.readInt64? s.toList = none
  not_float : Binary64.read? s.toList = none

/-- How a value is written as the text of a variable. There is no such text for pools. -/
def Kind.Written : (kind : Kind) → kind.Value → String → Prop
  | .word, n, s => Decimal.read? s.toList = some n.toNat ∧ n.toNat < Word.count 63
  | .port, n, s => Decimal.read? s.toList = some n.toNat
  | .truth, b, s => s = if b then "true" else "false"
  | .text, x, s => s = x ∧ PlainText x
  | .policy, p, s => s = p.name
  | .pools, _, _ => False

/-! ## Leaves -/

/-- A section of the configuration. -/
inductive Part where
  | mailbox
  | dispatcher
  | diagnostics
  | logging
deriving DecidableEq

def Part.name : Part → String
  | .mailbox => "mailbox"
  | .dispatcher => "dispatcher"
  | .diagnostics => "diagnostics"
  | .logging => "logging"

/-- A field of the configuration that is no section. -/
inductive Leaf where
  | pools
  | fatalPolicy
  | capacity
  | stopOnFault
  | installSignalMask
  | enabled
  | bindAddress
  | port
  | maxConnections
  | buffer
  | level
  | json
deriving DecidableEq

namespace Leaf

/-- The section that a leaf belongs to. -/
def part? : Leaf → Option Part
  | pools | fatalPolicy => none
  | capacity => some .mailbox
  | stopOnFault | installSignalMask => some .dispatcher
  | enabled | bindAddress | port | maxConnections | buffer => some .diagnostics
  | level | json => some .logging

/-- The name of a leaf, in its section if it belongs to one. -/
def name : Leaf → String
  | pools => "pools"
  | fatalPolicy => "fatal_policy"
  | capacity => "capacity"
  | stopOnFault => "stop_on_fault"
  | installSignalMask => "install_signal_mask"
  | enabled => "enabled"
  | bindAddress => "bind_address"
  | port => "port"
  | maxConnections => "max_connections"
  | buffer => "buffer"
  | level => "level"
  | json => "json"

abbrev kind : Leaf → Kind
  | pools => .pools
  | fatalPolicy => .policy
  | capacity | maxConnections | buffer => .word
  | port => .port
  | stopOnFault | installSignalMask | enabled | json => .truth
  | bindAddress | level => .text

/-- The value of a configuration at a leaf. -/
def get (c : Config) : (leaf : Leaf) → leaf.kind.Value
  | pools => c.pools
  | fatalPolicy => c.fatalPolicy
  | capacity => c.mailbox.capacity
  | stopOnFault => c.dispatcher.stopOnFault
  | installSignalMask => c.dispatcher.installSignalMask
  | enabled => c.diagnostics.enabled
  | bindAddress => c.diagnostics.bindAddress
  | port => c.diagnostics.port
  | maxConnections => c.diagnostics.maxConnections
  | buffer => c.diagnostics.buffer
  | level => c.logging.level
  | json => c.logging.json

/-- The variable that overrides a leaf: `ITTI_`, the section if there is one, two underscores and
the name, all in capital letters. -/
def variableName (leaf : Leaf) : String :=
  let inside := leaf.part?.elim [] fun p ↦ p.name.toList ++ ['_', '_']
  String.ofList ((variableMark ++ inside ++ leaf.name.toList).map Char.toUpper)

/-- What a setting has at a leaf. -/
def find? (leaf : Leaf) (root : Setting) : Option Setting :=
  match leaf.part? with
  | none => root.get? leaf.name
  | some p => (root.get? p.name).bind fun t ↦ t.get? leaf.name

/-- All leaves, in their order in the configuration. -/
def all : List Leaf :=
  [pools, capacity, stopOnFault, installSignalMask, enabled, bindAddress, port, maxConnections,
    buffer, level, json, fatalPolicy]

/-- The leaf with a name in a section, or in none. -/
def ofPlace? (part? : Option Part) (name : String) : Option Leaf :=
  all.find? fun leaf ↦ leaf.part? = part? ∧ leaf.name = name

theorem ofPlace?_place (leaf : Leaf) : ofPlace? leaf.part? leaf.name = some leaf := by
  cases leaf <;> decide

/-- No two leaves have the same place. -/
theorem eq_of_place {leaf other : Leaf} (hpart : leaf.part? = other.part?)
    (hname : leaf.name = other.name) : leaf = other := by
  have h := leaf.ofPlace?_place
  rw [hpart, hname, other.ofPlace?_place] at h
  exact (Option.some_inj.mp h).symm

theorem lower_name (leaf : Leaf) : Text.lower leaf.name = leaf.name := by
  cases leaf <;> decide

end Leaf

theorem Part.lower_name (p : Part) : Text.lower p.name = p.name := by
  cases p <;> decide

theorem Part.name_injective : Function.Injective Part.name := fun p q h ↦ by
  cases p <;> cases q <;> first | rfl | exact absurd h (by decide)

/-- No section has the name of a leaf. -/
theorem Part.name_ne (p : Part) (leaf : Leaf) : leaf.name ≠ p.name := by
  cases p <;> cases leaf <;> decide

example : Leaf.maxConnections.variableName = "ITTI_DIAGNOSTICS__MAX_CONNECTIONS" := by decide

/-! ## Readings -/

variable {kind : Kind} {s : String} {v : Setting} {n : Nat}

theorem uint64?_int (h : n < Word.count 64) : Setting.uint64? (.int n) = some (UInt64.ofNat n) := by
  have hint : (0 : Int) ≤ n ∧ (n : Int) < Word.count 64 := by omega
  rw [Setting.uint64?, if_pos hint, Int.toNat_natCast]

theorem settingReader_uint64? : settingReader.uint64? = Setting.uint64? := rfl

theorem settingReader_uint16? : settingReader.uint16? = Setting.uint16? := rfl

theorem uint64?_word (x : UInt64) : Setting.uint64? (.int x.toNat) = some x := by
  rw [uint64?_int x.toNat_lt, UInt64.ofNat_toNat]

theorem uint16?_port (x : UInt16) : Setting.uint16? (.int x.toNat) = some x := by
  have hword : x.toNat < Word.count 64 := Nat.lt_trans x.toNat_lt (by decide)
  have hport : (UInt64.ofNat x.toNat).toNat < Word.count 16 := by
    rw [UInt64.toNat_ofNat_of_lt' hword]
    exact x.toNat_lt
  rw [Setting.uint16?, uint64?_int hword, Option.filter_some, if_pos (decide_eq_true hport),
    Option.map_some, UInt64.toNat_ofNat_of_lt' hword, UInt16.ofNat_toNat]

theorem policy?_name (p : FatalPolicy) : settingReader.policy? (.text p.name) = some p := by
  cases p <;> decide

theorem fields?_table (names : List String) (es : List (String × Setting)) :
    settingReader.fields? names (.table es) = some (names.map fun name ↦ es.lookup name) := rfl

theorem PoolSpec.Shown.read?_eq {p : PoolSpec} (h : p.Shown v) :
    PoolSpec.read? settingReader v = some p := by
  obtain ⟨es, rfl, hcount, hsize⟩ := h
  refine PoolSpec.read?_eq_some (fields?_table fieldNames es) hcount hsize ?_ ?_
  · rw [settingReader_uint64?, uint64?_word]
  · rw [settingReader_uint64?, uint64?_word]

/-- What a file shows is read. -/
theorem Kind.Shown.read?_eq {x : kind.Value} (h : kind.Shown x v) : kind.read? v = some x := by
  cases kind with
  | word =>
    obtain rfl : v = .int (UInt64.toNat x) := h
    rw [Kind.read?, settingReader_uint64?, uint64?_word]
  | port =>
    obtain rfl : v = .int (UInt16.toNat x) := h
    rw [Kind.read?, settingReader_uint16?, uint16?_port]
  | truth =>
    obtain rfl : v = .bool x := h
    rfl
  | text =>
    obtain rfl : v = .text x := h
    rfl
  | policy =>
    obtain rfl : v = .text (FatalPolicy.name x) := h
    exact policy?_name x
  | pools =>
    obtain ⟨vs, rfl, hvs⟩ := h
    exact readPools?_eq_some rfl (hvs.imp fun _ _ ↦ PoolSpec.Shown.read?_eq)

theorem Kind.Shown.isWhole {x : kind.Value} (h : kind.Shown x v) : v.IsWhole := by
  cases kind with
  | word | port | truth | text | policy => exact h ▸ nofun
  | pools =>
    obtain ⟨vs, rfl, -⟩ := h
    exact nofun

/-! ## Variables -/

theorem lowerChar_of_isDigit {c : Char} (h : Decimal.isDigit c = true) : Text.lowerChar c = c := by
  rw [Decimal.isDigit, Bool.and_eq_true, decide_eq_true_iff, decide_eq_true_iff] at h
  have hkelvin : c.toNat ≠ 0x212A := by omega
  have hupper : ¬(c.val ≥ 65 ∧ c.val ≤ 90) := fun hupper ↦
    absurd (show 65 ≤ c.toNat from hupper.1) (by omega)
  rw [Text.lowerChar, if_neg hkelvin]
  exact dif_neg hupper

theorem isDigit_of_read? (h : Decimal.read? s.toList = some n) :
    ∀ c ∈ s.toList, Decimal.isDigit c = true := by
  rw [Decimal.read?] at h
  obtain ⟨hdigits, -⟩ | ⟨-, ⟨⟩⟩ := ite_eq_iff.mp h
  exact List.all_eq_true.mp hdigits.2

theorem lower_of_read? (h : Decimal.read? s.toList = some n) : Text.lower s = s := by
  have hmap : s.toList.map Text.lowerChar = s.toList :=
    (List.map_congr_left fun c hc ↦ lowerChar_of_isDigit (isDigit_of_read? h c hc)).trans
      (List.map_id' _)
  rw [Text.lower, hmap, String.ofList_toList]

theorem readInt64?_of_read? (h : Decimal.read? s.toList = some n) (hn : n < Word.count 63) :
    Decimal.readInt64? s.toList = some (n : Int) := by
  have hint : Word.isInt64 (Int.ofNat n) = true := by
    rw [Word.isInt64, Bool.and_eq_true, decide_eq_true_iff, decide_eq_true_iff,
      Int.ofNat_eq_natCast]
    omega
  have hdigit := isDigit_of_read? h
  generalize s.toList = cs at h hdigit
  rw [Decimal.readInt64?.eq_def]
  split
  · exact absurd (hdigit '-' List.mem_cons_self) (by decide)
  · exact absurd (hdigit '+' List.mem_cons_self) (by decide)
  · rw [h, Option.map_some, Option.filter_some, if_pos hint]
    rfl

theorem ofVariable_of_ne (htrue : Text.lower s ≠ "true") (hfalse : Text.lower s ≠ "false") :
    ofVariable s = match Decimal.readInt64? s.toList with
      | some n => .int n
      | none => match Binary64.read? s.toList with
        | some x => .float x
        | none => .text s := by
  rw [ofVariable]
  split
  · next h => exact absurd h htrue
  · next h => exact absurd h hfalse
  · rfl

theorem ofVariable_digits (h : Decimal.read? s.toList = some n) (hn : n < Word.count 63) :
    ofVariable s = .int n := by
  have hne {word : String} (hword : Decimal.read? word.toList = none) : Text.lower s ≠ word := by
    rintro rfl
    rw [lower_of_read? h, h] at hword
    cases hword
  rw [ofVariable_of_ne (hne (by decide)) (hne (by decide)), readInt64?_of_read? h hn]

theorem PlainText.ofVariable_eq (h : PlainText s) : ofVariable s = .text s := by
  rw [ofVariable_of_ne h.ne_true h.ne_false, h.not_int, h.not_float]

theorem plainText_name (p : FatalPolicy) : PlainText p.name := by
  cases p <;> exact ⟨by decide, by decide, by decide, by decide⟩

/-- A variable is taken for what a file shows. -/
theorem Kind.Written.shown {x : kind.Value} (h : kind.Written x s) :
    kind.Shown x (ofVariable s) := by
  cases kind with
  | word => exact ofVariable_digits h.1 h.2
  | port =>
    exact ofVariable_digits h (Nat.lt_trans (UInt16.toNat_lt x) (by decide))
  | truth =>
    obtain rfl : s = if x = true then "true" else "false" := h
    cases x <;> rfl
  | text =>
    obtain ⟨rfl, hplain⟩ := h
    exact hplain.ofVariable_eq
  | policy =>
    obtain rfl : s = FatalPolicy.name x := h
    exact (plainText_name x).ofVariable_eq
  | pools => exact h.elim

end Config

end TaskMessaging
