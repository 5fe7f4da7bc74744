import TaskMessaging.Ident

/-!
# The message catalog

Names of message kinds, for logs and for diagnostic records. A kind without a name is shown by its
number, so every kind can be shown.
-/

namespace TaskMessaging

/-- Names by kind; a kind occurs at most once. -/
structure Catalog where
  names : List (MessageKind × String)
deriving DecidableEq

namespace Catalog

/-- The names of the kinds that the core emits. -/
def builtin : Catalog :=
  ⟨[(.timerExpired, "TIMER_EXPIRED"), (.terminate, "TERMINATE"),
    (.faultReported, "FAULT_REPORTED")]⟩

/-- Names a kind, in place of a name that it has already. -/
def register (c : Catalog) (kind : MessageKind) (name : String) : Catalog :=
  ⟨(kind, name) :: c.names.filter (·.1 ≠ kind)⟩

/-- The names of the core, with some kinds named in turn. -/
def withNames (names : List (MessageKind × String)) : Catalog :=
  names.foldl (fun c (kind, name) ↦ c.register kind name) builtin

/-- The name of a kind. -/
def name (c : Catalog) (kind : MessageKind) : String :=
  (c.names.lookup kind).getD ("kind-" ++ Decimal.text kind.number.toNat)

def size (c : Catalog) : Nat := c.names.length

def isEmpty (c : Catalog) : Bool := c.names.isEmpty

@[simp] theorem name_register_self (c : Catalog) (kind : MessageKind) (name : String) :
    (c.register kind name).name kind = name := by
  simp [register, Catalog.name]

end Catalog

end TaskMessaging
