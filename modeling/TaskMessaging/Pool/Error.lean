/-!
# Pool errors

Three classes of causes: a declaration that makes no sense, a pool that is empty for now, and a
handle that its holder may not use. Only the last class is fatal, because it means that some task
has lost track of what it owns.

A declaration can fail in one more way, which is no error that anybody is told of: the thread
panics.
-/

namespace TaskMessaging

/-- Why an operation on the pools was refused. -/
inductive PoolError where
  /-- A pool of no items, or of items without bytes. -/
  | zeroSized (itemCount itemSize : Nat)
  /-- As many pools are declared as the allocator was created for. -/
  | contextFull (maxPools : Nat)
  /-- No declared item size is large enough. -/
  | noFittingPool (size largest : Nat)
  /-- The pool that fits has no free item. -/
  | exhausted (pool itemSize capacity : Nat)
  /-- The item was freed already and not handed out since. -/
  | doubleFree (pool slot : Nat)
  /-- The handle was issued by another allocator. -/
  | foreignHandle (pool slot : Nat)
  /-- The item was handed out again, or belongs to a generation that never was. -/
  | staleHandle (pool slot : Nat) (generation : UInt32)
  /-- An item has two tags. -/
  | infoIndex (index : Nat)
  /-- The access does not end within the item. -/
  | outOfBounds (offset length itemSize : Nat)
deriving DecidableEq

namespace PoolError

/-- Violations of ownership, which must not be survived. -/
def isFatal : PoolError → Bool
  | .doubleFree .. | .foreignHandle .. | .staleHandle .. => true
  | _ => false

/-- The caller may try again once items have been freed. -/
def isBackpressure : PoolError → Bool
  | .exhausted .. => true
  | _ => false

/-- The class of the error, for logs. -/
def category : PoolError → String
  | .zeroSized .. | .contextFull .. => "configuration"
  | .noFittingPool .. | .exhausted .. => "resource"
  | .doubleFree .. | .foreignHandle .. | .staleHandle .. => "fatal"
  | .infoIndex .. | .outOfBounds .. => "access"

/-- The name of the cause. -/
def name : PoolError → String
  | .zeroSized .. => "ZeroSized"
  | .contextFull .. => "ContextFull"
  | .noFittingPool .. => "NoFittingPool"
  | .exhausted .. => "Exhausted"
  | .doubleFree .. => "DoubleFree"
  | .foreignHandle .. => "ForeignHandle"
  | .staleHandle .. => "StaleHandle"
  | .infoIndex .. => "InfoIndex"
  | .outOfBounds .. => "OutOfBounds"

/-- The numbers that a cause carries, by name. -/
def fields : PoolError → List (String × Nat)
  | .zeroSized count size => [("item_count", count), ("item_size", size)]
  | .contextFull maxPools => [("max_pools", maxPools)]
  | .noFittingPool size largest => [("size", size), ("largest", largest)]
  | .exhausted pool size capacity =>
    [("pool", pool), ("item_size", size), ("capacity", capacity)]
  | .doubleFree pool slot | .foreignHandle pool slot => [("pool", pool), ("slot", slot)]
  | .staleHandle pool slot generation =>
    [("pool", pool), ("slot", slot), ("generation", generation.toNat)]
  | .infoIndex index => [("index", index)]
  | .outOfBounds offset length size => [("offset", offset), ("len", length), ("item_size", size)]

/-- The error of a name with the fields that a function gives. -/
def ofFields? (name : String) (field : String → Nat) : Option PoolError :=
  match name with
  | "ZeroSized" => some (.zeroSized (field "item_count") (field "item_size"))
  | "ContextFull" => some (.contextFull (field "max_pools"))
  | "NoFittingPool" => some (.noFittingPool (field "size") (field "largest"))
  | "Exhausted" => some (.exhausted (field "pool") (field "item_size") (field "capacity"))
  | "DoubleFree" => some (.doubleFree (field "pool") (field "slot"))
  | "ForeignHandle" => some (.foreignHandle (field "pool") (field "slot"))
  | "StaleHandle" =>
    some (.staleHandle (field "pool") (field "slot") (UInt32.ofNat (field "generation")))
  | "InfoIndex" => some (.infoIndex (field "index"))
  | "OutOfBounds" => some (.outOfBounds (field "offset") (field "len") (field "item_size"))
  | _ => none

def message : PoolError → String
  | .zeroSized count size => s!"Invalid pool declaration: {count} items of {size} bytes"
  | .contextFull maxPools => s!"Pool context full: {maxPools} pools already declared"
  | .noFittingPool size largest => s!"No pool fits {size} bytes (largest item size: {largest})"
  | .exhausted pool size capacity =>
    s!"Resource exhausted: pool #{pool} ({size} bytes x {capacity}) has no free item"
  | .doubleFree pool slot => s!"Double free of item {slot} in pool #{pool}"
  | .foreignHandle pool slot =>
    s!"Foreign handle: pool #{pool} slot {slot} is not owned by this allocator"
  | .staleHandle pool slot generation =>
    s!"Stale handle: pool #{pool} slot {slot} generation {generation.toNat} is no longer allocated"
  | .infoIndex index => s!"Info tag index {index} out of range (expected 0 or 1)"
  | .outOfBounds offset length size =>
    s!"Access of {length} bytes at offset {offset} overflows {size}-byte item"

/-- Name and fields tell errors apart. -/
theorem ofFields?_name (e : PoolError) :
    ofFields? e.name (fun n ↦ (e.fields.lookup n).getD 0) = some e := by
  cases e <;> simp [ofFields?, name, fields, List.lookup_cons]

end PoolError

/-- How the declaration of a pool can fail. -/
inductive DeclareFailure (ε : Type) where
  | refused (e : ε)
  /-- The thread panics, because there is no buffer for an item. -/
  | panicked
deriving DecidableEq

/-- The failure with another error. -/
def DeclareFailure.map {ε ε' : Type} (f : ε → ε') : DeclareFailure ε → DeclareFailure ε'
  | .refused e => .refused (f e)
  | .panicked => .panicked

end TaskMessaging
