import TaskMessaging.Log
import TaskMessaging.Pool.Allocator

/-!
# What the allocator reports

The entries that an operation on the pools adds to a journal, from the state it starts in. The
operations themselves carry no journal, so that a failed one can be said to change nothing.
-/

namespace TaskMessaging.Allocator

open Log (Entry)

/-- The name under which the allocator speaks. -/
def speaker : String := "pool::allocator"

def notePoolDeclared (index itemCount itemSize : Nat) : Entry :=
  ⟨.info, speaker, "Pool declared",
    [("pool", .nat index), ("item_count", .nat itemCount), ("item_size", .nat itemSize)]⟩

def noteNoPoolFits (size largest : Nat) : Entry :=
  ⟨.warn, speaker, "No pool fits request", [("size", .nat size), ("largest", .nat largest)]⟩

def noteExhausted (pool itemSize capacity requested : Nat) : Entry :=
  ⟨.warn, speaker, "Pool exhausted",
    [("pool", .nat pool), ("item_size", .nat itemSize), ("capacity", .nat capacity),
      ("requested", .nat requested)]⟩

def noteForeign (h : ItemHandle) : Entry :=
  ⟨.error, speaker, "Handle not issued by this allocator", [("handle", .text h.text)]⟩

def noteInvalidFree (h : ItemHandle) (e : PoolError) : Entry :=
  ⟨.error, speaker, "Invalid free", [("handle", .text h.text), ("error", .text e.message)]⟩

def noteFreed (h : ItemHandle) : Entry :=
  ⟨.debug, speaker, "Item freed", [("handle", .text h.text)]⟩

/-- Declaring a pool. -/
def addPoolNotes (a : Allocator) (itemCount itemSize : Nat) : Journal :=
  match (a.addPool itemCount itemSize).1 with
  | .ok index => [notePoolDeclared index (min itemCount itemLimit) itemSize]
  | .error _ => []

/-- Allocating. -/
def allocateNotes (a : Allocator) (size : Nat) (tags : Tags) : Journal :=
  match (a.allocate size tags).1 with
  | .error (.exhausted pool itemSize capacity) => [noteExhausted pool itemSize capacity size]
  | .error (.noFittingPool _ largest) => [noteNoPoolFits size largest]
  | _ => []

/-- Any access to an item but freeing it. -/
def accessNotes (a : Allocator) (h : ItemHandle) : Journal :=
  match a.owner h with
  | .error _ => [noteForeign h]
  | .ok _ => []

/-- Freeing. -/
def freeNotes (a : Allocator) (h : ItemHandle) (releaseTag : UInt16) : Journal :=
  match a.owner h, a.free h releaseTag with
  | .error _, _ => [noteForeign h]
  | .ok _, .error e => [noteInvalidFree h e]
  | .ok _, .ok _ => [noteFreed h]

/-- Duplicating. -/
def duplicateNotes (a : Allocator) (h : ItemHandle) : Journal :=
  match a.validate h with
  | .error _ => a.accessNotes h
  | .ok (p, s) => a.allocateNotes p.itemSize s.tags

end TaskMessaging.Allocator
