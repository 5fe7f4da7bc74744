import TaskMessaging.Pool.Error
import TaskMessaging.Pool.Statistics
import TaskMessaging.Word

/-!
# Size classes

One pool of equally sized items. Its free slots form a stack, with slot 0 on top at first, so the
slot that was freed last is the next one to be handed out. Each slot counts its generations: a
handle is accepted only while the slot is allocated in the very generation that the handle names.
-/

namespace TaskMessaging

/-- The two diagnostic tags of an item. -/
structure Tags where
  first : UInt16
  second : UInt16
deriving DecidableEq

instance : Inhabited Tags := ⟨⟨0, 0⟩⟩

/-- One slot and its bytes. The bytes outlive the item: nothing clears them. -/
structure Slot where
  /-- How often the slot was handed out, modulo 2^32. -/
  generation : UInt32
  allocated : Bool
  tags : Tags
  bytes : List UInt8
deriving DecidableEq

/-- A slot that was never used. -/
def Slot.fresh (itemSize : Nat) : Slot := ⟨0, false, default, List.replicate itemSize 0⟩

/-- A pool of equally sized items. -/
structure SizeClass where
  itemSize : Nat
  slots : List Slot
  /-- The free slots, the next one to be handed out first. -/
  free : List Nat
  inUse : Nat
  highWater : Nat
  allocations : UInt64
  exhausted : UInt64
deriving DecidableEq

namespace SizeClass

/-- A pool whose slots are all free. -/
def create (itemCount itemSize : Nat) : SizeClass where
  itemSize := itemSize
  slots := List.replicate itemCount (.fresh itemSize)
  free := List.range itemCount
  inUse := 0
  highWater := 0
  allocations := 0
  exhausted := 0

/-- No buffer has more bytes than this. -/
def byteLimit : Nat := Word.count 63 - 1

/-- A pool whose slots are all free, if there can be buffers for its items. -/
def create? (itemCount itemSize : Nat) : Option SizeClass :=
  if itemSize ≤ byteLimit then some (.create itemCount itemSize) else none

def capacity (p : SizeClass) : Nat := p.slots.length

/-- Decides whether a slot is allocated in the generation that a handle names. `pool` is the index
of the pool in its allocator and serves the error only. -/
def check (p : SizeClass) (pool slot : Nat) (generation : UInt32) : Except PoolError Slot :=
  match p.slots[slot]? with
  | none => .error (.foreignHandle pool slot)
  | some s =>
    if s.generation = generation then
      if s.allocated then .ok s else .error (.doubleFree pool slot)
    else .error (.staleHandle pool slot generation)

/-- Marks a slot as handed out once more. -/
def handOut (tags : Tags) (s : Slot) : Slot :=
  { s with generation := s.generation + 1, allocated := true, tags := tags }

/-- Takes the top of the free stack: the slot and its new generation. An empty stack is counted as
a refusal. -/
def pop (p : SizeClass) (tags : Tags) : Option (Nat × UInt32) × SizeClass :=
  match p.free with
  | [] => (none, { p with exhausted := p.exhausted + 1 })
  | slot :: rest =>
    let slots := p.slots.modify slot (handOut tags)
    (some (slot, (slots[slot]?.map (·.generation)).getD 0),
      { p with
        slots := slots
        free := rest
        inUse := p.inUse + 1
        highWater := max p.highWater (p.inUse + 1)
        allocations := p.allocations + 1 })

/-- Puts a slot back on top of the free stack; the first tag keeps who released it. -/
def push (p : SizeClass) (slot : Nat) (releaseTag : UInt16) : SizeClass :=
  { p with
    slots := p.slots.modify slot fun s ↦
      { s with allocated := false, tags := { s.tags with first := releaseTag } }
    free := slot :: p.free
    inUse := p.inUse - 1 }

/-- Changes the bytes of a slot. -/
def setBytes (p : SizeClass) (slot : Nat) (bytes : List UInt8) : SizeClass :=
  { p with slots := p.slots.modify slot fun s ↦ { s with bytes := bytes } }

/-- Changes the tags of a slot. -/
def setTags (p : SizeClass) (slot : Nat) (tags : Tags) : SizeClass :=
  { p with slots := p.slots.modify slot fun s ↦ { s with tags := tags } }

/-- The counters, under the index of the pool. -/
def stats (p : SizeClass) (index : Nat) : PoolStats where
  index := index
  itemSize := p.itemSize
  capacity := p.capacity
  inUse := p.inUse
  highWater := p.highWater
  allocations := p.allocations
  exhausted := p.exhausted

/-! ## Laws -/

@[simp] theorem capacity_create (count size : Nat) : (create count size).capacity = count := by
  simp [capacity, create]

@[simp] theorem capacity_push (p : SizeClass) (slot : Nat) (tag : UInt16) :
    (p.push slot tag).capacity = p.capacity := by
  simp [capacity, push]

@[simp] theorem capacity_pop (p : SizeClass) (tags : Tags) :
    (p.pop tags).2.capacity = p.capacity := by
  unfold pop
  split <;> simp [capacity]

@[simp] theorem itemSize_pop (p : SizeClass) (tags : Tags) :
    (p.pop tags).2.itemSize = p.itemSize := by
  unfold pop
  split <;> rfl

/-- A pool refuses exactly when its free stack is empty. -/
theorem pop_eq_none_iff (p : SizeClass) (tags : Tags) : (p.pop tags).1 = none ↔ p.free = [] := by
  unfold pop
  split <;> simp_all

end SizeClass

end TaskMessaging
