import TaskMessaging.Pool.Handle
import TaskMessaging.Pool.SizeClass
import TaskMessaging.Word

/-!
# The pool allocator

An allocator holds pools of several item sizes and serves a request from the smallest size that
fits it, and among pools of one size from the one declared first. A pool that is exhausted is
reported as such; a larger one never stands in for it.

Every operation on an item starts from a handle and validates it anew, so an operation either
works on a live item or fails and leaves the allocator as it was. Only a refused allocation leaves
a trace, in the counter of the pool that refused.
-/

namespace TaskMessaging

/-- Pools in the order of their declaration. -/
structure Allocator where
  /-- Stamped into each handle, so that handles of other allocators are told apart. -/
  context : UInt64
  maxPools : Nat
  pools : Array SizeClass
  /-- Indices of the pools by item size, the largest first, and of equal sizes the one declared
  last. -/
  bySize : List Nat
deriving DecidableEq

namespace Allocator

/-- At most this many pools can be told apart by a handle. -/
def poolLimit : Nat := Word.count 16 - 1

/-- At most this many items of one pool can be told apart by a handle. -/
def itemLimit : Nat := Word.count 32 - 1

/-- An allocator that may declare up to `maxPools` pools. -/
def create (context : UInt64) (maxPools : Nat) : Allocator :=
  ⟨context, min maxPools poolLimit, #[], []⟩

/-- The item size of a pool, zero if there is none at the index. -/
def sizeAt (a : Allocator) (index : Nat) : Nat := (a.pools[index]?.map (·.itemSize)).getD 0

/-! ## Declaring pools -/

/-- Why a pool is not declared. -/
def addPoolError? (a : Allocator) (itemCount itemSize : Nat) : Option PoolError :=
  if itemCount = 0 ∨ itemSize = 0 then some (.zeroSized itemCount itemSize)
  else if a.maxPools ≤ a.pools.size then some (.contextFull a.maxPools)
  else none

/-- The indices by item size with a new one: in front of all items that are not larger. -/
def bySizeWith (a : Allocator) (index itemSize : Nat) : List Nat :=
  let larger := a.bySize.takeWhile fun i ↦ itemSize < a.sizeAt i
  let others := a.bySize.dropWhile fun i ↦ itemSize < a.sizeAt i
  larger ++ index :: others

/-- Declares a pool and answers its index. The buffers of its items are made before the allocator is
changed. -/
def addPool (a : Allocator) (itemCount itemSize : Nat) :
    Except (DeclareFailure PoolError) Nat × Allocator :=
  match a.addPoolError? itemCount itemSize with
  | some e => (.error (.refused e), a)
  | none =>
    match SizeClass.create? (min itemCount itemLimit) itemSize with
    | none => (.error .panicked, a)
    | some p =>
      let index := a.pools.size
      let bySize := a.bySizeWith index itemSize
      (.ok index, { a with
        pools := a.pools.push p
        bySize := bySize })

/-! ## Allocating -/

/-- The largest declared item size, zero without pools. -/
def largestItemSize (a : Allocator) : Nat := (a.bySize.head?.map a.sizeAt).getD 0

/-- The pool that a request is served from: the last of those that are large enough. -/
def bestFit? (a : Allocator) (size : Nat) : Option Nat :=
  (a.bySize.takeWhile fun i ↦ size ≤ a.sizeAt i).getLast?

/-- Replaces one pool. -/
def setPool (a : Allocator) (index : Nat) (p : SizeClass) : Allocator :=
  { a with pools := a.pools.setIfInBounds index p }

/-- Takes an item from the pool that fits best. -/
def allocate (a : Allocator) (size : Nat) (tags : Tags) : Except PoolError ItemHandle × Allocator :=
  match a.bestFit? size with
  | none => (.error (.noFittingPool size a.largestItemSize), a)
  | some index =>
    match a.pools[index]? with
    | none => (.error (.noFittingPool size a.largestItemSize), a)
    | some p =>
      match p.pop tags with
      | (none, p') => (.error (.exhausted index p.itemSize p.capacity), a.setPool index p')
      | (some (slot, generation), p') =>
        (.ok ⟨a.context, UInt16.ofNat index, UInt32.ofNat slot, generation⟩, a.setPool index p')

/-! ## Items -/

/-- The pool that a handle belongs to, if this allocator issued the handle. -/
def owner (a : Allocator) (h : ItemHandle) : Except PoolError SizeClass :=
  match a.pools[h.pool.toNat]? with
  | none => .error (.foreignHandle h.pool.toNat h.slot.toNat)
  | some p =>
    if h.context = a.context then .ok p
    else .error (.foreignHandle h.pool.toNat h.slot.toNat)

/-- The pool and the slot of a live handle. -/
def validate (a : Allocator) (h : ItemHandle) : Except PoolError (SizeClass × Slot) := do
  let p ← a.owner h
  let s ← p.check h.pool.toNat h.slot.toNat h.generation
  return (p, s)

/-- Returns an item to its pool. -/
def free (a : Allocator) (h : ItemHandle) (releaseTag : UInt16) : Except PoolError Allocator := do
  let (p, _) ← a.validate h
  return a.setPool h.pool.toNat (p.push h.slot.toNat releaseTag)

/-- The tags of an item. -/
def info (a : Allocator) (h : ItemHandle) : Except PoolError Tags := do
  let (_, s) ← a.validate h
  return s.tags

/-- Changes one tag of an item. The index is judged before the slot is. -/
def setInfo (a : Allocator) (h : ItemHandle) (index : Nat) (value : UInt16) :
    Except PoolError Allocator := do
  let p ← a.owner h
  if 1 < index then throw (.infoIndex index)
  let s ← p.check h.pool.toNat h.slot.toNat h.generation
  let tags := if index = 0 then { s.tags with first := value } else { s.tags with second := value }
  return a.setPool h.pool.toNat (p.setTags h.slot.toNat tags)

/-- The number of bytes of an item. -/
def itemSize (a : Allocator) (h : ItemHandle) : Except PoolError Nat := do
  let (p, _) ← a.validate h
  return p.itemSize

/-- The bytes of an item. -/
def read (a : Allocator) (h : ItemHandle) : Except PoolError (List UInt8) := do
  let (_, s) ← a.validate h
  return s.bytes

/-- Puts bytes over those from an offset on. -/
def overwrite (old : List UInt8) (offset : Nat) (new : List UInt8) : List UInt8 :=
  old.take offset ++ new ++ old.drop (offset + new.length)

/-- Writes bytes into an item. They must end within it. -/
def write (a : Allocator) (h : ItemHandle) (offset : Nat) (bytes : List UInt8) :
    Except PoolError Allocator := do
  let (p, s) ← a.validate h
  if s.bytes.length < offset + bytes.length then
    throw (.outOfBounds offset bytes.length s.bytes.length)
  return a.setPool h.pool.toNat (p.setBytes h.slot.toNat (overwrite s.bytes offset bytes))

/-- Changes each byte of an item, given its place and its value. -/
def update (a : Allocator) (h : ItemHandle) (change : Nat → UInt8 → UInt8) :
    Except PoolError Allocator := do
  let (p, s) ← a.validate h
  return a.setPool h.pool.toNat (p.setBytes h.slot.toNat (s.bytes.mapIdx change))

/-- Copies the bytes of one item over those of another. -/
def copyBytes (a : Allocator) (source target : ItemHandle) : Except PoolError Allocator := do
  let (_, s) ← a.validate source
  a.update target fun i _ ↦ s.bytes[i]?.getD 0

/-- Allocates an item of the same size and copies bytes and tags into it. The new item is returned
if it cannot be filled in. -/
def duplicate (a : Allocator) (h : ItemHandle) : Except PoolError ItemHandle × Allocator :=
  match a.validate h with
  | .error e => (.error e, a)
  | .ok (p, s) =>
    match a.allocate p.itemSize s.tags with
    | (.error e, a) => (.error e, a)
    | (.ok copy, a) =>
      match a.copyBytes h copy with
      | .ok a => (.ok copy, a)
      | .error e =>
        match a.free copy s.tags.first with
        | .ok a => (.error e, a)
        | .error e => (.error e, a)

/-! ## Counting -/

def poolCount (a : Allocator) : Nat := a.pools.size

/-- The counters of all pools. -/
def statistics (a : Allocator) : PoolStatistics := ⟨(a.pools.mapIdx fun i p ↦ p.stats i).toList⟩

/-! ## Laws -/

@[simp] theorem pools_create (context : UInt64) (n : Nat) : (create context n).pools = #[] := rfl

@[simp] theorem context_setPool (a : Allocator) (i : Nat) (p : SizeClass) :
    (a.setPool i p).context = a.context := rfl

@[simp] theorem poolCount_setPool (a : Allocator) (i : Nat) (p : SizeClass) :
    (a.setPool i p).poolCount = a.poolCount := by
  simp [poolCount, setPool]

/-- A declaration that fails changes nothing, whether it is refused or panics. -/
theorem addPool_of_error {a : Allocator} {itemCount itemSize : Nat}
    {f : DeclareFailure PoolError} (h : (a.addPool itemCount itemSize).1 = .error f) :
    (a.addPool itemCount itemSize).2 = a := by
  rw [addPool] at h ⊢
  split
  · rfl
  · next hnone =>
    rw [hnone] at h
    dsimp only at h
    split
    · rfl
    · next hp =>
      rw [hp] at h
      cases h

/-- An allocation never changes the tag that handles carry. -/
theorem context_allocate (a : Allocator) (size : Nat) (tags : Tags) :
    (a.allocate size tags).2.context = a.context := by
  unfold allocate
  split
  · rfl
  · split
    · rfl
    · split <;> simp

/-- A write keeps the length of what it is written over. -/
theorem length_overwrite {old new : List UInt8} {offset : Nat}
    (h : offset + new.length ≤ old.length) : (overwrite old offset new).length = old.length := by
  simp [overwrite]
  omega

end Allocator

end TaskMessaging
