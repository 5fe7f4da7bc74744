/-!
# Item handles

A handle names one use of one slot: which allocator issued it, the pool, the slot, and how often
the slot had been handed out by then. It stays a plain value; whether it may still be used is
decided by the allocator on every access.
-/

namespace TaskMessaging

/-- The name of an allocated item. -/
structure ItemHandle where
  /-- The tag of the allocator that issued the handle. -/
  context : UInt64
  pool : UInt16
  slot : UInt32
  generation : UInt32
deriving DecidableEq

namespace ItemHandle

/-- Pool, slot and generation; the tag of the allocator is not shown. -/
def text (h : ItemHandle) : String :=
  s!"item-{h.pool.toNat}.{h.slot.toNat}#{h.generation.toNat}"

end ItemHandle

end TaskMessaging
