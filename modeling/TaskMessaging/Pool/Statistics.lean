import TaskMessaging.Text.Column

/-!
# Pool statistics

What can be counted about each pool at one moment, in the order in which the pools were declared.
-/

namespace TaskMessaging

/-- The counters of one pool. -/
structure PoolStats where
  index : Nat
  itemSize : Nat
  capacity : Nat
  /-- Items allocated and not yet freed. -/
  inUse : Nat
  /-- The most items that were ever in use at once. -/
  highWater : Nat
  allocations : UInt64
  /-- Requests refused because no item was free. -/
  exhausted : UInt64
deriving DecidableEq

/-- The counters of all pools. -/
structure PoolStatistics where
  pools : List PoolStats
deriving DecidableEq

namespace PoolStatistics

/-- Items outstanding in all pools together. -/
def outstanding (s : PoolStatistics) : Nat := s.pools.foldr (fun p n ↦ p.inUse + n) 0

def pool? (s : PoolStatistics) (index : Nat) : Option PoolStats := s.pools[index]?

/-- The widths of the columns and their headings. -/
def heading : List (Nat × String) :=
  [(4, "pool"), (9, "item_size"), (9, "capacity"), (9, "in_use"), (10, "high_water"),
    (12, "allocations"), (9, "exhausted")]

/-- The cells of one pool under the headings. -/
def cells (p : PoolStats) : List String :=
  [toString p.index, toString p.itemSize, toString p.capacity, toString p.inUse,
    toString p.highWater, toString p.allocations.toNat, toString p.exhausted.toNat]

/-- A table with a line for each pool, and the total below it. -/
def text (s : PoolStatistics) : String :=
  Text.row heading ++ "\n" ++
    String.join (s.pools.map fun p ↦
      Text.row ((heading.map (·.1)).zip (cells p)) ++ "\n") ++
    s!"outstanding: {s.outstanding}"

end PoolStatistics

end TaskMessaging
