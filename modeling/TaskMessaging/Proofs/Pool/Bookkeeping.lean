import Mathlib.Data.List.Induction
import Mathlib.Order.Bounds.Basic
import TaskMessaging.Proofs.Pool.Run

/-!
# Bookkeeping

A pool says the same thing in several ways: by its free stack, by the flags of its slots, and by
its counters. The counters also have a meaning that the pool itself cannot check, because it is
about the past: how many items were handed out and taken back, how many requests were refused, and
how many items were ever in use at once. Here all of this is tied together over whole runs.

## The past of a pool

The past is a list of events, so a counter is right if it is the number of certain events in it. One
event changes the counters of a pool as `Counters.Recorded` says, and the meaning of each counter
follows by induction on the run, from its end: what is known of the run without its last operation
is all that the last operation builds on.
-/

namespace TaskMessaging

namespace SizeClass

variable {p : SizeClass}

theorem countP_allocated (p : SizeClass) :
    p.slots.countP (·.allocated) = (List.range p.capacity).countP p.isAllocated := by
  have hflags : p.slots.map (·.allocated) = (List.range p.capacity).map p.isAllocated := by
    refine List.ext_getElem (by simp [capacity]) fun i hi _ ↦ ?_
    rw [List.length_map] at hi
    simp [isAllocated, hi]
  calc p.slots.countP (·.allocated) = (p.slots.map (·.allocated)).countP id := by
        rw [List.countP_map]
        rfl
    _ = ((List.range p.capacity).map p.isAllocated).countP id := by rw [hflags]
    _ = (List.range p.capacity).countP p.isAllocated := by
        rw [List.countP_map]
        rfl

/-- The free stack lists the slots that are not handed out. -/
theorem WellFormed.free_perm (wf : p.WellFormed) :
    p.free.Perm ((List.range p.capacity).filter fun i ↦ !p.isAllocated i) := by
  refine (List.perm_ext_iff_of_nodup wf.nodup_free (List.nodup_range.filter _)).mpr fun i ↦ ?_
  rw [wf.mem_free, List.mem_filter, List.mem_range, Bool.not_eq_true']

/-- **The items in use** are the slots that are handed out. -/
theorem WellFormed.inUse_eq_countP (wf : p.WellFormed) :
    p.inUse = p.slots.countP (·.allocated) := by
  have hfree := wf.free_perm.length_eq
  rw [← List.countP_eq_length_filter] at hfree
  have hsplit := List.length_eq_countP_add_countP p.isAllocated (l := List.range p.capacity)
  have htotal := wf.inUse_add_free
  simp only [List.length_range, decide_not, Bool.decide_eq_true] at hsplit
  rw [countP_allocated]
  omega

end SizeClass

/-- What an event makes of the counters of the pool `i`. -/
inductive Counters.Recorded (i : Nat) (ev : PoolEvent) (c : Counters) : Counters → Prop where
  | take : ev.takesFrom i = true → ev.returnsTo i = false → ev.refusedBy i = false →
      Recorded i ev c c.take
  | giveBack : ev.takesFrom i = false → ev.returnsTo i = true → ev.refusedBy i = false →
      Recorded i ev c c.giveBack
  | refuse : ev.takesFrom i = false → ev.returnsTo i = false → ev.refusedBy i = true →
      Recorded i ev c c.refuse
  | same : ev.takesFrom i = false → ev.returnsTo i = false → ev.refusedBy i = false →
      Recorded i ev c c

namespace Counters.Recorded

variable {c d : Counters} {i : Nat} {ev : PoolEvent}

theorem inUse (h : Recorded i ev c d) (hpos : ev.returnsTo i = true → 0 < c.inUse) :
    d.inUse + (if ev.returnsTo i then 1 else 0) = c.inUse + if ev.takesFrom i then 1 else 0 := by
  cases h with
  | take ht hr => simp [ht, hr, Counters.take]
  | giveBack ht hr =>
    simp only [ht, hr, Counters.giveBack]
    exact Nat.sub_add_cancel (hpos hr)
  | refuse ht hr => simp [ht, hr, Counters.refuse]
  | same ht hr => simp [ht, hr]

/-- The mark is raised to what is in use, if that is more. -/
theorem highWater (h : Recorded i ev c d) (hle : c.inUse ≤ c.highWater) :
    d.highWater = max c.highWater d.inUse := by
  cases h with
  | take => rfl
  | giveBack => exact (Nat.max_eq_left (Nat.le_trans (Nat.sub_le _ _) hle)).symm
  | refuse => exact (Nat.max_eq_left hle).symm
  | same => exact (Nat.max_eq_left hle).symm

theorem allocations (h : Recorded i ev c d) :
    d.allocations = c.allocations + if ev.takesFrom i then 1 else 0 := by
  cases h with
  | take ht => simp [ht, Counters.take]
  | giveBack ht => simp [ht, Counters.giveBack]
  | refuse ht => simp [ht, Counters.refuse]
  | same ht => simp [ht]

theorem exhausted (h : Recorded i ev c d) :
    d.exhausted = c.exhausted + if ev.refusedBy i then 1 else 0 := by
  cases h with
  | take _ _ he => simp [he, Counters.take]
  | giveBack _ _ he => simp [he, Counters.giveBack]
  | refuse _ _ he => simp [he, Counters.refuse]
  | same _ _ he => simp [he]

end Counters.Recorded

namespace Allocator

variable {a b : Allocator} {ev : PoolEvent} {i : Nat} {ops : List PoolOperation}

/-! ## One operation -/

theorem Effect.recorded (he : Effect a ev b) (i : Nat) :
    Counters.Recorded i ev (a.counters i) (b.counters i) := by
  cases he with
  | declares itemCount itemSize =>
    rw [counters_declared]
    exact .same rfl rfl rfl
  | takes hgain hlast hnext hcount =>
    rw [hcount]
    split
    · next hi => exact .take (decide_eq_true hi.symm) rfl rfl
    · next hi => exact .same (decide_eq_false (Ne.symm hi)) rfl rfl
  | returns hloss hcount =>
    rw [hcount]
    split
    · next hi => exact .giveBack rfl (decide_eq_true hi.symm) rfl
    · next hi => exact .same rfl (decide_eq_false (Ne.symm hi)) rfl
  | refuses pool hkeep hcount =>
    rw [hcount]
    split
    · next hi => exact .refuse rfl rfl (decide_eq_true hi.symm)
    · next hi => exact .same rfl rfl (decide_eq_false (Ne.symm hi))
  | keeps hkeep hcount =>
    rw [hcount]
    exact .same rfl rfl rfl

/-- An item that is taken back was in use. -/
theorem Effect.inUse_pos (he : Effect a ev b) (hr : ev.returnsTo i = true) :
    0 < (a.counters i).inUse := by
  cases he with
  | returns hloss =>
    have hcount := hloss.inUse i
    rw [PoolEvent.returnsTo, decide_eq_true_eq] at hr
    rw [if_pos hr.symm] at hcount
    rw [inUse_counters]
    omega
  | _ => cases hr

/-! ## Runs -/

/-- What was in use at the ends of the beginnings of a run. -/
def levels (a : Allocator) (ops : List PoolOperation) (i : Nat) : Set Nat :=
  {n | ∃ before, before <+: ops ∧ (a.run before).inUse i = n}

theorem levels_snoc (a : Allocator) (ops : List PoolOperation) (op : PoolOperation) (i : Nat) :
    a.levels (ops ++ [op]) i = insert ((a.run (ops ++ [op])).inUse i) (a.levels ops i) := by
  ext n
  simp only [levels, Set.mem_ofPred_eq, Set.mem_insert_iff, List.prefix_concat_iff]
  constructor
  · rintro ⟨before, rfl | hb, hn⟩
    · exact Or.inl hn.symm
    · exact Or.inr ⟨before, hb, hn⟩
  · rintro (rfl | ⟨before, hb, hn⟩)
    · exact ⟨_, Or.inl rfl, rfl⟩
    · exact ⟨before, Or.inr hb, hn⟩

/-- The counters of a pool, as the events of a run from a new allocator explain them. -/
structure Counted (a : Allocator) (ops : List PoolOperation) (i : Nat) (c : Counters) : Prop where
  inUse : c.inUse + (a.events ops).countP (·.returnsTo i) = (a.events ops).countP (·.takesFrom i)
  highWater : IsGreatest (a.levels ops i) c.highWater
  allocations : c.allocations = UInt64.ofNat ((a.events ops).countP (·.takesFrom i))
  exhausted : c.exhausted = UInt64.ofNat ((a.events ops).countP (·.refusedBy i))

theorem counted_nil (context : UInt64) (n i : Nat) : Counted (create context n) [] i .zero := by
  refine ⟨rfl, ⟨⟨[], List.prefix_refl _, rfl⟩, ?_⟩, rfl, rfl⟩
  rintro m ⟨before, hb, rfl⟩
  rw [List.prefix_nil.mp hb]
  rfl

theorem Counted.snoc (wf : a.WellFormed) (h : Counted a ops i ((a.run ops).counters i))
    (op : PoolOperation) : Counted a (ops ++ [op]) i ((a.run (ops ++ [op])).counters i) := by
  have he := effect (wf.run ops) op
  have hrun : a.run (ops ++ [op]) = ((a.run ops).perform op).2 := run_append a ops [op]
  have hevents : a.events (ops ++ [op]) =
      a.events ops ++ [.of op ((a.run ops).perform op).1] := events_append a ops [op]
  have hrecord := he.recorded i
  -- What is in use now is one of the levels, so the mark is not below it.
  have hle := h.highWater.2 ⟨ops, List.prefix_refl _, (inUse_counters _ i).symm⟩
  rw [hrun]
  refine ⟨?_, ?_, ?_, ?_⟩
  · have hstep := hrecord.inUse he.inUse_pos
    have := h.inUse
    rw [hevents, List.countP_append, List.countP_append, List.countP_singleton,
      List.countP_singleton]
    omega
  · rw [hrecord.highWater hle, levels_snoc, hrun, inUse_counters, max_comm]
    exact h.highWater.insert _
  · rw [hrecord.allocations, h.allocations, hevents, List.countP_append, List.countP_singleton,
      UInt64.ofNat_add]
    split <;> rfl
  · rw [hrecord.exhausted, h.exhausted, hevents, List.countP_append, List.countP_singleton,
      UInt64.ofNat_add]
    split <;> rfl

theorem counted (context : UInt64) (n : Nat) (ops : List PoolOperation) (i : Nat) :
    Counted (create context n) ops i (((create context n).run ops).counters i) := by
  induction ops using List.reverseRecOn with
  | nil => exact counted_nil context n i
  | append_singleton ops op ih => exact ih.snoc (wellFormed_create context n) op

/-! ## The books of an allocator -/

/-- What the pool `i` keeps account of, at the end of a run. -/
structure Books (a : Allocator) (ops : List PoolOperation) (i : Nat) (p : SizeClass) : Prop where
  nodup_free : p.free.Nodup
  lt_capacity : ∀ slot ∈ p.free, slot < p.capacity
  mem_free : ∀ slot s, p.slots[slot]? = some s → (slot ∈ p.free ↔ s.allocated = false)
  inUse : p.inUse = p.slots.countP (·.allocated)
  inUse_add_free : p.inUse + p.free.length = p.capacity
  inUse_add_returned : p.inUse + (a.events ops).countP (·.returnsTo i) =
    (a.events ops).countP (·.takesFrom i)
  highWater : IsGreatest (a.levels ops i) p.highWater
  allocations : p.allocations.toNat = (a.events ops).countP (·.takesFrom i)
  exhausted : p.exhausted.toNat = (a.events ops).countP (·.refusedBy i)

/-- The number of events of a run that is not too long is a number that a counter can show. -/
theorem toNat_countP_events (h : ops.length < Word.count 64) (P : PoolEvent → Bool) :
    (UInt64.ofNat ((a.events ops).countP P)).toNat = (a.events ops).countP P := by
  have hle := List.countP_le_length (p := P) (l := a.events ops)
  rw [length_events] at hle
  have hsize : UInt64.size = Word.count 64 := rfl
  exact UInt64.toNat_ofNat_of_lt' (by omega)

theorem books (context : UInt64) (n : Nat) (h : ops.length < Word.count 64) {p : SizeClass}
    (hp : ((create context n).run ops).pools[i]? = some p) :
    Books (create context n) ops i p := by
  have wf := ((wellFormed_create context n).run ops).pool i p hp
  have hcounted := counted context n ops i
  rw [counters_of_pool hp] at hcounted
  refine ⟨wf.nodup_free, fun slot hslot ↦ ((wf.mem_free slot).mp hslot).1, ?_, wf.inUse_eq_countP,
    wf.inUse_add_free, hcounted.inUse, hcounted.highWater,
    (congrArg _ hcounted.allocations).trans (toNat_countP_events h _),
    (congrArg _ hcounted.exhausted).trans (toNat_countP_events h _)⟩
  intro slot s hs
  have hlt := (List.getElem?_eq_some_iff.mp hs).1
  have hflag : p.isAllocated slot = s.allocated := by simp [SizeClass.isAllocated, hs]
  rw [wf.mem_free, hflag]
  exact and_iff_right hlt

/-- How many slots of all pools are handed out. -/
def liveSlots (a : Allocator) : Nat :=
  a.pools.toList.foldr (fun p n ↦ p.slots.countP (·.allocated) + n) 0

theorem WellFormed.outstanding_eq_liveSlots (wf : a.WellFormed) :
    a.statistics.outstanding = a.liveSlots := by
  have hcounts : a.statistics.pools.map (·.inUse) =
      a.pools.toList.map fun p ↦ p.slots.countP (·.allocated) := by
    refine List.ext_getElem? fun i ↦ ?_
    cases hp : a.pools[i]? with
    | none => simp [statistics, hp]
    | some p => simp [statistics, hp, SizeClass.stats, (wf.pool i p hp).inUse_eq_countP]
  calc a.statistics.outstanding = (a.statistics.pools.map (·.inUse)).foldr (· + ·) 0 := by
        rw [List.foldr_map]
        rfl
    _ = a.liveSlots := by
        rw [hcounts, List.foldr_map]
        rfl

/-- **The books are right.** After fewer than `2 ^ 64` operations, of which any may fail, free
stacks, flags and counters of all pools agree with each other and with what was done. -/
theorem bookkeeping (context : UInt64) (n : Nat) (ops : List PoolOperation)
    (h : ops.length < Word.count 64) :
    (∀ i p, ((create context n).run ops).pools[i]? = some p → Books (create context n) ops i p) ∧
      ((create context n).run ops).statistics.outstanding =
        ((create context n).run ops).liveSlots :=
  ⟨fun _ _ hp ↦ books context n h hp,
    ((wellFormed_create context n).run ops).outstanding_eq_liveSlots⟩

/-- A pool of two items that is asked for three, gets one back, and is offered it once more. -/
def crampedPool : List PoolOperation :=
  [.addPool 2 8, .allocate 8 ⟨0, 0⟩, .allocate 5 ⟨0, 0⟩, .allocate 8 ⟨0, 0⟩, .free ⟨7, 0, 0, 1⟩ 0,
    .free ⟨7, 0, 0, 1⟩ 0]

theorem bookkeeping_crampedPool :
    ∃ p, ((create 7 1).run crampedPool).pools[0]? = some p ∧
      Books (create 7 1) crampedPool 0 p ∧ p.counters = ⟨1, 2, 2, 1⟩ ∧
        ((create 7 1).run crampedPool).statistics.outstanding = 1 := by
  obtain ⟨hbooks, houtstanding⟩ := bookkeeping 7 1 crampedPool (by decide)
  refine ⟨_, rfl, hbooks 0 _ rfl, by decide, ?_⟩
  rw [houtstanding]
  decide

end Allocator

end TaskMessaging
