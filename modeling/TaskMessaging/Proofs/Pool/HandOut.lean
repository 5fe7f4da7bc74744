import Mathlib.Data.List.Induction
import TaskMessaging.Proofs.Pool.BestFit
import TaskMessaging.Proofs.Pool.Stack

/-!
# The order in which slots are handed out

Which slot a pool hands out next follows from its past. If slots were handed out and taken back, it
is the one that was taken back last; only if there is none, a slot is used for the first time, and
then it is the lowest one. `Next` says so by the events of a run, without a word on free stacks, and
the law at the end says that allocators keep to it.

## The shape of a free stack

The rules hold because the free stack has two parts. On top are the slots that were taken back, the
latest first, and below are the slots that were never used, in ascending order. Where the second
part begins is nowhere noted: the pool has only its mark of the most items ever in use. The mark is
right about it because a slot is used for the first time exactly when all others are in use, and
just then the mark rises. `Stack` ties the stack, the mark and the past together, with the moment
beside each slot of the first part.
-/

namespace TaskMessaging

/-! ## The past of a slot -/

namespace PoolEvent

/-- An item of the slot was taken back. -/
def returns (place : Nat × Nat) : PoolEvent → Bool
  | .returned h => h.place = place
  | _ => false

/-- The event is about no slot of the pool. -/
def Spares (ev : PoolEvent) (i : Nat) : Prop :=
  ∀ j, ev.takes (i, j) = false ∧ ev.returns (i, j) = false

theorem takes_taken (h : ItemHandle) (place : Nat × Nat) :
    (taken h).takes place = decide (h.place = place) := rfl

theorem returns_returned (h : ItemHandle) (place : Nat × Nat) :
    (returned h).returns place = decide (h.place = place) := rfl

theorem takes_returned (h : ItemHandle) (place : Nat × Nat) :
    (returned h).takes place = false := rfl

theorem returns_taken (h : ItemHandle) (place : Nat × Nat) :
    (taken h).returns place = false := rfl

theorem spares_other (i : Nat) : other.Spares i := fun _ ↦ ⟨rfl, rfl⟩

theorem spares_refused (pool i : Nat) : (refused pool).Spares i := fun _ ↦ ⟨rfl, rfl⟩

theorem spares_taken {h : ItemHandle} {i : Nat} (hi : i ≠ h.pool.toNat) : (taken h).Spares i :=
  fun _ ↦ ⟨decide_eq_false fun he ↦ hi (Prod.mk.inj he).1.symm, rfl⟩

theorem spares_returned {h : ItemHandle} {i : Nat} (hi : i ≠ h.pool.toNat) :
    (returned h).Spares i :=
  fun _ ↦ ⟨rfl, decide_eq_false fun he ↦ hi (Prod.mk.inj he).1.symm⟩

end PoolEvent

namespace Allocator

open SizeClass (Pops Pushes Rests)

variable {a b : Allocator} {history : List PoolEvent} {ev : PoolEvent} {place : Nat × Nat}
  {p q : SizeClass} {back : List (Nat × Nat)} {i k slot : Nat} {h : ItemHandle}

/-- The slot was handed out once. -/
def Used (history : List PoolEvent) (place : Nat × Nat) : Prop :=
  ∃ ev ∈ history, ev.takes place = true

/-- The slot was taken back at a moment and has not been handed out since. -/
structure Freed (history : List PoolEvent) (k : Nat) (place : Nat × Nat) : Prop where
  returned : ∃ ev, history[k]? = some ev ∧ ev.returns place = true
  waits : ∀ m ev, k < m → history[m]? = some ev → ev.takes place = false

/-- The slot of a pool that the rules hand out next. -/
inductive Next (history : List PoolEvent) (a : Allocator) (i : Nat) : Nat → Prop where
  /-- The slot that was taken back last, of those that were not handed out since. -/
  | freed {k slot : Nat} : Freed history k (i, slot) →
      (∀ m j, Freed history m (i, j) → m ≤ k) → Next history a i slot
  /-- The lowest slot that was never used, if all that were used are in use. -/
  | fresh {slot : Nat} : (∀ j, Used history (i, j) → a.isAllocated (i, j) = true) →
      (a.usage (i, slot)).isSome → ¬ Used history (i, slot) →
      (∀ j < slot, Used history (i, j)) → Next history a i slot

theorem used_snoc : Used (history ++ [ev]) place ↔ Used history place ∨ ev.takes place = true := by
  simp only [Used, List.mem_append, List.mem_singleton, or_and_right, exists_or, exists_eq_left]

private theorem getElem?_snoc_eq_some {α : Type} {l : List α} {x y : α} {m : Nat} :
    (l ++ [x])[m]? = some y ↔ l[m]? = some y ∨ m = l.length ∧ x = y := by
  rcases Nat.lt_trichotomy m l.length with hlt | rfl | hgt
  · rw [List.getElem?_append_left hlt]
    simp [Nat.ne_of_lt hlt]
  · simp
  · rw [List.getElem?_eq_none (by simp; omega), List.getElem?_eq_none (Nat.le_of_lt hgt)]
    simp [Nat.ne_of_gt hgt]

theorem Freed.lt_length (hf : Freed history k place) : k < history.length := by
  obtain ⟨ev, hk, -⟩ := hf.returned
  exact (List.getElem?_eq_some_iff.mp hk).1

theorem freed_snoc : Freed (history ++ [ev]) k place ↔
    Freed history k place ∧ ev.takes place = false ∨
      k = history.length ∧ ev.returns place = true := by
  constructor
  · rintro ⟨⟨e, hk, hr⟩, hwaits⟩
    rcases getElem?_snoc_eq_some.mp hk with hold | ⟨hnew, rfl⟩
    · have hlt := (List.getElem?_eq_some_iff.mp hold).1
      left
      refine ⟨⟨⟨e, hold, hr⟩, fun m e' hm he' ↦ ?_⟩, ?_⟩
      · exact hwaits m e' hm (getElem?_snoc_eq_some.mpr (Or.inl he'))
      · exact hwaits _ ev hlt (getElem?_snoc_eq_some.mpr (Or.inr ⟨rfl, rfl⟩))
    · exact Or.inr ⟨hnew, hr⟩
  · rintro (⟨hf, ht⟩ | ⟨rfl, hr⟩)
    · obtain ⟨e, hk, hr⟩ := hf.returned
      refine ⟨⟨e, getElem?_snoc_eq_some.mpr (Or.inl hk), hr⟩, fun m e' hm he' ↦ ?_⟩
      rcases getElem?_snoc_eq_some.mp he' with hold | ⟨-, rfl⟩
      · exact hf.waits m e' hm hold
      · exact ht
    · refine ⟨⟨ev, getElem?_snoc_eq_some.mpr (Or.inr ⟨rfl, rfl⟩), hr⟩, fun m e' hm he' ↦ ?_⟩
      -- Behind the last event there is no other.
      have hlt := (List.getElem?_eq_some_iff.mp he').1
      rw [List.length_append, List.length_singleton] at hlt
      omega

theorem used_of_spares (hs : ev.Spares i) {j : Nat} :
    Used (history ++ [ev]) (i, j) ↔ Used history (i, j) := by
  rw [used_snoc, (hs j).1]
  simp

theorem freed_of_spares (hs : ev.Spares i) {j : Nat} :
    Freed (history ++ [ev]) k (i, j) ↔ Freed history k (i, j) := by
  rw [freed_snoc, (hs j).1, (hs j).2]
  simp

theorem used_taken (hplace : h.place = (i, slot)) {j : Nat} :
    Used (history ++ [.taken h]) (i, j) ↔ Used history (i, j) ∨ slot = j := by
  rw [used_snoc, PoolEvent.takes_taken, hplace]
  simp

theorem freed_taken (hplace : h.place = (i, slot)) {j : Nat} :
    Freed (history ++ [.taken h]) k (i, j) ↔ Freed history k (i, j) ∧ slot ≠ j := by
  rw [freed_snoc, PoolEvent.takes_taken, PoolEvent.returns_taken, hplace]
  simp

theorem used_returned {j : Nat} :
    Used (history ++ [.returned h]) (i, j) ↔ Used history (i, j) := by
  rw [used_snoc, PoolEvent.takes_returned]
  simp

theorem freed_returned (hplace : h.place = (i, slot)) {j : Nat} :
    Freed (history ++ [.returned h]) k (i, j) ↔
      Freed history k (i, j) ∨ k = history.length ∧ slot = j := by
  rw [freed_snoc, PoolEvent.takes_returned, PoolEvent.returns_returned, hplace]
  simp

/-! ## One pool -/

theorem isAllocated_of_pool (hp : a.pools[i]? = some p) (j : Nat) :
    a.isAllocated (i, j) = p.isAllocated j := by
  rw [SizeClass.isAllocated_eq_usage, isAllocated, usage, hp]
  rfl

theorem usage_isSome_iff (hp : a.pools[i]? = some p) (j : Nat) :
    (a.usage (i, j)).isSome ↔ j < p.capacity := by
  rw [SizeClass.lt_capacity_iff_usage, usage, hp]
  rfl

/-- The free stack of the pool `i`: the slots that were taken back, each behind the moment, and
those that were never used, from the mark on. -/
structure Stack (history : List PoolEvent) (i : Nat) (p : SizeClass)
    (back : List (Nat × Nat)) : Prop where
  free : p.free = back.map (·.2) ++ List.range' p.highWater (p.capacity - p.highWater)
  highWater_le : p.highWater ≤ p.capacity
  mem_back : ∀ k j, (k, j) ∈ back ↔ Freed history k (i, j)
  descending : back.Pairwise fun x y ↦ y.1 < x.1
  used : ∀ j, Used history (i, j) ↔ j < p.highWater
  untouched : ∀ j s, p.highWater ≤ j → p.slots[j]? = some s → s = .fresh p.itemSize

namespace Stack

/-- The two parts of the stack have no slot in common. -/
theorem lt_highWater (hs : Stack history i p back) (wf : p.WellFormed) {j : Nat}
    (hm : (k, j) ∈ back) : j < p.highWater := by
  have hback : j ∈ back.map (·.2) := List.mem_map_of_mem hm
  have hfree : j ∈ p.free := by
    rw [hs.free]
    exact List.mem_append_left _ hback
  have hlt := ((wf.mem_free j).mp hfree).1
  have hnodup := wf.nodup_free
  rw [hs.free] at hnodup
  by_contra hge
  have hrange : j ∈ List.range' p.highWater (p.capacity - p.highWater) := by
    rw [List.mem_range'_1]
    omega
  exact (List.nodup_append.mp hnodup).2.2 j hback j hrange rfl

theorem isAllocated_iff (hs : Stack history i p back) (wf : p.WellFormed) {j : Nat} :
    p.isAllocated j = true ↔ j < p.highWater ∧ ∀ k, (k, j) ∉ back := by
  have hle := hs.highWater_le
  have hfree := wf.mem_free j
  rw [hs.free, List.mem_append, List.mem_range'_1] at hfree
  constructor
  · intro ha
    have hlt := SizeClass.lt_capacity_of_isAllocated ha
    rw [ha] at hfree
    refine ⟨?_, fun k hm ↦ ?_⟩
    · by_contra hge
      have := hfree.mp (Or.inr (by omega))
      simp at this
    · have := hfree.mp (Or.inl (List.mem_map_of_mem hm))
      simp at this
  · rintro ⟨hlt, hback⟩
    by_contra ha
    -- A slot that is not handed out is in one of the two parts.
    rcases hfree.mpr ⟨by omega, Bool.eq_false_iff.mpr ha⟩ with hm | hge
    · obtain ⟨⟨k, l⟩, hkl, rfl⟩ := List.mem_map.mp hm
      exact hback k hkl
    · omega

/-- What happens to other pools is nothing to this one. -/
theorem skip (hs : Stack history i p back) (hspares : ev.Spares i) :
    Stack (history ++ [ev]) i p back where
  free := hs.free
  highWater_le := hs.highWater_le
  mem_back k j := (hs.mem_back k j).trans (freed_of_spares hspares).symm
  descending := hs.descending
  used j := (used_of_spares hspares).trans (hs.used j)
  untouched := hs.untouched

theorem rest (hs : Stack history i p back) (wf : p.WellFormed) (hr : Rests p q) :
    Stack history i q back where
  free := by rw [hr.free, hr.highWater, hr.capacity, hs.free]
  highWater_le := by rw [hr.highWater, hr.capacity]; exact hs.highWater_le
  mem_back := hs.mem_back
  descending := hs.descending
  used := by rw [hr.highWater]; exact hs.used
  untouched j s hj hq := by
    rw [hr.highWater] at hj
    rw [hr.itemSize]
    refine hs.untouched j s hj ?_
    rw [← hr.slots j, hq]
    refine Bool.eq_false_iff.mpr fun ha ↦ ?_
    have := ((hs.isAllocated_iff wf).mp ha).1
    omega

theorem untouched_of_pops (hs : Stack history i p back) (hp : Pops p q slot)
    {j : Nat} {s : Slot} (hj : p.highWater ≤ j) (hne : j ≠ slot) (hq : q.slots[j]? = some s) :
    s = .fresh q.itemSize := by
  rw [hp.itemSize]
  exact hs.untouched j s hj ((hp.slots j hne).symm.trans hq)

/-- All slots below the mark are in use: the slot at the mark is taken, and the mark rises. -/
theorem pop_fresh (hs : Stack history i p []) (wf : p.WellFormed) (hp : Pops p q slot)
    (hplace : h.place = (i, slot)) : Stack (history ++ [.taken h]) i q [] := by
  have hle := hs.highWater_le
  have hcount := wf.inUse_add_free
  have hfree := hs.free
  rw [hp.free] at hfree hcount
  obtain ⟨n, hn⟩ : ∃ n, p.capacity - p.highWater = n + 1 := by
    refine Nat.exists_eq_succ_of_ne_zero fun hzero ↦ ?_
    rw [hzero] at hfree
    cases hfree
  rw [hn, List.map_nil, List.nil_append, List.range'_succ, List.cons.injEq] at hfree
  obtain ⟨rfl, hrest⟩ := hfree
  have hmark : q.highWater = p.highWater + 1 := by
    rw [hp.highWater]
    rw [hrest, List.length_cons, List.length_range'] at hcount
    omega
  constructor
  case free =>
    rw [hmark, hp.capacity, hrest, List.map_nil, List.nil_append]
    congr 1
    omega
  case highWater_le =>
    rw [hmark, hp.capacity]
    omega
  case mem_back =>
    intro k j
    rw [freed_taken hplace, ← hs.mem_back]
    simp
  case descending => exact List.Pairwise.nil
  case used =>
    intro j
    rw [used_taken hplace, hs.used, hmark]
    omega
  case untouched =>
    intro j s hj hq
    exact hs.untouched_of_pops hp (by omega) (by omega) hq

/-- The slot that was taken back last is taken, and the mark stays. -/
theorem pop_again {j : Nat} (hs : Stack history i p ((k, j) :: back)) (wf : p.WellFormed)
    (hp : Pops p q slot) (hplace : h.place = (i, slot)) :
    Stack (history ++ [.taken h]) i q back := by
  have hcount := wf.inUse_add_free
  have hnodup := wf.nodup_free
  have hfree := hs.free
  rw [hp.free] at hfree hcount hnodup
  rw [List.map_cons, List.cons_append, List.cons.injEq] at hfree
  obtain ⟨rfl, hrest⟩ := hfree
  have hslot : slot < p.highWater := hs.lt_highWater wf List.mem_cons_self
  have hmark : q.highWater = p.highWater := by
    have hle := hs.highWater_le
    rw [hp.highWater]
    rw [hrest, List.length_cons, List.length_append, List.length_range'] at hcount
    omega
  constructor
  case free => rw [hmark, hp.capacity, hrest]
  case highWater_le =>
    rw [hmark, hp.capacity]
    exact hs.highWater_le
  case mem_back =>
    intro m l
    rw [freed_taken hplace, ← hs.mem_back, List.mem_cons]
    constructor
    · intro hm
      refine ⟨Or.inr hm, ?_⟩
      -- The slot that was on top is not among the others.
      rintro rfl
      rw [hrest] at hnodup
      exact (List.nodup_cons.mp hnodup).1 (List.mem_append_left _ (List.mem_map_of_mem hm))
    · rintro ⟨hm | hm, hne⟩
      · exact absurd (Prod.mk.inj hm).2.symm hne
      · exact hm
  case descending => exact hs.descending.of_cons
  case used =>
    intro j
    rw [used_taken hplace, hs.used, hmark]
    apply or_iff_left_of_imp
    rintro rfl
    exact hslot
  case untouched =>
    intro j s hj hq
    exact hs.untouched_of_pops hp (by omega) (by omega) hq

/-- **Handing out keeps the shape of the stack**, with one slot less in its first part, or with the
mark one higher if there was none. -/
theorem pop (hs : Stack history i p back) (wf : p.WellFormed) (hp : Pops p q slot)
    (hplace : h.place = (i, slot)) : ∃ back', Stack (history ++ [.taken h]) i q back' := by
  cases back with
  | nil => exact ⟨[], hs.pop_fresh wf hp hplace⟩
  | cons x rest => exact ⟨rest, hs.pop_again wf hp hplace⟩

/-- Taking back puts the slot in front of all that were taken back before. -/
theorem push (hs : Stack history i p back) (wf : p.WellFormed) (hp : Pushes p q slot)
    (hplace : h.place = (i, slot)) :
    Stack (history ++ [.returned h]) i q ((history.length, slot) :: back) := by
  have hslot := ((hs.isAllocated_iff wf).mp hp.allocated).1
  constructor
  case free => rw [hp.free, hp.highWater, hp.capacity, hs.free, List.map_cons, List.cons_append]
  case highWater_le =>
    rw [hp.highWater, hp.capacity]
    exact hs.highWater_le
  case mem_back =>
    intro k j
    rw [freed_returned hplace, ← hs.mem_back, List.mem_cons, Prod.mk.injEq]
    rw [or_comm, eq_comm (a := j)]
  case descending =>
    refine List.pairwise_cons.mpr ⟨?_, hs.descending⟩
    rintro ⟨k, j⟩ hm
    exact ((hs.mem_back k j).mp hm).lt_length
  case used =>
    intro j
    rw [used_returned, hs.used, hp.highWater]
  case untouched =>
    intro j s hj hq
    rw [hp.highWater] at hj
    rw [hp.itemSize]
    apply hs.untouched j s hj
    rw [← hp.slots j (by omega), hq]

/-- The slot that the rules hand out next is on top of the stack. -/
theorem head_of_next (hs : Stack history i p back) (wf : p.WellFormed)
    (hp : a.pools[i]? = some p) (hn : Next history a i slot) : p.free.head? = some slot := by
  cases hn with
  | @freed k slot hf hlast =>
    have hm := (hs.mem_back k slot).mpr hf
    cases back with
    | nil => exact absurd hm List.not_mem_nil
    | cons x rest =>
      obtain ⟨m, j⟩ := x
      -- The first of the descending moments is the last one.
      rcases List.mem_cons.mp hm with he | hrest
      · rw [hs.free, (Prod.mk.inj he).2]
        rfl
      · have hlt : k < m := (List.pairwise_cons.mp hs.descending).1 _ hrest
        have hge := hlast m j ((hs.mem_back m j).mp List.mem_cons_self)
        omega
  | fresh hbusy hslot hunused hlow =>
    rw [hs.used] at hunused
    rw [usage_isSome_iff hp] at hslot
    cases back with
    | nil =>
      -- The mark is neither above the slot nor below it.
      have hmark : p.highWater = slot := by
        refine Nat.le_antisymm (by omega) (Nat.le_of_not_lt fun hlt ↦ ?_)
        have := (hs.used _).mp (hlow _ hlt)
        omega
      rw [hs.free, hmark, List.map_nil, List.nil_append, List.head?_range', if_neg (by omega)]
    | cons x rest =>
      have hlt := hs.lt_highWater wf (List.mem_cons_self (a := x))
      have hall := hbusy x.2 ((hs.used x.2).mpr hlt)
      rw [isAllocated_of_pool hp, hs.isAllocated_iff wf] at hall
      exact absurd List.mem_cons_self (hall.2 x.1)

/-- The top of the stack comes next by the rules. -/
theorem next_of_head (hs : Stack history i p back) (wf : p.WellFormed)
    (hp : a.pools[i]? = some p) (hhead : p.free.head? = some slot) : Next history a i slot := by
  rw [hs.free] at hhead
  cases back with
  | nil =>
    rw [List.map_nil, List.nil_append, List.head?_range'] at hhead
    split at hhead
    · cases hhead
    · next hroom =>
      obtain rfl := Option.some.inj hhead
      apply Next.fresh
      · intro j hj
        rw [isAllocated_of_pool hp, hs.isAllocated_iff wf]
        exact ⟨(hs.used j).mp hj, fun k ↦ List.not_mem_nil⟩
      · rw [usage_isSome_iff hp]
        omega
      · rw [hs.used]
        exact Nat.lt_irrefl _
      · exact fun j hj ↦ (hs.used j).mpr hj
  | cons x rest =>
    obtain ⟨k, j⟩ := x
    obtain rfl := Option.some.inj hhead
    apply Next.freed ((hs.mem_back k j).mp List.mem_cons_self)
    intro m l hf
    rcases List.mem_cons.mp ((hs.mem_back m l).mpr hf) with he | hm
    · exact Nat.le_of_eq (Prod.mk.inj he).1
    · exact Nat.le_of_lt ((List.pairwise_cons.mp hs.descending).1 _ hm)

/-- **The top of the stack is the slot that the rules hand out next.** -/
theorem next_iff (hs : Stack history i p back) (wf : p.WellFormed)
    (hp : a.pools[i]? = some p) : Next history a i slot ↔ p.free.head? = some slot :=
  ⟨hs.head_of_next wf hp, hs.next_of_head wf hp⟩

end Stack

/-! ## All pools -/

/-- Nothing happened in the pool. -/
def Idle (history : List PoolEvent) (i : Nat) : Prop :=
  ∀ j, ¬ Used history (i, j) ∧ ∀ k, ¬ Freed history k (i, j)

theorem Idle.skip (hi : Idle history i) (hspares : ev.Spares i) : Idle (history ++ [ev]) i := by
  intro j
  refine ⟨?_, fun k ↦ ?_⟩
  · rw [used_of_spares hspares]
    exact (hi j).1
  · rw [freed_of_spares hspares]
    exact (hi j).2 k

/-- In a new pool all slots are in the second part. -/
theorem Idle.stack (hi : Idle history i) (count size : Nat) :
    Stack history i (.create count size) [] where
  free := by
    rw [SizeClass.capacity_create]
    exact List.range_eq_range'
  highWater_le := Nat.zero_le _
  mem_back k j := iff_of_false List.not_mem_nil ((hi j).2 k)
  descending := List.Pairwise.nil
  used j := iff_of_false (hi j).1 (Nat.not_lt_zero j)
  untouched j s _ hj := (List.mem_replicate.mp (List.mem_of_getElem? hj)).2

/-- The free stacks of all pools have their shape, and nothing happened elsewhere. -/
structure Tracks (history : List PoolEvent) (a : Allocator) : Prop where
  pool : ∀ i p, a.pools[i]? = some p → ∃ back, Stack history i p back
  absent : ∀ i, a.pools[i]? = none → Idle history i

namespace Tracks

theorem skip (ht : Tracks history a) (hspares : ∀ i, ev.Spares i) :
    Tracks (history ++ [ev]) a := by
  refine ⟨fun i p hp ↦ ?_, fun i hi ↦ (ht.absent i hi).skip (hspares i)⟩
  obtain ⟨back, hs⟩ := ht.pool i p hp
  exact ⟨back, hs.skip (hspares i)⟩

/-- An event in one pool is nothing to the others. -/
theorem setPool (ht : Tracks history a) (hp : a.pools[i]? = some p)
    (hq : ∃ back, Stack (history ++ [ev]) i q back) (hspares : ∀ j ≠ i, ev.Spares j) :
    Tracks (history ++ [ev]) (a.setPool i q) := by
  constructor
  · intro j r hr
    rw [pool_setPool hp] at hr
    split at hr
    · next hj =>
      obtain rfl := Option.some.inj hr
      rw [hj]
      exact hq
    · next hj =>
      obtain ⟨back, hs⟩ := ht.pool j r hr
      exact ⟨back, hs.skip (hspares j hj)⟩
  · intro j hr
    rw [pool_setPool hp] at hr
    split at hr
    · cases hr
    · next hj => exact (ht.absent j hr).skip (hspares j hj)

theorem declared (ht : Tracks history a) (itemCount itemSize : Nat) :
    Tracks history (a.declared itemCount itemSize) := by
  constructor
  · intro i p hp
    rw [pool_declared] at hp
    split at hp
    · next hi =>
      obtain rfl := Option.some.inj hp
      exact ⟨[], (ht.absent i (Array.getElem?_eq_none (Nat.le_of_eq hi.symm))).stack _ _⟩
    · exact ht.pool i p hp
  · intro i hi
    rw [pool_declared] at hi
    split at hi
    · cases hi
    · exact ht.absent i hi

/-- **Every operation keeps the shape of the free stacks.** -/
theorem turn (ht : Tracks history a) (wf : a.WellFormed) (hturn : Turn a ev b) :
    Tracks (history ++ [ev]) b := by
  cases hturn with
  | declares itemCount itemSize =>
    exact (ht.declared itemCount itemSize).skip PoolEvent.spares_other
  | @pops h p q hp hpops =>
    obtain ⟨back, hs⟩ := ht.pool _ p hp
    exact ht.setPool hp (hs.pop (wf.pool _ p hp) hpops rfl) fun j ↦ PoolEvent.spares_taken
  | @pushes h p q hp hpushes =>
    obtain ⟨back, hs⟩ := ht.pool _ p hp
    exact ht.setPool hp ⟨_, hs.push (wf.pool _ p hp) hpushes rfl⟩ fun j ↦ PoolEvent.spares_returned
  | @refuses i p q hp hrests =>
    obtain ⟨back, hs⟩ := ht.pool i p hp
    have hspares := PoolEvent.spares_refused i
    exact ht.setPool hp ⟨back, (hs.rest (wf.pool i p hp) hrests).skip (hspares i)⟩
      fun j _ ↦ hspares j
  | @rests i p q hp hrests =>
    obtain ⟨back, hs⟩ := ht.pool i p hp
    have hspares := PoolEvent.spares_other
    exact ht.setPool hp ⟨back, (hs.rest (wf.pool i p hp) hrests).skip (hspares i)⟩
      fun j _ ↦ hspares j
  | nothing => exact ht.skip PoolEvent.spares_other

end Tracks

theorem tracks_run (context : UInt64) (n : Nat) (ops : List PoolOperation) :
    Tracks ((create context n).events ops) ((create context n).run ops) := by
  induction ops using List.reverseRecOn with
  | nil =>
    refine ⟨fun i p hp ↦ ?_, fun i _ j ↦ ⟨?_, fun k hf ↦ ?_⟩⟩
    · cases hp
    · rintro ⟨ev, hev, -⟩
      cases hev
    · cases hf.lt_length
  | append_singleton ops op ih =>
    have wf := (wellFormed_create context n).run ops
    rw [events_append, run_append]
    exact ih.turn wf (Allocator.turn wf op)

/-! ## The law -/

theorem Tracks.next_of_taken (ht : Tracks history a) (wf : a.WellFormed)
    (hturn : Turn a (.taken h) b) : Next history a h.pool.toNat h.slot.toNat := by
  cases hturn with
  | @pops h p q hp hpops =>
    obtain ⟨back, hs⟩ := ht.pool _ p hp
    rw [hs.next_iff (wf.pool _ p hp) hp, hpops.free]
    rfl

/-- A request gets the slot that comes next. -/
theorem Tracks.allocate (ht : Tracks history a) (wf : a.WellFormed) {size : Nat} (tags : Tags)
    (hi : a.bestFit? size = some i) (hnext : Next history a i slot) :
    ∃ h, (a.allocate size tags).1 = .ok h ∧ h.place = (i, slot) := by
  rcases ha : a.allocate size tags with ⟨r, b⟩
  cases request_of_allocate wf ha with
  | noFit hnone =>
    rw [hnone] at hi
    cases hi
  | @refused k p q hk hp hpop =>
    obtain rfl := Option.some.inj (hk.symm.trans hi)
    obtain ⟨back, hs⟩ := ht.pool _ p hp
    rw [hs.next_iff (wf.pool _ p hp) hp, (SizeClass.sameUsage_of_pop_none hpop).1] at hnext
    cases hnext
  | @served k p q top generation hk hp hpop =>
    obtain rfl := Option.some.inj (hk.symm.trans hi)
    obtain ⟨back, hs⟩ := ht.pool _ p hp
    have hwf := wf.pool _ p hp
    rw [hs.next_iff hwf hp, SizeClass.free_of_pop hpop] at hnext
    obtain rfl := Option.some.inj hnext
    exact ⟨_, rfl, wf.place_mk hp (SizeClass.takes_of_pop hwf hpop).lt_capacity _ _⟩

theorem Tracks.exists_freed_iff (ht : Tracks history a) (wf : a.WellFormed) (place : Nat × Nat) :
    (∃ k, Freed history k place) ↔ Used history place ∧ a.isAllocated place = false := by
  obtain ⟨i, j⟩ := place
  cases hp : a.pools[i]? with
  | none =>
    obtain ⟨hused, hfreed⟩ := ht.absent i hp j
    exact iff_of_false (fun ⟨k, hk⟩ ↦ hfreed k hk) fun hu ↦ hused hu.1
  | some p =>
    obtain ⟨back, hs⟩ := ht.pool i p hp
    have hflag := hs.isAllocated_iff (wf.pool i p hp) (j := j)
    rw [isAllocated_of_pool hp, hs.used, ← Bool.not_eq_true, hflag]
    simp only [← hs.mem_back]
    constructor
    · rintro ⟨k, hk⟩
      exact ⟨hs.lt_highWater (wf.pool i p hp) hk, fun hu ↦ hu.2 k hk⟩
    · rintro ⟨hlt, hnot⟩
      by_contra hnone
      exact hnot ⟨hlt, fun k hk ↦ hnone ⟨k, hk⟩⟩

/-- What handing out obeys, over a run of an allocator and after it. -/
structure HandOutLaw (a : Allocator) (ops : List PoolOperation) : Prop where
  /-- Whatever is handed out, for a request or for a copy, came next in its pool. -/
  order : ∀ k h, (a.events ops)[k]? = some (.taken h) →
    Next ((a.events ops).take k) (a.run (ops.take k)) h.pool.toNat h.slot.toNat
  /-- A request is answered with the slot that comes next in the pool that fits best, of those that
  were declared. -/
  served : ∀ size tags i slot, BestFit ((a.declarations ops).map (·.2)) size i →
    Next (a.events ops) (a.run ops) i slot →
    ∃ h, ((a.run ops).allocate size tags).1 = .ok h ∧ h.place = (i, slot)
  /-- The slots that wait to be handed out again are those that were used and are not in use. -/
  waiting : ∀ place, (∃ k, Freed (a.events ops) k place) ↔
    Used (a.events ops) place ∧ (a.run ops).isAllocated place = false
  /-- The slots that were ever handed out are those below the mark. -/
  used : ∀ (i : Nat) (p : SizeClass), (a.run ops).pools[i]? = some p →
    p.highWater ≤ p.capacity ∧ ∀ j, Used (a.events ops) (i, j) ↔ j < p.highWater
  /-- The others are as new. -/
  untouched : ∀ (i : Nat) (p : SizeClass), (a.run ops).pools[i]? = some p →
    ∀ (j : Nat) (s : Slot), p.highWater ≤ j → p.slots[j]? = some s →
    s.generation = 0 ∧ s.bytes = List.replicate p.itemSize 0

/-- **The law of handing out.** Over every run of an allocator, each pool hands out the slot that
was taken back last, and uses a slot for the first time only if all that it ever used are in use. -/
theorem hand_out_law (context : UInt64) (n : Nat) (ops : List PoolOperation) :
    HandOutLaw (create context n) ops := by
  have wf := wellFormed_create context n
  have ht := tracks_run context n ops
  refine ⟨?_, ?_, ht.exists_freed_iff (wf.run ops), ?_, ?_⟩
  · intro k h hk
    obtain ⟨op, -, hop⟩ := exists_of_event hk
    have hturn := turn (wf.run (ops.take k)) op
    rw [hop] at hturn
    rw [← events_take]
    exact (tracks_run context n (ops.take k)).next_of_taken (wf.run _) hturn
  · intro size tags i slot hi hnext
    rw [← sizes_of_layout (layout_run wf ops), ← (wf.run ops).bestFit?_eq_some_iff_bestFit] at hi
    exact ht.allocate (wf.run ops) tags hi hnext
  · intro i p hp
    obtain ⟨back, hs⟩ := ht.pool i p hp
    exact ⟨hs.highWater_le, hs.used⟩
  · intro i p hp j s hj hslot
    obtain ⟨back, hs⟩ := ht.pool i p hp
    rw [hs.untouched j s hj hslot]
    exact ⟨rfl, rfl⟩

/-- Of three slots two are used and taken back, and the later of them comes first. -/
example : (((create 7 1).run [.addPool 3 8, .allocate 8 ⟨0, 0⟩, .allocate 8 ⟨0, 0⟩,
    .free ⟨7, 0, 0, 1⟩ 0, .free ⟨7, 0, 1, 1⟩ 0]).allocate 8 ⟨0, 0⟩).1 = .ok ⟨7, 0, 1, 2⟩ := by
  decide

end Allocator

end TaskMessaging
