import TaskMessaging.Proofs.Pool.Run

/-!
# The free stacks

`Effect` says which slots an operation hands out and takes back, but not from where. Here the
operations are looked at once more, for what they do to the stacks of free slots: handing out takes
the top of one, taking back puts a slot on top of one, and every other operation leaves all stacks
as they are, with all slots on them. The mark of the most items in use moves in the first case only.

`turn` says this of one operation and is all that the order of slots is proved from.
-/

namespace TaskMessaging

namespace SizeClass

variable {p q : SizeClass} {slot : Nat} {tags : Tags}

/-- The slot on top of the stack is handed out. -/
structure Pops (p q : SizeClass) (slot : Nat) : Prop where
  itemSize : q.itemSize = p.itemSize
  capacity : q.capacity = p.capacity
  free : p.free = slot :: q.free
  highWater : q.highWater = max p.highWater (p.inUse + 1)
  slots : ∀ j ≠ slot, q.slots[j]? = p.slots[j]?

/-- A slot that was handed out is put on top of the stack. -/
structure Pushes (p q : SizeClass) (slot : Nat) : Prop where
  itemSize : q.itemSize = p.itemSize
  capacity : q.capacity = p.capacity
  allocated : p.isAllocated slot = true
  free : q.free = slot :: p.free
  highWater : q.highWater = p.highWater
  slots : ∀ j ≠ slot, q.slots[j]? = p.slots[j]?

/-- The stack stays as it is, and so do the slots on it. -/
structure Rests (p q : SizeClass) : Prop where
  itemSize : q.itemSize = p.itemSize
  capacity : q.capacity = p.capacity
  free : q.free = p.free
  highWater : q.highWater = p.highWater
  slots : ∀ j, p.isAllocated j = false → q.slots[j]? = p.slots[j]?

theorem slots_modify_of_ne {f : Slot → Slot} {j : Nat} (hj : j ≠ slot) :
    (p.slots.modify slot f)[j]? = p.slots[j]? := List.getElem?_modify_ne _ _ hj.symm

theorem free_of_pop {generation : UInt32} (h : p.pop tags = (some (slot, generation), q)) :
    p.free = slot :: q.free := by
  rw [pop] at h
  cases hf : p.free with
  | nil => simp [hf] at h
  | cons top rest =>
    simp only [hf, Prod.mk.injEq, Option.some.injEq] at h
    obtain ⟨⟨rfl, -⟩, rfl⟩ := h
    rfl

theorem pops_of_pop (wf : p.WellFormed) {generation : UInt32}
    (h : p.pop tags = (some (slot, generation), q)) : Pops p q slot := by
  have ht := takes_of_pop wf h
  refine ⟨ht.itemSize, ht.capacity, free_of_pop h,
    congrArg Counters.highWater (usage_of_pop wf h).1, fun j hj ↦ ?_⟩
  rw [slots_of_pop h, slots_modify_of_ne hj]

/-- What was just handed out may be filled in. -/
theorem Pops.setBytes (h : Pops p q slot) (bytes : List UInt8) :
    Pops p (q.setBytes slot bytes) slot where
  itemSize := h.itemSize
  capacity := (List.length_modify _ _ _).trans h.capacity
  free := h.free
  highWater := h.highWater
  slots j hj := (slots_modify_of_ne hj).trans (h.slots j hj)

theorem pushes_push (h : p.isAllocated slot = true) (releaseTag : UInt16) :
    Pushes p (p.push slot releaseTag) slot :=
  ⟨rfl, capacity_push p slot releaseTag, h, rfl, rfl, fun _ hj ↦ slots_modify_of_ne hj⟩

theorem rests_of_pop_none (h : p.pop tags = (none, q)) : Rests p q := by
  have hsame := (sameUsage_of_pop_none h).2
  refine ⟨hsame.itemSize, hsame.capacity, hsame.free,
    congrArg Counters.highWater (counters_of_pop_none h), fun j _ ↦ ?_⟩
  rw [slots_of_pop_none h]

/-- Whatever is done to a slot that is handed out, the stack and the slots on it stay. -/
theorem rests_modify (h : p.isAllocated slot = true) (f : Slot → Slot) :
    Rests p { p with slots := p.slots.modify slot f } := by
  refine ⟨rfl, List.length_modify _ _ _, rfl, rfl, fun j hj ↦ slots_modify_of_ne ?_⟩
  rintro rfl
  rw [h] at hj
  cases hj

end SizeClass

namespace Allocator

open SizeClass (Pops Pushes Rests)

variable {a b : Allocator} {h : ItemHandle} {p : SizeClass} {s : Slot} {size : Nat} {tags : Tags}

theorem pool_of_validate (hv : a.validate h = .ok (p, s)) :
    a.pools[h.pool.toNat]? = some p ∧ p.isAllocated h.slot.toNat = true := by
  obtain ⟨hp, -, hs⟩ := validate_eq_ok_iff.mp hv
  exact ⟨hp, SizeClass.isAllocated_of_check hs⟩

/-- What an event means for the free stacks. -/
inductive Turn (a : Allocator) : PoolEvent → Allocator → Prop where
  | declares (itemCount itemSize : Nat) : Turn a .other (a.declared itemCount itemSize)
  | pops {h : ItemHandle} {p q : SizeClass} : a.pools[h.pool.toNat]? = some p →
      Pops p q h.slot.toNat → Turn a (.taken h) (a.setPool h.pool.toNat q)
  | pushes {h : ItemHandle} {p q : SizeClass} : a.pools[h.pool.toNat]? = some p →
      Pushes p q h.slot.toNat → Turn a (.returned h) (a.setPool h.pool.toNat q)
  | refuses {i : Nat} {p q : SizeClass} : a.pools[i]? = some p → Rests p q →
      Turn a (.refused i) (a.setPool i q)
  | rests {i : Nat} {p q : SizeClass} : a.pools[i]? = some p → Rests p q →
      Turn a .other (a.setPool i q)
  | nothing : Turn a .other a

/-- The top of the stack is handed out under a handle that names it. -/
theorem turn_of_pops (wf : a.WellFormed) {i slot : Nat} {q : SizeClass} {generation : UInt32}
    (hp : a.pools[i]? = some p) (hlt : slot < p.capacity) (hpops : Pops p q slot) :
    Turn a (.taken ⟨a.context, UInt16.ofNat i, UInt32.ofNat slot, generation⟩)
      (a.setPool i q) := by
  have hpool := wf.toNat_pool hp
  have hslot := wf.toNat_slot hp hlt
  have hturn : Turn a (.taken ⟨a.context, UInt16.ofNat i, UInt32.ofNat slot, generation⟩)
      (a.setPool (UInt16.ofNat i).toNat q) :=
    .pops (p := p) (by dsimp only; rw [hpool, hp]) (by dsimp only; rw [hslot]; exact hpops)
  rwa [hpool] at hturn

theorem turn_of_allocate (wf : a.WellFormed) {r : Except PoolError ItemHandle}
    (h : a.allocate size tags = (r, b)) :
    Turn a (.of (.allocate size tags) (.ofResult .item r)) b := by
  cases request_of_allocate wf h with
  | noFit => exact .nothing
  | refused hi hp hpop => exact .refuses hp (SizeClass.rests_of_pop_none hpop)
  | served hi hp hpop =>
    have hwf := wf.pool _ _ hp
    exact turn_of_pops wf hp (SizeClass.takes_of_pop hwf hpop).lt_capacity
      (SizeClass.pops_of_pop hwf hpop)

/-- A copy is handed out and filled in at once. -/
theorem turn_of_filled (wf : a.WellFormed) {g : ItemHandle} {c : Allocator}
    {f : Nat → UInt8 → UInt8} (ha : a.allocate size tags = (.ok g, b)) (hu : b.update g f = .ok c) :
    Turn a (.taken g) c := by
  cases request_of_allocate wf ha with
  | @served i p q slot generation hi hp hpop =>
    obtain ⟨q', s, hv, rfl⟩ := update_eq_ok hu
    have hwf := wf.pool i p hp
    have hlt := (SizeClass.takes_of_pop hwf hpop).lt_capacity
    obtain ⟨hq', -⟩ := pool_of_validate hv
    dsimp only at hq' ⊢
    rw [wf.toNat_pool hp, pool_setPool hp, if_pos rfl, Option.some.injEq] at hq'
    subst hq'
    rw [wf.toNat_pool hp, wf.toNat_slot hp hlt, setPool_setPool]
    exact turn_of_pops wf hp hlt ((SizeClass.pops_of_pop hwf hpop).setBytes _)

theorem turn_of_duplicate (wf : a.WellFormed) {r : Except PoolError ItemHandle}
    (h' : a.duplicate h = (r, b)) : Turn a (.of (.duplicate h) (.ofResult .item r)) b := by
  cases duplication_of_duplicate wf h' with
  | invalid hv =>
    rw [PoolAnswer.ofResult, PoolEvent.of_refused (a.definite_validate h _ hv)]
    exact .nothing
  | refused hv ha => exact turn_of_allocate wf ha
  | copied hv ha hu => exact turn_of_filled wf ha hu

theorem turn_of_free {releaseTag : UInt16} (h' : a.free h releaseTag = .ok b) :
    Turn a (.returned h) b := by
  obtain ⟨p, s, hv, rfl⟩ := free_eq_ok h'
  obtain ⟨hp, ha⟩ := pool_of_validate hv
  exact .pushes hp (SizeClass.pushes_push ha releaseTag)

/-- Bytes and tags of an item are changed behind the back of the free stack. -/
theorem turn_of_modify (hv : a.validate h = .ok (p, s)) (f : Slot → Slot) :
    Turn a .other
      (a.setPool h.pool.toNat { p with slots := p.slots.modify h.slot.toNat f }) :=
  .rests (pool_of_validate hv).1 (SizeClass.rests_modify (pool_of_validate hv).2 f)

/-- **Every operation does to the free stacks what its event says.** -/
theorem turn (wf : a.WellFormed) (op : PoolOperation) :
    Turn a (.of op (a.perform op).1) (a.perform op).2 := by
  have hnothing : Turn a .other a := .nothing
  cases op with
  | addPool itemCount itemSize =>
    rw [perform, event_of_declaration]
    rcases addPool_cases a itemCount itemSize with ⟨e, he⟩ | ⟨-, he⟩
    · rw [he]
      exact hnothing
    · rw [he]
      exact .declares itemCount itemSize
  | allocate size tags => exact turn_of_allocate wf rfl
  | duplicate h => exact turn_of_duplicate wf rfl
  | free h releaseTag =>
    exact event_of_change (a.definite_free h releaseTag) hnothing fun b hb ↦ turn_of_free hb
  | setInfo h index value =>
    refine event_of_change (a.definite_setInfo h index value) hnothing fun b hb ↦ ?_
    obtain ⟨-, p, s, hv, rfl⟩ := setInfo_eq_ok hb
    exact turn_of_modify hv _
  | write h offset bytes =>
    refine event_of_change (a.definite_write h offset bytes) hnothing fun b hb ↦ ?_
    obtain ⟨p, s, hv, -, rfl⟩ := write_eq_ok hb
    exact turn_of_modify hv _
  | update h f =>
    refine event_of_change (a.definite_update h f) hnothing fun b hb ↦ ?_
    obtain ⟨p, s, hv, rfl⟩ := update_eq_ok hb
    exact turn_of_modify hv _
  | info h =>
    rw [perform, PoolEvent.of_ofResult (a.definite_info h) fun _ ↦ rfl]
    exact hnothing
  | itemSize h =>
    rw [perform, PoolEvent.of_ofResult (a.definite_itemSize h) fun _ ↦ rfl]
    exact hnothing
  | read h =>
    rw [perform, PoolEvent.of_ofResult (a.definite_read h) fun _ ↦ rfl]
    exact hnothing

end Allocator

end TaskMessaging
