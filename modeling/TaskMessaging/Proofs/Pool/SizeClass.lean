import Mathlib.Data.List.Nodup
import Mathlib.Data.List.Perm.Basic
import TaskMessaging.Pool.SizeClass

/-!
# Well-formed size classes

The free stack of a size class and the flags of its slots say the same thing twice, and the number
of items in use says it a third time. Here the three are tied together once, and each operation is
described by what it does to them.

## Usage

Writing bytes or tags does not touch any of the three. All such changes are covered by one relation,
`SameUsage`, which compares two size classes by their free stacks and by the generation and the flag
of each slot; a handle is accepted in both or in neither.
-/

namespace TaskMessaging.SizeClass

/-- Whether a slot is handed out. -/
def isAllocated (p : SizeClass) (slot : Nat) : Bool :=
  (p.slots[slot]?.map (·.allocated)).getD false

/-- The free stack holds exactly the slots that are not handed out, each of them once, and the
count of items in use makes up the rest. -/
structure WellFormed (p : SizeClass) : Prop where
  nodup_free : p.free.Nodup
  mem_free : ∀ i, i ∈ p.free ↔ i < p.capacity ∧ p.isAllocated i = false
  inUse_add_free : p.inUse + p.free.length = p.capacity
  length_bytes : ∀ s ∈ p.slots, s.bytes.length = p.itemSize

variable {p q : SizeClass} {slot i : Nat} {tags : Tags}

theorem isAllocated_eq_true_iff :
    p.isAllocated i = true ↔ ∃ s, p.slots[i]? = some s ∧ s.allocated = true := by
  rw [isAllocated]
  cases h : p.slots[i]? with
  | none => simp
  | some s => simp

theorem lt_capacity_of_isAllocated (h : p.isAllocated i = true) : i < p.capacity := by
  obtain ⟨s, hs, -⟩ := isAllocated_eq_true_iff.mp h
  obtain ⟨hlt, -⟩ := List.getElem?_eq_some_iff.mp hs
  exact hlt

/-- A handle is accepted exactly if its slot is handed out in the generation that it names. -/
theorem check_eq_ok_iff {pool : Nat} {generation : UInt32} {s : Slot} :
    p.check pool slot generation = .ok s ↔
      p.slots[slot]? = some s ∧ s.generation = generation ∧ s.allocated = true := by
  rw [check]
  cases h : p.slots[slot]? with
  | none => simp
  | some u =>
    by_cases hg : u.generation = generation
    · cases hu : u.allocated
      · simp only [hg, if_true, hu, Bool.false_eq_true, if_false, reduceCtorEq, Option.some.injEq,
          false_iff, not_and]
        rintro rfl -
        simp [hu]
      · simp only [hg, if_true, hu, Except.ok.injEq, Option.some.injEq]
        exact ⟨fun h ↦ ⟨h, h ▸ hg, h ▸ hu⟩, fun h ↦ h.1⟩
    · simp only [hg, if_false, reduceCtorEq, Option.some.injEq, false_iff, not_and]
      rintro rfl hs
      exact absurd hs hg

theorem isAllocated_of_check {pool : Nat} {generation : UInt32} {s : Slot}
    (h : p.check pool slot generation = .ok s) : p.isAllocated slot = true := by
  obtain ⟨hs, -, ha⟩ := check_eq_ok_iff.mp h
  exact isAllocated_eq_true_iff.mpr ⟨s, hs, ha⟩

/-! ## Fresh size classes -/

theorem isAllocated_create (count size : Nat) : (create count size).isAllocated i = false := by
  rw [isAllocated, create, List.getElem?_replicate]
  by_cases h : i < count
  · simp [h, Slot.fresh]
  · simp [h]

theorem wellFormed_create (count size : Nat) : (create count size).WellFormed where
  nodup_free := List.nodup_range
  mem_free i := by
    rw [capacity_create, isAllocated_create]
    simp [create]
  inUse_add_free := by
    rw [capacity_create]
    simp [create]
  length_bytes s hs := by
    obtain ⟨-, rfl⟩ := List.mem_replicate.mp hs
    simp [create, Slot.fresh]

/-! ## Same usage -/

/-- How a slot is used, whatever it contains. -/
def usage (p : SizeClass) (slot : Nat) : Option (UInt32 × Bool) :=
  p.slots[slot]?.map fun s ↦ (s.generation, s.allocated)

/-- Two size classes that differ at most in bytes, tags and counters of past events. -/
structure SameUsage (p q : SizeClass) : Prop where
  itemSize : q.itemSize = p.itemSize
  free : q.free = p.free
  inUse : q.inUse = p.inUse
  usage : ∀ i, q.usage i = p.usage i
  length_bytes : (∀ s ∈ p.slots, s.bytes.length = p.itemSize) →
    ∀ s ∈ q.slots, s.bytes.length = q.itemSize

theorem isAllocated_eq_usage (p : SizeClass) (slot : Nat) :
    p.isAllocated slot = ((p.usage slot).map (·.2)).getD false := by
  rw [isAllocated, usage, Option.map_map]
  rfl

theorem lt_capacity_iff_usage : i < p.capacity ↔ (p.usage i).isSome := by
  rw [usage, Option.isSome_map, capacity]
  simp

/-- Acceptance of a handle, said through the usage of its slot. -/
theorem exists_check_iff_usage {pool : Nat} {generation : UInt32} :
    (∃ s, p.check pool slot generation = .ok s) ↔ p.usage slot = some (generation, true) := by
  simp only [check_eq_ok_iff, usage, Option.map_eq_some_iff, Prod.mk.injEq]

namespace SameUsage

theorem isAllocated (h : SameUsage p q) (i : Nat) : q.isAllocated i = p.isAllocated i := by
  rw [isAllocated_eq_usage, isAllocated_eq_usage, h.usage]

theorem lt_capacity_iff (h : SameUsage p q) (i : Nat) : i < q.capacity ↔ i < p.capacity := by
  rw [lt_capacity_iff_usage, lt_capacity_iff_usage, h.usage]

theorem capacity (h : SameUsage p q) : q.capacity = p.capacity :=
  Nat.le_antisymm (Nat.le_of_not_lt fun hlt ↦ absurd ((h.lt_capacity_iff _).mp hlt) (by omega))
    (Nat.le_of_not_lt fun hlt ↦ absurd ((h.lt_capacity_iff _).mpr hlt) (by omega))

theorem wellFormed (h : SameUsage p q) (wf : p.WellFormed) : q.WellFormed where
  nodup_free := h.free ▸ wf.nodup_free
  mem_free i := by rw [h.free, wf.mem_free, h.lt_capacity_iff, h.isAllocated]
  inUse_add_free := by rw [h.inUse, h.free, h.capacity, wf.inUse_add_free]
  length_bytes := h.length_bytes wf.length_bytes

end SameUsage

/-- A change of one slot that leaves its generation, its flag and the number of its bytes alone. -/
theorem sameUsage_modify (p : SizeClass) (slot : Nat) (f : Slot → Slot)
    (hf : ∀ s, (f s).generation = s.generation ∧ (f s).allocated = s.allocated)
    (hb : ∀ s, p.slots[slot]? = some s → (f s).bytes.length = s.bytes.length) :
    SameUsage p { p with slots := p.slots.modify slot f } where
  itemSize := rfl
  free := rfl
  inUse := rfl
  usage i := by
    rw [SizeClass.usage, SizeClass.usage, List.getElem?_modify]
    cases p.slots[i]? with
    | none => rfl
    | some s =>
      by_cases hi : slot = i
      · simp [hi, hf s]
      · simp [hi]
  length_bytes h s hs := by
    obtain ⟨i, hi⟩ := List.mem_iff_getElem?.mp hs
    rw [List.getElem?_modify] at hi
    cases hu : p.slots[i]? with
    | none => simp [hu] at hi
    | some u =>
      have hlen := h u (List.mem_iff_getElem?.mpr ⟨i, hu⟩)
      simp only [hu, Option.map_eq_map, Option.map_some, Option.some.injEq] at hi
      by_cases hsi : slot = i
      · subst hsi
        rw [if_pos rfl] at hi
        rw [← hi, hb u hu, hlen]
      · rw [if_neg hsi] at hi
        rw [← hi, hlen]

theorem sameUsage_setTags (p : SizeClass) (slot : Nat) (tags : Tags) :
    SameUsage p (p.setTags slot tags) :=
  sameUsage_modify p slot _ (fun _ ↦ ⟨rfl, rfl⟩) fun _ _ ↦ rfl

theorem sameUsage_setBytes {s : Slot} {bytes : List UInt8} (hs : p.slots[slot]? = some s)
    (hb : bytes.length = s.bytes.length) : SameUsage p (p.setBytes slot bytes) :=
  sameUsage_modify p slot _ (fun _ ↦ ⟨rfl, rfl⟩) fun u hu ↦ by
    rw [hs, Option.some.injEq] at hu
    rw [← hu]
    exact hb

/-! ## Handing out and taking back -/

/-- What handing out a slot comes to. -/
structure Takes (p q : SizeClass) (slot : Nat) (generation : UInt32) : Prop where
  wellFormed : q.WellFormed
  itemSize : q.itemSize = p.itemSize
  capacity : q.capacity = p.capacity
  lt_capacity : slot < p.capacity
  unused : p.isAllocated slot = false
  usage : ∀ i, q.usage i = if i = slot then some (generation, true) else p.usage i
  inUse : q.inUse = p.inUse + 1
  free : q.free.length + 1 = p.free.length

/-- What taking back a slot comes to. -/
structure Returns (p q : SizeClass) (slot : Nat) : Prop where
  wellFormed : q.WellFormed
  itemSize : q.itemSize = p.itemSize
  capacity : q.capacity = p.capacity
  usage : ∀ i, q.usage i = if i = slot then (p.usage i).map fun u ↦ (u.1, false) else p.usage i
  inUse : q.inUse + 1 = p.inUse
  free : q.free.length = p.free.length + 1

/-- Changing one slot changes its usage alone. -/
theorem usage_modify (p : SizeClass) (slot : Nat) (f : Slot → Slot) (i : Nat) :
    ({ p with slots := p.slots.modify slot f } : SizeClass).usage i =
      if i = slot then (p.slots[i]?.map f).map fun s ↦ (s.generation, s.allocated)
      else p.usage i := by
  rw [usage, usage, List.getElem?_modify]
  by_cases hi : i = slot
  · subst hi
    simp
  · rw [if_neg hi]
    simp [Ne.symm hi]

theorem length_bytes_modify {f : Slot → Slot} (hf : ∀ s, (f s).bytes = s.bytes)
    (h : ∀ s ∈ p.slots, s.bytes.length = p.itemSize) :
    ∀ s ∈ p.slots.modify slot f, s.bytes.length = p.itemSize := by
  intro s hs
  obtain ⟨i, hi⟩ := List.mem_iff_getElem?.mp hs
  rw [List.getElem?_modify] at hi
  obtain ⟨u, hu, rfl⟩ := Option.map_eq_some_iff.mp hi
  have hlen := h u (List.mem_iff_getElem?.mpr ⟨i, hu⟩)
  by_cases hsi : slot = i
  · rw [if_pos hsi, hf, hlen]
  · rw [if_neg hsi, hlen]

theorem sameUsage_of_pop_none (h : p.pop tags = (none, q)) : p.free = [] ∧ SameUsage p q := by
  rw [pop] at h
  cases hf : p.free with
  | nil =>
    rw [hf] at h
    simp only [Prod.mk.injEq, true_and] at h
    subst h
    exact ⟨rfl, ⟨rfl, hf.symm, rfl, fun _ ↦ rfl, id⟩⟩
  | cons top rest => simp [hf] at h

theorem slots_of_pop_none (h : p.pop tags = (none, q)) : q.slots = p.slots := by
  rw [pop] at h
  cases hf : p.free with
  | nil =>
    rw [hf] at h
    obtain rfl := (Prod.mk.inj h).2
    rfl
  | cons top rest => simp [hf] at h

/-- No other slot than the one that is handed out changes. -/
theorem slots_of_pop {generation : UInt32} (h : p.pop tags = (some (slot, generation), q)) :
    q.slots = p.slots.modify slot (handOut tags) := by
  rw [pop] at h
  cases hf : p.free with
  | nil => simp [hf] at h
  | cons top rest =>
    simp only [hf, Prod.mk.injEq, Option.some.injEq] at h
    obtain ⟨⟨rfl, -⟩, rfl⟩ := h
    rfl

/-- The top of the free stack is handed out, in a generation of its own. -/
theorem takes_of_pop (wf : p.WellFormed) {generation : UInt32}
    (h : p.pop tags = (some (slot, generation), q)) : Takes p q slot generation := by
  rw [pop] at h
  cases hf : p.free with
  | nil => simp [hf] at h
  | cons top rest =>
    simp only [hf, Prod.mk.injEq, Option.some.injEq] at h
    obtain ⟨⟨rfl, hg⟩, rfl⟩ := h
    have hnodup := wf.nodup_free
    have hcount := wf.inUse_add_free
    rw [hf] at hnodup hcount
    obtain ⟨hnot, hrest⟩ := List.nodup_cons.mp hnodup
    obtain ⟨hlt, hunused⟩ := (wf.mem_free top).mp (hf ▸ List.mem_cons_self)
    obtain ⟨s, hs⟩ : ∃ s, p.slots[top]? = some s := ⟨p.slots[top], List.getElem?_eq_getElem hlt⟩
    -- Only the usage of the slot on top changes, and the rest of the pool is read off its usage.
    have husage (i : Nat) :
        ({ p with slots := p.slots.modify top (handOut tags) } : SizeClass).usage i =
          if i = top then some (generation, true) else p.usage i := by
      rw [usage_modify]
      by_cases hi : i = top
      · subst hi
        rw [if_pos rfl, if_pos rfl, hs]
        rw [List.getElem?_modify_eq, hs] at hg
        simpa [handOut] using hg
      · rw [if_neg hi, if_neg hi]
    refine ⟨⟨hrest, ?_, ?_, length_bytes_modify (fun _ ↦ rfl) wf.length_bytes⟩, rfl,
      List.length_modify _ _ _, hlt, hunused, husage, rfl, by rw [hf]; rfl⟩
    · intro i
      rw [isAllocated_eq_usage, lt_capacity_iff_usage]
      change i ∈ rest ↔ (usage { p with slots := p.slots.modify top (handOut tags) } i).isSome ∧
        ((usage { p with slots := p.slots.modify top (handOut tags) } i).map (·.2)).getD false
          = false
      rw [husage]
      by_cases hi : i = top
      · subst hi
        simp [hnot]
      · have hmem := wf.mem_free i
        rw [hf, List.mem_cons, lt_capacity_iff_usage, isAllocated_eq_usage] at hmem
        rw [if_neg hi, ← hmem]
        simp [hi]
    · change p.inUse + 1 + rest.length = (p.slots.modify top (handOut tags)).length
      rw [List.length_modify]
      simp only [List.length_cons, capacity] at hcount
      omega

/-- A slot that is handed out is not on the free stack, so there is room for it there. -/
theorem WellFormed.free_lt_capacity (wf : p.WellFormed) (h : p.isAllocated slot = true) :
    p.free.length < p.capacity := by
  have hnot : slot ∉ p.free := fun hmem ↦ by
    have := ((wf.mem_free slot).mp hmem).2
    simp [h] at this
  -- The slot and those on the free stack are distinct, and the pool has no others than its own.
  have hsub : slot :: p.free ⊆ List.range p.capacity := by
    intro i hi
    rw [List.mem_range]
    rcases List.mem_cons.mp hi with rfl | hfree
    · exact lt_capacity_of_isAllocated h
    · exact ((wf.mem_free i).mp hfree).1
  have hle := (List.nodup_cons.mpr ⟨hnot, wf.nodup_free⟩).length_le_of_subset hsub
  rw [List.length_range, List.length_cons] at hle
  exact hle

theorem returns_push (wf : p.WellFormed) (h : p.isAllocated slot = true) (tag : UInt16) :
    Returns p (p.push slot tag) slot := by
  have hroom := wf.free_lt_capacity h
  have hcount := wf.inUse_add_free
  obtain ⟨s, hs, -⟩ := isAllocated_eq_true_iff.mp h
  have hlt := lt_capacity_of_isAllocated h
  have husage (i : Nat) : (p.push slot tag).usage i =
      if i = slot then (p.usage i).map fun u ↦ (u.1, false) else p.usage i := by
    have := usage_modify p slot
      (fun s ↦ { s with allocated := false, tags := { s.tags with first := tag } }) i
    rw [push]
    refine this.trans ?_
    by_cases hi : i = slot
    · rw [if_pos hi, if_pos hi, usage, Option.map_map, Option.map_map]
      rfl
    · rw [if_neg hi, if_neg hi]
  refine ⟨⟨?_, ?_, ?_, length_bytes_modify (fun _ ↦ rfl) wf.length_bytes⟩, rfl,
    capacity_push p slot tag, husage, ?_, rfl⟩
  · refine List.nodup_cons.mpr ⟨?_, wf.nodup_free⟩
    intro hmem
    have := ((wf.mem_free slot).mp hmem).2
    simp [h] at this
  · intro i
    rw [capacity_push, isAllocated_eq_usage, husage]
    change i ∈ slot :: p.free ↔ _
    rw [List.mem_cons, wf.mem_free, isAllocated_eq_usage]
    by_cases hi : i = slot
    · subst hi
      simp [usage, hs, hlt]
    · rw [if_neg hi]
      simp [hi]
  · rw [capacity_push]
    change p.inUse - 1 + (p.free.length + 1) = p.capacity
    omega
  · change p.inUse - 1 + 1 = p.inUse
    omega

/-- Without an item handed out the count is zero. -/
theorem WellFormed.inUse_eq_zero (wf : p.WellFormed) (h : ∀ i, p.isAllocated i = false) :
    p.inUse = 0 := by
  have hsub : List.range p.capacity ⊆ p.free := fun i hi ↦
    (wf.mem_free i).mpr ⟨List.mem_range.mp hi, h i⟩
  have hle := List.nodup_range.length_le_of_subset hsub
  have hcount := wf.inUse_add_free
  rw [List.length_range] at hle
  omega

end TaskMessaging.SizeClass
