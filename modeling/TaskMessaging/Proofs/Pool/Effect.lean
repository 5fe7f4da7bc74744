import TaskMessaging.Proofs.Pool.Allocator

/-!
# Effects on the pools

An operation on the pools keeps the usage of every slot, hands out one item, or takes one back.
`Keeps`, `Gains` and `Loses` say this about the whole allocator, one lemma for each operation says
which of the three it is, and later arguments never look into a pool again.

## Accounts

A list of handles accounts for an allocator if it names exactly the live items, each once. What an
operation hands out is added to such a list, and what it takes back is struck from it.
-/

namespace TaskMessaging

/-- The slot that a handle names, behind the index of its pool. -/
def ItemHandle.place (h : ItemHandle) : Nat × Nat := (h.pool.toNat, h.slot.toNat)

theorem ItemHandle.ext_of_place {g h : ItemHandle} (hc : g.context = h.context)
    (hp : g.place = h.place) (hg : g.generation = h.generation) : g = h := by
  obtain ⟨c, p, s, n⟩ := g
  obtain ⟨c', p', s', n'⟩ := h
  simp only [place, Prod.mk.injEq] at hp
  obtain rfl : c = c' := hc
  obtain rfl : p = p' := UInt16.toNat.inj hp.1
  obtain rfl : s = s' := UInt32.toNat.inj hp.2
  obtain rfl : n = n' := hg
  rfl

theorem PoolStatistics.outstanding_eq_zero {s : PoolStatistics} (h : ∀ x ∈ s.pools, x.inUse = 0) :
    s.outstanding = 0 := by
  obtain ⟨pools⟩ := s
  change ∀ x ∈ pools, x.inUse = 0 at h
  rw [outstanding]
  induction pools with
  | nil => rfl
  | cons x pools ih =>
    rw [List.foldr_cons, h x List.mem_cons_self,
      ih fun y hy ↦ h y (List.mem_cons_of_mem _ hy)]

namespace Allocator

variable {a b c : Allocator} {g h : ItemHandle} {p q : SizeClass} {i j size : Nat}

/-! ## Usage and live handles -/

/-- How a slot is used: its generation, and whether it is handed out. -/
def usage (a : Allocator) (place : Nat × Nat) : Option (UInt32 × Bool) :=
  a.pools[place.1]?.bind (·.usage place.2)

/-- Whether a slot is handed out. -/
def isAllocated (a : Allocator) (place : Nat × Nat) : Bool :=
  ((a.usage place).map (·.2)).getD false

/-- How many items of a pool are in use. -/
def inUse (a : Allocator) (i : Nat) : Nat := (a.pools[i]?.map (·.inUse)).getD 0

/-- How many slots of a pool are free. -/
def room (a : Allocator) (i : Nat) : Nat := (a.pools[i]?.map (·.free.length)).getD 0

/-- A handle that the allocator accepts. -/
def Live (a : Allocator) (h : ItemHandle) : Prop := ∃ p s, a.validate h = .ok (p, s)

/-- Validation decides whether a handle is live. -/
instance (a : Allocator) (h : ItemHandle) : Decidable (a.Live h) :=
  match hv : a.validate h with
  | .ok (p, s) => .isTrue ⟨p, s, hv⟩
  | .error _ => .isFalse fun ⟨p, s, ho⟩ ↦ by rw [hv] at ho; cases ho

theorem owner_eq_ok_iff :
    a.owner h = .ok p ↔ a.pools[h.pool.toNat]? = some p ∧ h.context = a.context := by
  rw [owner]
  cases a.pools[h.pool.toNat]? with
  | none => simp
  | some q =>
    by_cases hc : h.context = a.context
    · simp [hc]
    · simp [hc]

theorem validate_eq_ok_iff {s : Slot} :
    a.validate h = .ok (p, s) ↔ a.pools[h.pool.toNat]? = some p ∧ h.context = a.context ∧
      p.check h.pool.toNat h.slot.toNat h.generation = .ok s := by
  rw [← and_assoc, ← owner_eq_ok_iff]
  rw [validate]
  cases a.owner h with
  | error e => simp [bind, Except.bind]
  | ok q =>
    simp only [bind, Except.bind, pure, Except.pure, Except.ok.injEq]
    cases hc : q.check h.pool.toNat h.slot.toNat h.generation with
    | error e =>
      simp only [reduceCtorEq, false_iff, not_and]
      rintro rfl
      simp [hc]
    | ok u =>
      simp only [Except.ok.injEq, Prod.mk.injEq]
      apply and_congr_right
      intro hq
      subst hq
      simp [hc]

/-- A handle is live exactly if it carries the tag of the allocator, and its slot is handed out in
the generation that it names. -/
theorem live_iff :
    a.Live h ↔ h.context = a.context ∧ a.usage h.place = some (h.generation, true) := by
  simp only [Live, validate_eq_ok_iff, usage, ItemHandle.place, Option.bind_eq_some_iff]
  constructor
  · rintro ⟨p, s, hp, hc, hs⟩
    exact ⟨hc, p, hp, SizeClass.exists_check_iff_usage.mp ⟨s, hs⟩⟩
  · rintro ⟨hc, p, hp, hu⟩
    obtain ⟨s, hs⟩ := SizeClass.exists_check_iff_usage.mpr hu
    exact ⟨p, s, hp, hc, hs⟩

theorem Live.isAllocated (hl : a.Live h) : a.isAllocated h.place = true := by
  rw [Allocator.isAllocated, (live_iff.mp hl).2]
  rfl

/-- Two live handles of one slot are the same. -/
theorem Live.eq_of_place (hg : a.Live g) (hh : a.Live h)
    (hp : g.place = h.place) : g = h := by
  obtain ⟨hgc, hgu⟩ := live_iff.mp hg
  obtain ⟨hhc, hhu⟩ := live_iff.mp hh
  rw [hp, hhu] at hgu
  simp only [Option.some.injEq, Prod.mk.injEq, and_true] at hgu
  exact ItemHandle.ext_of_place (hgc.trans hhc.symm) hp hgu.symm

/-- The pools are few enough to be told apart by the number in a handle. -/
theorem WellFormed.toNat_pool (wf : a.WellFormed) (hp : a.pools[i]? = some p) :
    (UInt16.ofNat i).toNat = i := by
  have hlt := (Array.getElem?_eq_some_iff.mp hp).1
  have hsize := wf.size_le
  have hmax := wf.maxPools_le
  have hlimit : poolLimit < UInt16.size := by decide
  exact UInt16.toNat_ofNat_of_lt' (by omega)

/-- So are the slots of a pool. -/
theorem WellFormed.toNat_slot (wf : a.WellFormed) (hp : a.pools[i]? = some p) {slot : Nat}
    (hlt : slot < p.capacity) : (UInt32.ofNat slot).toNat = slot := by
  have hcap := wf.capacity_le i p hp
  have hlimit : itemLimit < UInt32.size := by decide
  exact UInt32.toNat_ofNat_of_lt' (by omega)

/-- A handle that is made from a pool and a slot names them. -/
theorem WellFormed.place_mk (wf : a.WellFormed) (hp : a.pools[i]? = some p)
    {slot : Nat} (hslot : slot < p.capacity) (context : UInt64) (generation : UInt32) :
    ItemHandle.place ⟨context, UInt16.ofNat i, UInt32.ofNat slot, generation⟩ = (i, slot) :=
  Prod.ext (wf.toNat_pool hp) (wf.toNat_slot hp hslot)

/-- Every slot that is handed out has its live handle. -/
theorem WellFormed.isAllocated_iff_live (wf : a.WellFormed) {place : Nat × Nat} :
    a.isAllocated place = true ↔ ∃ h, a.Live h ∧ h.place = place := by
  constructor
  · intro ha
    rw [isAllocated] at ha
    cases hu : a.usage place with
    | none => simp [hu] at ha
    | some u =>
      obtain ⟨generation, allocated⟩ := u
      obtain rfl : allocated = true := by simpa [hu] using ha
      obtain ⟨p, hp, hpu⟩ := Option.bind_eq_some_iff.mp hu
      obtain ⟨hpool, -⟩ := Array.getElem?_eq_some_iff.mp hp
      have hslot : place.2 < p.capacity := SizeClass.lt_capacity_iff_usage.mpr (by simp [hpu])
      have hplace : ItemHandle.place ⟨a.context, UInt16.ofNat place.1, UInt32.ofNat place.2,
          generation⟩ = place := wf.place_mk hp hslot _ _
      exact ⟨_, live_iff.mpr ⟨rfl, by rw [hplace, hu]⟩, hplace⟩
  · rintro ⟨h, hl, rfl⟩
    exact hl.isAllocated

/-! ## Effects -/

/-- Nothing was handed out and nothing taken back. -/
structure Keeps (a b : Allocator) : Prop where
  wellFormed : b.WellFormed
  context : b.context = a.context
  bestFit? : b.bestFit? = a.bestFit?
  usage : ∀ place, b.usage place = a.usage place
  inUse : ∀ i, b.inUse i = a.inUse i
  room : ∀ i, b.room i = a.room i

/-- One item was handed out, under a handle that was not live before. -/
structure Gains (a b : Allocator) (h : ItemHandle) : Prop where
  wellFormed : b.WellFormed
  context : b.context = a.context
  bestFit? : b.bestFit? = a.bestFit?
  tag : h.context = a.context
  unused : a.isAllocated h.place = false
  usage : ∀ place, b.usage place = if place = h.place then some (h.generation, true)
    else a.usage place
  inUse : ∀ i, b.inUse i = a.inUse i + if i = h.pool.toNat then 1 else 0
  room : ∀ i, b.room i + (if i = h.pool.toNat then 1 else 0) = a.room i

/-- One item was taken back. -/
structure Loses (a b : Allocator) (h : ItemHandle) : Prop where
  wellFormed : b.WellFormed
  context : b.context = a.context
  bestFit? : b.bestFit? = a.bestFit?
  live : a.Live h
  usage : ∀ place, b.usage place = if place = h.place then some (h.generation, false)
    else a.usage place
  inUse : ∀ i, b.inUse i + (if i = h.pool.toNat then 1 else 0) = a.inUse i
  room : ∀ i, b.room i = a.room i + if i = h.pool.toNat then 1 else 0

theorem Keeps.refl (wf : a.WellFormed) : Keeps a a :=
  ⟨wf, rfl, rfl, fun _ ↦ rfl, fun _ ↦ rfl, fun _ ↦ rfl⟩

theorem Keeps.live_iff (k : Keeps a b) (g : ItemHandle) : b.Live g ↔ a.Live g := by
  rw [Allocator.live_iff, Allocator.live_iff, k.context, k.usage]

theorem Gains.live_iff (k : Gains a b h) (g : ItemHandle) : b.Live g ↔ g = h ∨ a.Live g := by
  rw [Allocator.live_iff, Allocator.live_iff, k.context, k.usage]
  by_cases hp : g.place = h.place
  · have hdead : ¬ a.Live g := fun hl ↦ by
      have := hl.isAllocated
      rw [hp, k.unused] at this
      exact absurd this (by simp)
    rw [Allocator.live_iff] at hdead
    rw [if_pos hp, or_iff_left hdead]
    constructor
    · rintro ⟨hc, hu⟩
      simp only [Option.some.injEq, Prod.mk.injEq, and_true] at hu
      exact ItemHandle.ext_of_place (hc.trans k.tag.symm) hp hu.symm
    · rintro rfl
      exact ⟨k.tag, rfl⟩
  · have hne : g ≠ h := fun he ↦ hp (he ▸ rfl)
    rw [if_neg hp, or_iff_right hne]

theorem Gains.ne_of_live (k : Gains a b h) (hl : a.Live g) : g ≠ h := by
  rintro rfl
  have := hl.isAllocated
  rw [k.unused] at this
  exact absurd this (by simp)

theorem Loses.live_iff (k : Loses a b h) (g : ItemHandle) : b.Live g ↔ g ≠ h ∧ a.Live g := by
  by_cases hp : g.place = h.place
  · have hdead : ¬ b.Live g := by
      rw [Allocator.live_iff, k.usage, if_pos hp]
      simp
    refine iff_of_false hdead fun ⟨hne, hl⟩ ↦ hne (hl.eq_of_place k.live hp)
  · have hne : g ≠ h := fun he ↦ hp (he ▸ rfl)
    rw [Allocator.live_iff, Allocator.live_iff, k.context, k.usage, if_neg hp]
    exact (and_iff_right hne).symm

theorem pool_setPool (hp : a.pools[i]? = some p) :
    (a.setPool i q).pools[j]? = if j = i then some q else a.pools[j]? := by
  obtain ⟨hlt, -⟩ := Array.getElem?_eq_some_iff.mp hp
  rw [setPool, Array.getElem?_setIfInBounds, if_pos hlt]
  by_cases hji : j = i
  · rw [if_pos hji, if_pos hji.symm]
  · rw [if_neg hji, if_neg (Ne.symm hji)]

theorem setPool_setPool (a : Allocator) (i : Nat) (p q : SizeClass) :
    (a.setPool i p).setPool i q = a.setPool i q := by
  rw [setPool, setPool, setPool, Array.setIfInBounds_setIfInBounds]

theorem usage_setPool (hp : a.pools[i]? = some p) (place : Nat × Nat) :
    (a.setPool i q).usage place = if place.1 = i then q.usage place.2 else a.usage place := by
  rw [usage, pool_setPool hp]
  by_cases hi : place.1 = i
  · rw [if_pos hi, if_pos hi]
    rfl
  · rw [if_neg hi, if_neg hi, usage]

theorem inUse_setPool (hp : a.pools[i]? = some p) :
    (a.setPool i q).inUse j = if j = i then q.inUse else a.inUse j := by
  rw [inUse, pool_setPool hp]
  by_cases hi : j = i
  · rw [if_pos hi, if_pos hi]
    rfl
  · rw [if_neg hi, if_neg hi, inUse]

theorem room_setPool (hp : a.pools[i]? = some p) :
    (a.setPool i q).room j = if j = i then q.free.length else a.room j := by
  rw [room, pool_setPool hp]
  by_cases hi : j = i
  · rw [if_pos hi, if_pos hi]
    rfl
  · rw [if_neg hi, if_neg hi, room]

theorem sizeAt_setPool (hp : a.pools[i]? = some p) (hs : q.itemSize = p.itemSize) :
    (a.setPool i q).sizeAt = a.sizeAt := by
  funext j
  rw [sizeAt, pool_setPool hp]
  by_cases hi : j = i
  · rw [if_pos hi, hi, sizeAt_of_pool hp, ← hs]
    rfl
  · rw [if_neg hi, sizeAt]

theorem bestFit?_setPool (hp : a.pools[i]? = some p) (hs : q.itemSize = p.itemSize) :
    (a.setPool i q).bestFit? = a.bestFit? := by
  funext size
  rw [bestFit?, bestFit?, sizeAt_setPool hp hs]
  rfl

/-- A pool may be replaced by a well-formed one of the same shape, provided that it hands out items
only where it is a home. -/
theorem WellFormed.setPool (wf : a.WellFormed) (hp : a.pools[i]? = some p) (hq : q.WellFormed)
    (hs : q.itemSize = p.itemSize) (hc : q.capacity = p.capacity)
    (hhome : ∀ slot, q.isAllocated slot = true → a.bestFit? p.itemSize = some i) :
    (a.setPool i q).WellFormed := by
  have hsize : (a.setPool i q).pools.size = a.pools.size := Array.size_setIfInBounds
  refine ⟨wf.maxPools_le, by rw [hsize]; exact wf.size_le, ?_, ?_,
    fun j ↦ by rw [hsize]; exact wf.mem_bySize j, ?_, ?_⟩
  · intro j r hr
    rw [pool_setPool hp] at hr
    split at hr
    · cases hr
      exact hq
    · exact wf.pool j r hr
  · intro j r hr
    rw [pool_setPool hp] at hr
    split at hr
    · cases hr
      rw [hc]
      exact wf.capacity_le i p hp
    · exact wf.capacity_le j r hr
  · refine wf.ordered.imp ?_
    intro j k hb
    rw [Before, sizeAt_setPool hp hs]
    exact hb
  · intro j r hr slot hslot
    rw [bestFit?_setPool hp hs]
    rw [pool_setPool hp] at hr
    split at hr
    · next hji =>
      cases hr
      rw [hji, hs]
      exact hhome slot hslot
    · exact wf.home j r hr slot hslot

/-! ### Replacing one pool -/

theorem keeps_setPool (wf : a.WellFormed) (hp : a.pools[i]? = some p)
    (h : SizeClass.SameUsage p q) : Keeps a (a.setPool i q) where
  wellFormed := wf.setPool hp (h.wellFormed (wf.pool i p hp)) h.itemSize h.capacity
    fun slot hslot ↦ wf.home i p hp slot (by rw [← h.isAllocated]; exact hslot)
  context := rfl
  bestFit? := bestFit?_setPool hp h.itemSize
  usage place := by
    rw [usage_setPool hp]
    by_cases hi : place.1 = i
    · rw [if_pos hi, h.usage, Allocator.usage, hi, hp]
      rfl
    · rw [if_neg hi]
  inUse j := by
    rw [inUse_setPool hp]
    by_cases hj : j = i
    · rw [if_pos hj, h.inUse, Allocator.inUse, hj, hp]
      rfl
    · rw [if_neg hj]
  room j := by
    rw [room_setPool hp]
    by_cases hj : j = i
    · rw [if_pos hj, h.free, Allocator.room, hj, hp]
      rfl
    · rw [if_neg hj]

/-- A slot of the home for some size is handed out under a handle that names it. -/
theorem gains_setPool (wf : a.WellFormed) (hi : a.bestFit? size = some i)
    (hp : a.pools[i]? = some p) {slot : Nat} {generation : UInt32}
    (h : SizeClass.Takes p q slot generation) :
    Gains a (a.setPool i q) ⟨a.context, UInt16.ofNat i, UInt32.ofNat slot, generation⟩ := by
  have hpool := wf.toNat_pool hp
  have hplace := wf.place_mk hp h.lt_capacity a.context generation
  refine ⟨wf.setPool hp h.wellFormed h.itemSize h.capacity fun _ _ ↦ ?_, rfl,
    bestFit?_setPool hp h.itemSize, rfl, ?_, ?_, ?_, ?_⟩
  · rw [← sizeAt_of_pool hp]
    exact wf.bestFit?_sizeAt hi
  · rw [hplace, isAllocated, Allocator.usage, hp]
    exact (SizeClass.isAllocated_eq_usage p slot).symm.trans h.unused
  · rintro ⟨j, k⟩
    rw [usage_setPool hp, hplace, h.usage]
    by_cases hj : j = i
    · subst hj
      by_cases hk : k = slot
      · simp [hk]
      · simp [hk, Allocator.usage, hp]
    · simp [hj]
  · intro j
    rw [inUse_setPool hp, hpool, h.inUse]
    by_cases hj : j = i
    · simp [hj, Allocator.inUse, hp]
    · simp [hj]
  · intro j
    rw [room_setPool hp, hpool]
    by_cases hj : j = i
    · simp [hj, Allocator.room, hp, h.free]
    · simp [hj]

theorem loses_setPool (wf : a.WellFormed) (hl : a.Live h)
    (hp : a.pools[h.pool.toNat]? = some p) (hr : SizeClass.Returns p q h.slot.toNat) :
    Loses a (a.setPool h.pool.toNat q) h := by
  have hu := (live_iff.mp hl).2
  rw [Allocator.usage, ItemHandle.place, hp] at hu
  change p.usage h.slot.toNat = _ at hu
  refine ⟨wf.setPool hp hr.wellFormed hr.itemSize hr.capacity fun _ _ ↦ ?_, rfl,
    bestFit?_setPool hp hr.itemSize, hl, ?_, ?_, ?_⟩
  · refine wf.home _ p hp h.slot.toNat ?_
    rw [SizeClass.isAllocated_eq_usage, hu]
    rfl
  · rintro ⟨j, k⟩
    rw [usage_setPool hp, hr.usage, ItemHandle.place]
    by_cases hj : j = h.pool.toNat
    · subst hj
      by_cases hk : k = h.slot.toNat
      · simp [hk, hu]
      · simp [hk, Allocator.usage, hp]
    · simp [hj]
  · intro j
    rw [inUse_setPool hp]
    by_cases hj : j = h.pool.toNat
    · simp [hj, Allocator.inUse, hp, hr.inUse]
    · simp [hj]
  · intro j
    rw [room_setPool hp]
    by_cases hj : j = h.pool.toNat
    · simp [hj, Allocator.room, hp, hr.free]
    · simp [hj]

/-! ### The operations -/

/-- What a request for an item comes to: no pool is large enough, or the one that fits best refuses
it, or hands out the top of its free stack. -/
inductive Request (a : Allocator) (size : Nat) (tags : Tags) :
    Except PoolError ItemHandle → Allocator → Prop where
  | noFit : a.bestFit? size = none →
      Request a size tags (.error (.noFittingPool size a.largestItemSize)) a
  | refused {i : Nat} {p q : SizeClass} : a.bestFit? size = some i → a.pools[i]? = some p →
      p.pop tags = (none, q) →
      Request a size tags (.error (.exhausted i p.itemSize p.capacity)) (a.setPool i q)
  | served {i : Nat} {p q : SizeClass} {slot : Nat} {generation : UInt32} :
      a.bestFit? size = some i → a.pools[i]? = some p →
      p.pop tags = (some (slot, generation), q) →
      Request a size tags (.ok ⟨a.context, UInt16.ofNat i, UInt32.ofNat slot, generation⟩)
        (a.setPool i q)

theorem request_of_allocate (wf : a.WellFormed) {tags : Tags} {r : Except PoolError ItemHandle}
    (h : a.allocate size tags = (r, b)) : Request a size tags r b := by
  rw [allocate] at h
  cases hi : a.bestFit? size with
  | none =>
    simp only [hi, Prod.mk.injEq] at h
    obtain ⟨rfl, rfl⟩ := h
    exact .noFit hi
  | some i =>
    cases hp : a.pools[i]? with
    | none =>
      have hlt := (wf.bestFit?_eq_some_iff.mp hi).1
      rw [Array.getElem?_eq_none_iff] at hp
      omega
    | some p =>
      rcases hpop : p.pop tags with ⟨_ | ⟨slot, generation⟩, q⟩
      · simp only [hi, hp, hpop, Prod.mk.injEq] at h
        obtain ⟨rfl, rfl⟩ := h
        exact .refused hi hp hpop
      · simp only [hi, hp, hpop, Prod.mk.injEq] at h
        obtain ⟨rfl, rfl⟩ := h
        exact .served hi hp hpop

/-- An allocation that is served hands out an item of the home for the size. -/
theorem gains_of_allocate (wf : a.WellFormed) {tags : Tags}
    (h : a.allocate size tags = (.ok g, b)) :
    Gains a b g ∧ a.bestFit? size = some g.pool.toNat := by
  cases request_of_allocate wf h with
  | served hi hp hpop =>
    have hg := gains_setPool wf hi hp (SizeClass.takes_of_pop (wf.pool _ _ hp) hpop)
    refine ⟨hg, hi.trans ?_⟩
    exact congrArg some (wf.toNat_pool hp).symm

/-- An allocation that is refused hands out nothing, for want of a pool or of a free slot. -/
theorem keeps_of_allocate_error (wf : a.WellFormed) {tags : Tags} {e : PoolError}
    (h : a.allocate size tags = (.error e, b)) :
    Keeps a b ∧ e.isFatal = false ∧ ∀ i, a.bestFit? size = some i → a.room i = 0 := by
  cases request_of_allocate wf h with
  | noFit hnone =>
    refine ⟨Keeps.refl wf, rfl, ?_⟩
    intro i hi
    rw [hnone] at hi
    cases hi
  | refused hi hp hpop =>
    obtain ⟨hfree, hsame⟩ := SizeClass.sameUsage_of_pop_none hpop
    refine ⟨keeps_setPool wf hp hsame, rfl, ?_⟩
    intro j hj
    rw [hi] at hj
    obtain rfl := Option.some.inj hj
    simp [room, hp, hfree]

/-- A live handle can be freed, and only a live one. -/
theorem exists_free_iff (releaseTag : UInt16) : (∃ b, a.free h releaseTag = .ok b) ↔ a.Live h := by
  rw [free, Live]
  rcases a.validate h with e | ⟨p, s⟩
  · simp [bind, Except.bind]
  · simp [bind, Except.bind, pure, Except.pure]

theorem free_eq_ok {releaseTag : UInt16} (h' : a.free h releaseTag = .ok b) :
    ∃ p s, a.validate h = .ok (p, s) ∧
      b = a.setPool h.pool.toNat (p.push h.slot.toNat releaseTag) := by
  rw [free] at h'
  rcases hv : a.validate h with e | ⟨p, s⟩
  · simp [hv, bind, Except.bind] at h'
  · simp only [hv, bind, Except.bind, pure, Except.pure, Except.ok.injEq] at h'
    exact ⟨p, s, rfl, h'.symm⟩

theorem loses_of_free (wf : a.WellFormed) {releaseTag : UInt16}
    (h' : a.free h releaseTag = .ok b) : Loses a b h := by
  obtain ⟨p, s, hv, rfl⟩ := free_eq_ok h'
  obtain ⟨hp, -, hs⟩ := validate_eq_ok_iff.mp hv
  exact loses_setPool wf ⟨p, s, hv⟩ hp
    (SizeClass.returns_push (wf.pool _ p hp) (SizeClass.isAllocated_of_check hs) releaseTag)

theorem setInfo_eq_ok {index : Nat} {value : UInt16} (h' : a.setInfo h index value = .ok b) :
    index ≤ 1 ∧ ∃ p s, a.validate h = .ok (p, s) ∧
      b = a.setPool h.pool.toNat (p.setTags h.slot.toNat (if index = 0 then
        { s.tags with first := value } else { s.tags with second := value })) := by
  rw [setInfo] at h'
  cases ho : a.owner h with
  | error e => simp [ho, bind, Except.bind] at h'
  | ok p =>
    obtain ⟨hp, hc⟩ := owner_eq_ok_iff.mp ho
    simp only [ho, bind, Except.bind] at h'
    split at h'
    · cases h'
    · next hindex =>
      cases hs : p.check h.pool.toNat h.slot.toNat h.generation with
      | error e => simp [hs] at h'
      | ok s =>
        simp only [hs, pure, Except.pure, Except.ok.injEq] at h'
        exact ⟨by omega, p, s, validate_eq_ok_iff.mpr ⟨hp, hc, hs⟩, h'.symm⟩

theorem keeps_of_setInfo (wf : a.WellFormed) {index : Nat} {value : UInt16}
    (h' : a.setInfo h index value = .ok b) : Keeps a b := by
  obtain ⟨-, p, s, hv, rfl⟩ := setInfo_eq_ok h'
  exact keeps_setPool wf (validate_eq_ok_iff.mp hv).1 (SizeClass.sameUsage_setTags p _ _)

theorem write_eq_ok {offset : Nat} {bytes : List UInt8} (h' : a.write h offset bytes = .ok b) :
    ∃ p s, a.validate h = .ok (p, s) ∧ offset + bytes.length ≤ s.bytes.length ∧
      b = a.setPool h.pool.toNat (p.setBytes h.slot.toNat (overwrite s.bytes offset bytes)) := by
  rw [write] at h'
  rcases hv : a.validate h with e | ⟨p, s⟩
  · simp [hv, bind, Except.bind] at h'
  · simp only [hv, bind, Except.bind] at h'
    split at h'
    · cases h'
    · next hfit =>
      simp only [pure, Except.pure, Except.ok.injEq] at h'
      exact ⟨p, s, rfl, by omega, h'.symm⟩

theorem keeps_of_write (wf : a.WellFormed) {offset : Nat} {bytes : List UInt8}
    (h' : a.write h offset bytes = .ok b) : Keeps a b := by
  obtain ⟨p, s, hv, hfit, rfl⟩ := write_eq_ok h'
  obtain ⟨hp, -, hs⟩ := validate_eq_ok_iff.mp hv
  exact keeps_setPool wf hp
    (SizeClass.sameUsage_setBytes (SizeClass.check_eq_ok_iff.mp hs).1 (length_overwrite hfit))

theorem update_eq_ok {change : Nat → UInt8 → UInt8} (h' : a.update h change = .ok b) :
    ∃ p s, a.validate h = .ok (p, s) ∧
      b = a.setPool h.pool.toNat (p.setBytes h.slot.toNat (s.bytes.mapIdx change)) := by
  rw [update] at h'
  rcases hv : a.validate h with e | ⟨p, s⟩
  · simp [hv, bind, Except.bind] at h'
  · simp only [hv, bind, Except.bind, pure, Except.pure, Except.ok.injEq] at h'
    exact ⟨p, s, rfl, h'.symm⟩

theorem keeps_of_update (wf : a.WellFormed) {change : Nat → UInt8 → UInt8}
    (h' : a.update h change = .ok b) : Keeps a b := by
  obtain ⟨p, s, hv, rfl⟩ := update_eq_ok h'
  obtain ⟨hp, -, hs⟩ := validate_eq_ok_iff.mp hv
  exact keeps_setPool wf hp
    (SizeClass.sameUsage_setBytes (SizeClass.check_eq_ok_iff.mp hs).1 List.length_mapIdx)

theorem exists_update_iff (change : Nat → UInt8 → UInt8) :
    (∃ b, a.update h change = .ok b) ↔ a.Live h := by
  rw [update, Live]
  rcases a.validate h with e | ⟨p, s⟩
  · simp [bind, Except.bind]
  · simp [bind, Except.bind, pure, Except.pure]

theorem Live.exists_read (hl : a.Live h) : ∃ bytes, a.read h = .ok bytes := by
  obtain ⟨p, s, hv⟩ := hl
  exact ⟨s.bytes, by rw [read, hv]; rfl⟩

/-- A write to a live item is refused at most for its bounds. -/
theorem Live.isFatal_of_write_error (hl : a.Live h) {offset : Nat} {bytes : List UInt8}
    {e : PoolError} (he : a.write h offset bytes = .error e) : e.isFatal = false := by
  obtain ⟨p, s, hv⟩ := hl
  rw [write, hv] at he
  simp only [bind, Except.bind] at he
  split at he
  · cases he
    rfl
  · cases he

/-- Changing a tag of a live item is refused at most for the index of the tag. -/
theorem Live.isFatal_of_setInfo_error (hl : a.Live h) {index : Nat} {value : UInt16}
    {e : PoolError} (he : a.setInfo h index value = .error e) : e.isFatal = false := by
  obtain ⟨p, s, hv⟩ := hl
  obtain ⟨hp, hc, hs⟩ := validate_eq_ok_iff.mp hv
  rw [setInfo, owner_eq_ok_iff.mpr ⟨hp, hc⟩] at he
  simp only [bind, Except.bind] at he
  split at he
  · cases he
    rfl
  · rw [hs] at he
    cases he

theorem Gains.trans_keeps (k : Gains a b h) (k' : Keeps b c) : Gains a c h where
  wellFormed := k'.wellFormed
  context := k'.context.trans k.context
  bestFit? := k'.bestFit?.trans k.bestFit?
  tag := k.tag
  unused := k.unused
  usage place := (k'.usage place).trans (k.usage place)
  inUse i := (k'.inUse i).trans (k.inUse i)
  room i := by rw [k'.room, k.room]

/-- A live handle names an item of a home. -/
theorem WellFormed.home_of_live (wf : a.WellFormed) (hl : a.Live h)
    (hp : a.pools[h.pool.toNat]? = some p) : a.bestFit? p.itemSize = some h.pool.toNat := by
  refine wf.home _ p hp h.slot.toNat ?_
  have := hl.isAllocated
  rw [isAllocated, usage, ItemHandle.place, hp] at this
  rw [SizeClass.isAllocated_eq_usage]
  exact this

/-- An item that is handed out is none of those that were live, and they keep their slots. -/
theorem validate_of_allocate (wf : a.WellFormed) {tags : Tags} {s : Slot}
    (ha : a.allocate size tags = (.ok g, b)) (hv : a.validate h = .ok (p, s)) :
    ∃ q, b.validate h = .ok (q, s) := by
  obtain ⟨hp, hc, hs⟩ := validate_eq_ok_iff.mp hv
  cases request_of_allocate wf ha with
  | @served i r q slot generation hi hr hpop =>
    by_cases hpool : h.pool.toNat = i
    · -- The slot that is handed out was free, so it is not the slot of `h`.
      rw [hpool, hr] at hp
      obtain rfl := Option.some.inj hp
      have hne : slot ≠ h.slot.toNat := fun he ↦ by
        have hunused := (SizeClass.takes_of_pop (wf.pool i r hr) hpop).unused
        rw [he, SizeClass.isAllocated_of_check hs] at hunused
        cases hunused
      refine ⟨q, validate_eq_ok_iff.mpr ⟨by rw [pool_setPool hr, if_pos hpool], hc, ?_⟩⟩
      rw [SizeClass.check_eq_ok_iff, SizeClass.slots_of_pop hpop, List.getElem?_modify_ne _ _ hne]
      exact SizeClass.check_eq_ok_iff.mp hs
    · exact ⟨p, validate_eq_ok_iff.mpr ⟨by rw [pool_setPool hr, if_neg hpool, hp], hc, hs⟩⟩

theorem copyBytes_of_validate {s : Slot} (hv : a.validate h = .ok (p, s)) :
    a.copyBytes h g = a.update g fun i _ ↦ s.bytes[i]?.getD 0 := by
  rw [copyBytes, hv]
  rfl

/-- A request for the size of a live item is served from the pool of the item. -/
theorem pool_of_allocate (wf : a.WellFormed) {s : Slot} (hv : a.validate h = .ok (p, s))
    (ha : a.allocate p.itemSize s.tags = (.ok g, b)) : g.pool = h.pool := by
  have hfit := (gains_of_allocate wf ha).2
  rw [wf.home_of_live ⟨p, s, hv⟩ (validate_eq_ok_iff.mp hv).1] at hfit
  exact (UInt16.toNat.inj (Option.some.inj hfit)).symm

/-- What copying an item comes to: the handle is not accepted, no item is left for the copy, or the
copy is handed out and filled in. An item that was handed out is never returned for want of being
filled in. -/
inductive Duplication (a : Allocator) (h : ItemHandle) :
    Except PoolError ItemHandle → Allocator → Prop where
  | invalid {e : PoolError} : a.validate h = .error e → Duplication a h (.error e) a
  | refused {p : SizeClass} {s : Slot} {e : PoolError} {b : Allocator} :
      a.validate h = .ok (p, s) → a.allocate p.itemSize s.tags = (.error e, b) →
      Duplication a h (.error e) b
  | copied {p : SizeClass} {s : Slot} {g : ItemHandle} {b c : Allocator} :
      a.validate h = .ok (p, s) → a.allocate p.itemSize s.tags = (.ok g, b) →
      b.update g (fun i _ ↦ s.bytes[i]?.getD 0) = .ok c → Duplication a h (.ok g) c

theorem duplication_of_duplicate (wf : a.WellFormed) {r : Except PoolError ItemHandle}
    (h' : a.duplicate h = (r, b)) : Duplication a h r b := by
  rw [duplicate] at h'
  rcases hv : a.validate h with e | ⟨p, s⟩
  · simp only [hv, Prod.mk.injEq] at h'
    obtain ⟨rfl, rfl⟩ := h'
    exact .invalid hv
  · rcases ha : a.allocate p.itemSize s.tags with ⟨e | g, a₁⟩
    · simp only [hv, ha, Prod.mk.injEq] at h'
      obtain ⟨rfl, rfl⟩ := h'
      exact .refused hv ha
    · -- What was just handed out is live, so its bytes can be filled in.
      obtain ⟨a₂, hu⟩ := (exists_update_iff fun i _ ↦ s.bytes[i]?.getD 0).mpr
        (((gains_of_allocate wf ha).1.live_iff g).mpr (Or.inl rfl))
      obtain ⟨q, hv'⟩ := validate_of_allocate wf ha hv
      simp only [hv, ha, copyBytes_of_validate hv', hu, Prod.mk.injEq] at h'
      obtain ⟨rfl, rfl⟩ := h'
      exact .copied hv ha hu

/-- **A copy comes from the pool of its original**, although it is asked for by size. -/
theorem gains_of_duplicate (wf : a.WellFormed) {copy : ItemHandle}
    (h' : a.duplicate h = (.ok copy, b)) :
    a.Live h ∧ Gains a b copy ∧ copy.pool = h.pool := by
  cases duplication_of_duplicate wf h' with
  | copied hv ha hu =>
    have hgain := (gains_of_allocate wf ha).1
    exact ⟨⟨_, _, hv⟩, hgain.trans_keeps (keeps_of_update hgain.wellFormed hu),
      pool_of_allocate wf hv ha⟩

/-- A live item cannot be copied only for want of a free slot in its pool. -/
theorem keeps_of_duplicate_error (wf : a.WellFormed) {e : PoolError}
    (h' : a.duplicate h = (.error e, b)) :
    Keeps a b ∧ (a.Live h → e.isFatal = false ∧ a.room h.pool.toNat = 0) := by
  cases duplication_of_duplicate wf h' with
  | invalid hv =>
    refine ⟨Keeps.refl wf, ?_⟩
    rintro ⟨p, s, hv'⟩
    rw [hv] at hv'
    cases hv'
  | refused hv ha =>
    obtain ⟨hkeep, hfatal, hroom⟩ := keeps_of_allocate_error wf ha
    exact ⟨hkeep, fun hl ↦
      ⟨hfatal, hroom _ (wf.home_of_live hl (validate_eq_ok_iff.mp hv).1)⟩⟩

/-! ## Declarations -/

/-- A new pool has all of its slots free. -/
theorem isAllocated_declared (a : Allocator) (itemCount itemSize : Nat) (place : Nat × Nat) :
    (a.declared itemCount itemSize).isAllocated place = a.isAllocated place := by
  rw [isAllocated, isAllocated, usage, usage, pool_declared]
  split
  · next hi =>
    rw [hi, Array.getElem?_eq_none (Nat.le_refl _)]
    exact (SizeClass.isAllocated_eq_usage _ _).symm.trans (SizeClass.isAllocated_create _ _)
  · rfl

theorem isAllocated_addPool (a : Allocator) (itemCount itemSize : Nat) (place : Nat × Nat) :
    (a.addPool itemCount itemSize).2.isAllocated place = a.isAllocated place := by
  rcases addPool_cases a itemCount itemSize with ⟨e, he⟩ | ⟨-, he⟩
  · rw [he]
  · rw [he, isAllocated_declared]

/-- Pools declared one after the other, as far as they can be. -/
def declareAll (a : Allocator) (pools : List (Nat × Nat)) : Allocator :=
  pools.foldl (fun a p ↦ (a.addPool p.1 p.2).2) a

/-! ## Reachable allocators -/

/-- The allocators that declarations and operations lead to, whether they succeed or not. -/
inductive Reachable : Allocator → Prop where
  | create (context : UInt64) (n : Nat) : Reachable (.create context n)
  | addPool {a : Allocator} (itemCount itemSize : Nat) :
      Reachable a → Reachable (a.addPool itemCount itemSize).2
  | allocate {a : Allocator} (size : Nat) (tags : Tags) :
      Reachable a → Reachable (a.allocate size tags).2
  | duplicate {a : Allocator} (h : ItemHandle) : Reachable a → Reachable (a.duplicate h).2
  | free {a b : Allocator} (h : ItemHandle) (releaseTag : UInt16) :
      Reachable a → a.free h releaseTag = .ok b → Reachable b
  | setInfo {a b : Allocator} (h : ItemHandle) (index : Nat) (value : UInt16) :
      Reachable a → a.setInfo h index value = .ok b → Reachable b
  | write {a b : Allocator} (h : ItemHandle) (offset : Nat) (bytes : List UInt8) :
      Reachable a → a.write h offset bytes = .ok b → Reachable b
  | update {a b : Allocator} (h : ItemHandle) (change : Nat → UInt8 → UInt8) :
      Reachable a → a.update h change = .ok b → Reachable b

theorem WellFormed.allocate (wf : a.WellFormed) (size : Nat) (tags : Tags) :
    (a.allocate size tags).2.WellFormed := by
  rcases h : a.allocate size tags with ⟨e | g, b⟩
  · exact (keeps_of_allocate_error wf h).1.wellFormed
  · exact (gains_of_allocate wf h).1.wellFormed

theorem WellFormed.duplicate (wf : a.WellFormed) (h : ItemHandle) :
    (a.duplicate h).2.WellFormed := by
  rcases h' : a.duplicate h with ⟨e | g, b⟩
  · exact (keeps_of_duplicate_error wf h').1.wellFormed
  · exact (gains_of_duplicate wf h').2.1.wellFormed

theorem Reachable.wellFormed (r : a.Reachable) : a.WellFormed := by
  induction r with
  | create context n => exact wellFormed_create context n
  | addPool itemCount itemSize _ ih => exact ih.addPool itemCount itemSize
  | allocate size tags _ ih => exact ih.allocate size tags
  | duplicate h _ ih => exact ih.duplicate h
  | free _ _ _ h ih => exact (loses_of_free ih h).wellFormed
  | setInfo _ _ _ _ h ih => exact (keeps_of_setInfo ih h).wellFormed
  | write _ _ _ _ h ih => exact (keeps_of_write ih h).wellFormed
  | update _ _ _ h ih => exact (keeps_of_update ih h).wellFormed

theorem Reachable.declareAll (r : a.Reachable) (pools : List (Nat × Nat)) :
    (a.declareAll pools).Reachable := by
  induction pools generalizing a with
  | nil => exact r
  | cons p pools ih => exact ih (r.addPool p.1 p.2)

/-! ## Accounts -/

/-- A list that names exactly the live items, each of them once. -/
structure Accounts (a : Allocator) (items : List ItemHandle) : Prop where
  nodup : items.Nodup
  mem_iff : ∀ g, g ∈ items ↔ a.Live g

namespace Accounts

variable {items others : List ItemHandle}

theorem perm (h : Accounts a items) (hp : items.Perm others) : Accounts a others :=
  ⟨hp.nodup_iff.mp h.nodup, fun g ↦ hp.mem_iff.symm.trans (h.mem_iff g)⟩

theorem keep (h : Accounts a items) (k : Keeps a b) : Accounts b items :=
  ⟨h.nodup, fun g ↦ (h.mem_iff g).trans (k.live_iff g).symm⟩

theorem gain (hi : Accounts a items) (k : Gains a b h) : Accounts b (h :: items) where
  nodup := List.nodup_cons.mpr
    ⟨fun hmem ↦ k.ne_of_live ((hi.mem_iff h).mp hmem) rfl, hi.nodup⟩
  mem_iff g := by rw [List.mem_cons, k.live_iff, hi.mem_iff]

theorem lose (hi : Accounts a (h :: items)) (k : Loses a b h) : Accounts b items := by
  obtain ⟨hnot, hnodup⟩ := List.nodup_cons.mp hi.nodup
  refine ⟨hnodup, ?_⟩
  intro g
  rw [k.live_iff, ← hi.mem_iff, List.mem_cons]
  constructor
  · intro hg
    exact ⟨fun he ↦ hnot (he ▸ hg), Or.inr hg⟩
  · rintro ⟨hne, hg⟩
    exact hg.resolve_left hne

theorem nil (h : ∀ place, a.isAllocated place = false) : Accounts a [] where
  nodup := List.nodup_nil
  mem_iff g := by
    apply iff_of_false List.not_mem_nil
    intro hl
    have := hl.isAllocated
    rw [h] at this
    cases this

/-- Nothing is live in pools that were only declared. -/
theorem declareAll (context : UInt64) (n : Nat) (pools : List (Nat × Nat)) :
    Accounts ((create context n).declareAll pools) [] := by
  suffices hall : ∀ a : Allocator, (∀ place, a.isAllocated place = false) →
      ∀ place, (a.declareAll pools).isAllocated place = false from
    .nil (hall (create context n) fun _ ↦ rfl)
  intro a ha
  induction pools generalizing a with
  | nil => exact ha
  | cons p pools ih =>
    apply ih
    intro place
    rw [isAllocated_addPool]
    exact ha place

theorem live (h : Accounts a items) (hg : g ∈ items) : a.Live g := (h.mem_iff g).mp hg

/-- The items of an account lie in distinct slots. -/
theorem nodup_places (h : Accounts a items) : (items.map (·.place)).Nodup :=
  h.nodup.map_on fun _ hx _ hy he ↦ (h.live hx).eq_of_place (h.live hy) he

/-- The items of an account lie in exactly the slots that are handed out. -/
theorem isAllocated_iff (h : Accounts a items) (wf : a.WellFormed) (place : Nat × Nat) :
    a.isAllocated place = true ↔ place ∈ items.map (·.place) := by
  rw [wf.isAllocated_iff_live, List.mem_map]
  exact exists_congr fun g ↦ and_congr_left' (h.mem_iff g).symm

/-- Where nothing is live, nothing is counted as outstanding. -/
theorem outstanding_eq_zero (h : Accounts a []) (wf : a.WellFormed) :
    a.statistics.outstanding = 0 := by
  apply PoolStatistics.outstanding_eq_zero
  intro x hx
  rw [statistics, Array.mem_toList_iff, Array.mem_mapIdx] at hx
  obtain ⟨i, hi, rfl⟩ := hx
  have hp : a.pools[i]? = some a.pools[i] := Array.getElem?_eq_getElem hi
  refine (wf.pool i _ hp).inUse_eq_zero fun slot ↦ Bool.eq_false_iff.mpr ?_
  intro hslot
  have hplace : a.isAllocated (i, slot) = true := by
    rw [isAllocated, usage, hp]
    exact (SizeClass.isAllocated_eq_usage _ slot).symm.trans hslot
  exact absurd ((h.isAllocated_iff wf _).mp hplace) List.not_mem_nil

end Accounts

end Allocator

end TaskMessaging
