import TaskMessaging.Pool.Allocator
import TaskMessaging.Proofs.FirstRun
import TaskMessaging.Proofs.Pool.SizeClass

/-!
# Well-formed allocators

The pools of an allocator are well-formed, the indices by size are all of them in strictly
descending order of size and declaration, and items are handed out by *home* pools only: those that
a request for their own item size is served from. Of several pools with one item size only the first
declared is a home, which is why a copy of an item comes from the pool of the item itself.

## The order of the pools

The pool that serves a request is found by a run through the ordered indices. `bestFit?_eq_some_iff`
says which one that is without mentioning the order, and everything else about requests follows from
it.
-/

namespace TaskMessaging

namespace Allocator

variable {a : Allocator} {p : SizeClass} {i j size : Nat}

/-! ## The order of the pools -/

/-- The place of two pools among the indices by size: the larger first, and of equal ones that
which was declared last. -/
def Before (a : Allocator) (i j : Nat) : Prop :=
  a.sizeAt j < a.sizeAt i ∨ a.sizeAt i = a.sizeAt j ∧ j < i

theorem Before.le (h : a.Before i j) : a.sizeAt j ≤ a.sizeAt i := by
  rcases h with h | ⟨h, -⟩ <;> omega

theorem Before.asymm (h : a.Before i j) : ¬ a.Before j i := by
  rintro (h' | ⟨h', hlt'⟩) <;> rcases h with h | ⟨h, hlt⟩ <;> omega

/-- What every operation on an allocator keeps. -/
structure WellFormed (a : Allocator) : Prop where
  maxPools_le : a.maxPools ≤ poolLimit
  size_le : a.pools.size ≤ a.maxPools
  pool : ∀ (i : Nat) (p : SizeClass), a.pools[i]? = some p → p.WellFormed
  capacity_le : ∀ (i : Nat) (p : SizeClass), a.pools[i]? = some p → p.capacity ≤ itemLimit
  mem_bySize : ∀ i, i ∈ a.bySize ↔ i < a.pools.size
  ordered : a.bySize.Pairwise a.Before
  home : ∀ (i : Nat) (p : SizeClass), a.pools[i]? = some p → ∀ slot, p.isAllocated slot = true →
    a.bestFit? p.itemSize = some i

theorem sizeAt_of_pool (hp : a.pools[i]? = some p) : a.sizeAt i = p.itemSize := by
  simp [sizeAt, hp]

/-- **Best fit.** A request is served from the smallest pool that is large enough, and among equal
ones from the first. -/
theorem bestFit?_eq_some_iff_of (ordered : a.bySize.Pairwise a.Before)
    (mem_bySize : ∀ i, i ∈ a.bySize ↔ i < a.pools.size) :
    a.bestFit? size = some i ↔ i < a.pools.size ∧ size ≤ a.sizeAt i ∧
      ∀ j, j < a.pools.size → size ≤ a.sizeAt j → j = i ∨ a.Before j i := by
  -- The pools are tried from the largest down, so those that are large enough come first.
  have hfit : a.bySize.takeWhile (fun k ↦ decide (size ≤ a.sizeAt k))
      = a.bySize.filter fun k ↦ decide (size ≤ a.sizeAt k) := by
    refine takeWhile_eq_filter (ordered.imp ?_)
    intro j k hb hk
    have := hb.le
    simp only [decide_eq_true_eq] at hk ⊢
    omega
  -- The last of them is the smallest.
  have hlast : ∀ k, a.bestFit? size = some k → k < a.pools.size ∧ size ≤ a.sizeAt k ∧
      ∀ j, j < a.pools.size → size ≤ a.sizeAt j → j = k ∨ a.Before j k := by
    intro k hk
    rw [bestFit?, hfit, List.getLast?_eq_some_iff] at hk
    obtain ⟨ys, hys⟩ := hk
    have hmem : ∀ j, j ∈ ys ++ [k] ↔ j < a.pools.size ∧ size ≤ a.sizeAt j := by
      intro j
      rw [← hys, List.mem_filter, mem_bySize, decide_eq_true_eq]
    obtain ⟨hlt, hle⟩ := (hmem k).mp (by simp)
    refine ⟨hlt, hle, fun j hj hsj ↦ ?_⟩
    have hpair : (ys ++ [k]).Pairwise a.Before := hys ▸ ordered.filter _
    rcases List.mem_append.mp ((hmem j).mpr ⟨hj, hsj⟩) with hjys | hjk
    · exact Or.inr ((List.pairwise_append.mp hpair).2.2 j hjys k (by simp))
    · exact Or.inl (List.mem_singleton.mp hjk)
  refine ⟨hlast i, ?_⟩
  rintro ⟨hlt, hle, hmin⟩
  cases hk : a.bestFit? size with
  | none =>
    rw [bestFit?, hfit, List.getLast?_eq_none_iff, List.filter_eq_nil_iff] at hk
    exact absurd (decide_eq_true hle) (hk i ((mem_bySize i).mpr hlt))
  | some k =>
    -- Two pools of which neither may come before the other are the same one.
    obtain ⟨hklt, hkle, hkmin⟩ := hlast k hk
    rcases hkmin i hlt hle with rfl | hik
    · rfl
    · rcases hmin k hklt hkle with rfl | hki
      · rfl
      · exact absurd hki hik.asymm

theorem WellFormed.bestFit?_eq_some_iff (wf : a.WellFormed) :
    a.bestFit? size = some i ↔ i < a.pools.size ∧ size ≤ a.sizeAt i ∧
      ∀ j, j < a.pools.size → size ≤ a.sizeAt j → j = i ∨ a.Before j i :=
  bestFit?_eq_some_iff_of wf.ordered wf.mem_bySize

/-- The pool that serves a request is a home: it serves requests for its own size too. -/
theorem WellFormed.bestFit?_sizeAt (wf : a.WellFormed) (hi : a.bestFit? size = some i) :
    a.bestFit? (a.sizeAt i) = some i := by
  rw [wf.bestFit?_eq_some_iff] at hi ⊢
  obtain ⟨hlt, hle, hmin⟩ := hi
  exact ⟨hlt, Nat.le_refl _, fun j hj hsj ↦ hmin j hj (by omega)⟩

/-! ## Declaring pools -/

theorem wellFormed_create (context : UInt64) (n : Nat) : (create context n).WellFormed where
  maxPools_le := Nat.min_le_right _ _
  size_le := by simp
  pool i p hp := by simp at hp
  capacity_le i p hp := by simp at hp
  mem_bySize i := by simp [create]
  ordered := List.Pairwise.nil
  home i p hp := by simp at hp

/-- The allocator behind a declaration that succeeds. -/
def declared (a : Allocator) (itemCount itemSize : Nat) : Allocator :=
  { a with
    pools := a.pools.push (.create (min itemCount itemLimit) itemSize)
    bySize := a.bySizeWith a.pools.size itemSize }

theorem addPoolError?_eq_none_iff {itemCount itemSize : Nat} :
    a.addPoolError? itemCount itemSize = none ↔
      ¬ (itemCount = 0 ∨ itemSize = 0) ∧ a.pools.size < a.maxPools := by
  rw [addPoolError?]
  split_ifs with hzero hroom
  · simp [hzero]
  · simp [Nat.not_lt_of_le hroom]
  · simp [hzero, Nat.lt_of_not_le hroom]

section Declaring

variable {itemCount itemSize : Nat} {e : PoolError} {r : Except (DeclareFailure PoolError) Nat}

theorem addPool_of_refused (h : a.addPoolError? itemCount itemSize = some e) :
    a.addPool itemCount itemSize = (.error (.refused e), a) := by
  rw [addPool, h]

theorem addPool_of_oversized (h : a.addPoolError? itemCount itemSize = none)
    (hs : SizeClass.byteLimit < itemSize) :
    a.addPool itemCount itemSize = (.error .panicked, a) := by
  rw [addPool, h, SizeClass.create?, if_neg (Nat.not_le_of_lt hs)]

theorem addPool_of_fits (h : a.addPoolError? itemCount itemSize = none)
    (hs : itemSize ≤ SizeClass.byteLimit) :
    a.addPool itemCount itemSize = (.ok a.pools.size, a.declared itemCount itemSize) := by
  rw [addPool, h, SizeClass.create?, if_pos hs]
  rfl

/-- What becomes of a declaration. -/
inductive Declaration (a : Allocator) (itemCount itemSize : Nat) :
    Except (DeclareFailure PoolError) Nat → Allocator → Prop where
  | refused {e : PoolError} : a.addPoolError? itemCount itemSize = some e →
      Declaration a itemCount itemSize (.error (.refused e)) a
  | panicked : a.addPoolError? itemCount itemSize = none → SizeClass.byteLimit < itemSize →
      Declaration a itemCount itemSize (.error .panicked) a
  | declared : a.addPoolError? itemCount itemSize = none → itemSize ≤ SizeClass.byteLimit →
      Declaration a itemCount itemSize (.ok a.pools.size) (a.declared itemCount itemSize)

theorem declaration_of_addPool (h : a.addPool itemCount itemSize = (r, b)) :
    Declaration a itemCount itemSize r b := by
  cases he : a.addPoolError? itemCount itemSize with
  | some e =>
    cases (addPool_of_refused he).symm.trans h
    exact .refused he
  | none =>
    rcases Nat.lt_or_ge SizeClass.byteLimit itemSize with hlarge | hfits
    · cases (addPool_of_oversized he hlarge).symm.trans h
      exact .panicked he hlarge
    · cases (addPool_of_fits he hfits).symm.trans h
      exact .declared he hfits

end Declaring

theorem addPool_cases (a : Allocator) (itemCount itemSize : Nat) :
    (∃ f, a.addPool itemCount itemSize = (.error f, a)) ∨
      a.pools.size < a.maxPools ∧
        a.addPool itemCount itemSize = (.ok a.pools.size, a.declared itemCount itemSize) := by
  rcases h : a.addPool itemCount itemSize with ⟨r, b⟩
  cases declaration_of_addPool h with
  | refused => exact Or.inl ⟨_, rfl⟩
  | panicked => exact Or.inl ⟨_, rfl⟩
  | declared he => exact Or.inr ⟨(addPoolError?_eq_none_iff.mp he).2, rfl⟩

theorem pool_declared {itemCount itemSize : Nat} :
    (a.declared itemCount itemSize).pools[i]? =
      if i = a.pools.size then some (.create (min itemCount itemLimit) itemSize)
      else a.pools[i]? := Array.getElem?_push

theorem sizeAt_declared {itemCount itemSize : Nat} :
    (a.declared itemCount itemSize).sizeAt i =
      if i = a.pools.size then itemSize else a.sizeAt i := by
  rw [sizeAt, pool_declared]
  by_cases hi : i = a.pools.size
  · rw [if_pos hi, if_pos hi]
    rfl
  · rw [if_neg hi, if_neg hi, sizeAt]

theorem WellFormed.ordered_declared (wf : a.WellFormed) (itemCount itemSize : Nat) :
    (a.declared itemCount itemSize).bySize.Pairwise (a.declared itemCount itemSize).Before := by
  have hne : ∀ k ∈ a.bySize, k ≠ a.pools.size := fun k hk ↦
    Nat.ne_of_lt ((wf.mem_bySize k).mp hk)
  have hold : a.bySize.Pairwise (a.declared itemCount itemSize).Before := by
    refine wf.ordered.imp_of_mem fun {x y} hx hy hb ↦ ?_
    rw [Before, sizeAt_declared, sizeAt_declared, if_neg (hne x hx), if_neg (hne y hy)]
    exact hb
  have hmono : a.bySize.Pairwise fun x y ↦
      decide (itemSize < a.sizeAt y) = true → decide (itemSize < a.sizeAt x) = true := by
    refine wf.ordered.imp ?_
    intro j k hb hk
    have := hb.le
    simp only [decide_eq_true_eq] at hk ⊢
    omega
  change ((a.bySize.takeWhile fun k ↦ decide (itemSize < a.sizeAt k)) ++ a.pools.size ::
    a.bySize.dropWhile fun k ↦ decide (itemSize < a.sizeAt k)).Pairwise _
  rw [← List.takeWhile_append_dropWhile (p := fun k ↦ decide (itemSize < a.sizeAt k))
    (l := a.bySize), List.pairwise_append] at hold
  obtain ⟨hlarger, hothers, hcross⟩ := hold
  refine List.pairwise_append.mpr ⟨hlarger, List.pairwise_cons.mpr ⟨?_, hothers⟩, ?_⟩
  · intro y hy
    have hylt := (wf.mem_bySize y).mp ((List.dropWhile_sublist _).mem hy)
    have hle := of_decide_eq_false (not_of_mem_dropWhile hmono hy)
    rw [Before, sizeAt_declared, sizeAt_declared, if_pos rfl, if_neg (Nat.ne_of_lt hylt)]
    omega
  · intro x hx y hy
    rcases List.mem_cons.mp hy with rfl | hmem
    · have hgt := of_decide_eq_true (List.all_eq_true.mp List.all_takeWhile x hx)
      rw [Before, sizeAt_declared, sizeAt_declared, if_pos rfl,
        if_neg (hne x ((List.takeWhile_sublist _).mem hx))]
      exact Or.inl hgt
    · exact hcross x hx y hmem

theorem mem_bySizeWith {index itemSize : Nat} :
    i ∈ a.bySizeWith index itemSize ↔ i ∈ a.bySize ∨ i = index := by
  have hsplit : i ∈ a.bySize ↔ i ∈ (a.bySize.takeWhile fun k ↦ decide (itemSize < a.sizeAt k)) ++
      a.bySize.dropWhile fun k ↦ decide (itemSize < a.sizeAt k) := by
    rw [List.takeWhile_append_dropWhile]
  rw [hsplit, bySizeWith, List.mem_append, List.mem_append, List.mem_cons]
  tauto

theorem WellFormed.declared (wf : a.WellFormed) (hroom : a.pools.size < a.maxPools)
    (itemCount itemSize : Nat) : (a.declared itemCount itemSize).WellFormed := by
  have hsize : (a.declared itemCount itemSize).pools.size = a.pools.size + 1 := Array.size_push _
  have hmem (k : Nat) : k ∈ (a.declared itemCount itemSize).bySize ↔
      k < (a.declared itemCount itemSize).pools.size := by
    rw [hsize]
    refine mem_bySizeWith.trans ?_
    rw [wf.mem_bySize]
    omega
  have hordered := wf.ordered_declared itemCount itemSize
  refine ⟨wf.maxPools_le, by rw [hsize]; exact hroom, ?_, ?_, hmem, hordered, ?_⟩
  · intro i p hp
    rw [pool_declared] at hp
    split at hp
    · cases hp
      exact SizeClass.wellFormed_create _ _
    · exact wf.pool i p hp
  · intro i p hp
    rw [pool_declared] at hp
    split at hp
    · cases hp
      rw [SizeClass.capacity_create]
      exact Nat.min_le_right _ _
    · exact wf.capacity_le i p hp
  · intro i p hp slot hslot
    rw [pool_declared] at hp
    split at hp
    · cases hp
      rw [SizeClass.isAllocated_create] at hslot
      exact absurd hslot (by simp)
    · -- The new pool comes behind every home, being larger or declared later.
      next hi =>
        have hfit := wf.home i p hp slot hslot
        have hpi := sizeAt_of_pool hp
        rw [wf.bestFit?_eq_some_iff] at hfit
        obtain ⟨hlt, hle, hmin⟩ := hfit
        have hself : (a.declared itemCount itemSize).sizeAt i = p.itemSize := by
          rw [sizeAt_declared, if_neg hi, hpi]
        refine (bestFit?_eq_some_iff_of hordered hmem).mpr ⟨by omega, by omega, fun j hj hsj ↦ ?_⟩
        rw [sizeAt_declared] at hsj
        rw [Before, hself, sizeAt_declared]
        by_cases hjn : j = a.pools.size
        · rw [if_pos hjn] at hsj ⊢
          omega
        · rw [if_neg hjn] at hsj ⊢
          rcases hmin j (by omega) hsj with hji | hb
          · exact Or.inl hji
          · rw [Before, hpi] at hb
            exact Or.inr hb

theorem WellFormed.addPool (wf : a.WellFormed) (itemCount itemSize : Nat) :
    (a.addPool itemCount itemSize).2.WellFormed := by
  rcases addPool_cases a itemCount itemSize with ⟨e, h⟩ | ⟨hroom, h⟩
  · rw [h]
    exact wf
  · rw [h]
    exact wf.declared hroom itemCount itemSize

end Allocator

end TaskMessaging
