import Mathlib.Data.List.TakeWhile
import TaskMessaging.Proofs.Pool.Run

/-!
# Best fit

A request is served from the smallest declared size that is large enough, and of equal sizes from
the one declared first, in whatever order the pools were declared and whatever happened in between.
The declarations of a run are read off its operations and their answers, so the law names no pool
that was not asked for: `BestFit sizes size i` is about the list of the sizes that were declared.

## The index

The pools are found through an index of their sizes. Read from its other end it ascends, by size and
then by declaration, and a search for the first pool that is large enough needs exactly that: those
that are too small come before it. A declaration keeps it so, by going behind all pools that are not
larger. The two searches differ in how they take equal sizes, and this is what makes the first of
several equal pools the one that serves.
-/

namespace TaskMessaging

/-- Of the sizes that pools were declared with, `i` is the place of the one that serves a request:
it is large enough, and every other one that is comes behind it. -/
def BestFit (sizes : List Nat) (size i : Nat) : Prop :=
  ∃ s, sizes[i]? = some s ∧ size ≤ s ∧
    ∀ j t, sizes[j]? = some t → size ≤ t → s < t ∨ s = t ∧ i ≤ j

namespace BestFit

variable {sizes : List Nat} {size i j : Nat}

theorem unique (hi : BestFit sizes size i) (hj : BestFit sizes size j) : i = j := by
  obtain ⟨s, hs, hle, hleast⟩ := hi
  obtain ⟨t, ht, hle', hleast'⟩ := hj
  have h := hleast j t ht hle'
  have h' := hleast' i s hs hle
  omega

end BestFit

namespace Allocator

variable {a b : Allocator} {h : ItemHandle} {p q : SizeClass} {i j size : Nat} {tags : Tags}
  {r : Except PoolError ItemHandle}

/-! ## What is declared -/

/-- How many pools there may be, and number and size of the items of those that there are. -/
def layout (a : Allocator) : Nat × List (Nat × Nat) :=
  (a.maxPools, a.pools.toList.map fun p ↦ (p.capacity, p.itemSize))

theorem getElem?_layout (a : Allocator) (i : Nat) :
    a.layout.2[i]? = a.pools[i]?.map fun p ↦ (p.capacity, p.itemSize) := by
  rw [layout, List.getElem?_map, Array.getElem?_toList]

theorem length_layout (a : Allocator) : a.layout.2.length = a.pools.size := by
  rw [layout, List.length_map, Array.length_toList]

theorem layout_setPool (hp : a.pools[i]? = some p) (hs : q.itemSize = p.itemSize)
    (hc : q.capacity = p.capacity) : (a.setPool i q).layout = a.layout := by
  refine Prod.ext rfl (List.ext_getElem? fun j ↦ ?_)
  rw [getElem?_layout, getElem?_layout, pool_setPool hp]
  by_cases hj : j = i
  · rw [if_pos hj, hj, hp, Option.map_some, Option.map_some, hs, hc]
  · rw [if_neg hj]

theorem layout_allocate (wf : a.WellFormed) (h : a.allocate size tags = (r, b)) :
    b.layout = a.layout := by
  have hpop {p q : SizeClass} {x : Option (Nat × UInt32)} (hx : p.pop tags = (x, q)) :
      q.itemSize = p.itemSize ∧ q.capacity = p.capacity := by
    have hsize := p.itemSize_pop tags
    have hcapacity := p.capacity_pop tags
    rw [hx] at hsize hcapacity
    exact ⟨hsize, hcapacity⟩
  cases request_of_allocate wf h with
  | noFit => rfl
  | refused _ hp hx => exact layout_setPool hp (hpop hx).1 (hpop hx).2
  | served _ hp hx => exact layout_setPool hp (hpop hx).1 (hpop hx).2

theorem layout_update {f : Nat → UInt8 → UInt8} (h' : a.update h f = .ok b) :
    b.layout = a.layout := by
  obtain ⟨p, s, hv, rfl⟩ := update_eq_ok h'
  exact layout_setPool (validate_eq_ok_iff.mp hv).1 rfl (List.length_modify ..)

/-- The declaration that an operation makes, if it succeeds. -/
def declaration : PoolOperation → PoolAnswer → List (Nat × Nat)
  | .addPool itemCount itemSize, .pool _ => [(itemCount, itemSize)]
  | _, _ => []

theorem declaration_failure (itemCount itemSize : Nat) (f : DeclareFailure PoolError) :
    declaration (.addPool itemCount itemSize) (.ofDeclaration (.error f)) = [] := by
  cases f with
  | refused e => rfl
  | panicked => rfl

/-- A pool is made in the shape that was declared, with as many items as can be told apart. -/
def shapeOf (d : Nat × Nat) : Nat × Nat := (min d.1 itemLimit, d.2)

theorem layout_declared (a : Allocator) (itemCount itemSize : Nat) :
    (a.declared itemCount itemSize).layout =
      (a.maxPools, a.layout.2 ++ [shapeOf (itemCount, itemSize)]) := by
  rw [layout, declared, Array.toList_push, List.map_append, List.map_singleton,
    SizeClass.capacity_create]
  rfl

/-- An operation adds to the pools what it declares, and nothing else. -/
theorem layout_perform (wf : a.WellFormed) (op : PoolOperation) :
    (a.perform op).2.layout =
      (a.maxPools, a.layout.2 ++ (declaration op (a.perform op).1).map shapeOf) := by
  have hsame {op : PoolOperation} (hop : ∀ x, declaration op x = [])
      (hs : (a.perform op).2.layout = a.layout) : (a.perform op).2.layout =
        (a.maxPools, a.layout.2 ++ (declaration op (a.perform op).1).map shapeOf) := by
    rw [hop, hs, List.map_nil, List.append_nil]
    rfl
  have hchange {r : Except PoolError Allocator} (hr : ∀ b, r = .ok b → b.layout = a.layout) :
      (a.change r).2.layout = a.layout := by
    cases r with
    | error e => rfl
    | ok b => exact hr b rfl
  cases op with
  | addPool itemCount itemSize =>
    rw [perform]
    rcases addPool_cases a itemCount itemSize with ⟨f, hf⟩ | ⟨-, he⟩
    · rw [hf, declaration_failure]
      exact Prod.ext rfl (List.append_nil _).symm
    · rw [he]
      exact a.layout_declared itemCount itemSize
  | allocate size tags => exact hsame (fun _ ↦ rfl) (layout_allocate wf rfl)
  | duplicate h =>
    refine hsame (fun _ ↦ rfl) ?_
    rw [perform]
    rcases hd : a.duplicate h with ⟨r, b⟩
    cases duplication_of_duplicate wf hd with
    | invalid => rfl
    | refused _ ha => exact layout_allocate wf ha
    | copied _ ha hu => exact (layout_update hu).trans (layout_allocate wf ha)
  | free h releaseTag =>
    refine hsame (fun _ ↦ rfl) (hchange fun b hb ↦ ?_)
    obtain ⟨p, s, hv, rfl⟩ := free_eq_ok hb
    exact layout_setPool (validate_eq_ok_iff.mp hv).1 rfl (p.capacity_push _ _)
  | setInfo h index value =>
    refine hsame (fun _ ↦ rfl) (hchange fun b hb ↦ ?_)
    obtain ⟨-, p, s, hv, rfl⟩ := setInfo_eq_ok hb
    exact layout_setPool (validate_eq_ok_iff.mp hv).1 rfl (List.length_modify ..)
  | write h offset bytes =>
    refine hsame (fun _ ↦ rfl) (hchange fun b hb ↦ ?_)
    obtain ⟨p, s, hv, -, rfl⟩ := write_eq_ok hb
    exact layout_setPool (validate_eq_ok_iff.mp hv).1 rfl (List.length_modify ..)
  | update h f => exact hsame (fun _ ↦ rfl) (hchange fun b hb ↦ layout_update hb)
  | info | itemSize | read => exact hsame (fun _ ↦ rfl) rfl

/-- The declarations of a run that succeeded, in their order. -/
def declarations (a : Allocator) : List PoolOperation → List (Nat × Nat)
  | [] => []
  | op :: ops => declaration op (a.perform op).1 ++ (a.perform op).2.declarations ops

/-- **The pools of a run** are those that were declared. -/
theorem layout_run (wf : a.WellFormed) (ops : List PoolOperation) :
    (a.run ops).layout = (a.maxPools, a.layout.2 ++ (a.declarations ops).map shapeOf) := by
  induction ops generalizing a with
  | nil => exact Prod.ext rfl (List.append_nil _).symm
  | cons op ops ih =>
    have hstep := layout_perform wf op
    have hmax : (a.perform op).2.maxPools = a.maxPools := congrArg Prod.fst hstep
    rw [run_cons, ih ((effect wf op).wellFormed wf), hstep, hmax, declarations, List.map_append,
      List.append_assoc]

/-! ## The index -/

/-- The pools by item size, the smallest first. -/
def order (a : Allocator) : List Nat := a.bySize.reverse

/-- How many elements have a property before the first one that does not. -/
def partitionPoint (P : Nat → Bool) (l : List Nat) : Nat := (l.takeWhile P).length

section Search

variable {P Q : Nat → Bool} {l : List Nat}

theorem reverse_eq_append (P : Nat → Bool) (l : List Nat) :
    l.reverse = (l.dropWhile P).reverse ++ (l.takeWhile P).reverse := by
  rw [← List.reverse_append, List.takeWhile_append_dropWhile]

theorem insertIdx_length_append (l m : List Nat) (x : Nat) :
    (l ++ m).insertIdx l.length x = l ++ x :: m := by
  induction l with
  | nil => rfl
  | cons y l ih => rw [List.cons_append, List.length_cons, List.insertIdx_succ_cons, ih,
      List.cons_append]

/-- Where the elements with a property come first, they come last in the reverse. -/
theorem partitionPoint_reverse (h : l.Pairwise fun x y ↦ P y = true → P x = true)
    (hQ : ∀ x, Q x = !P x) : partitionPoint Q l.reverse = (l.dropWhile P).reverse.length := by
  have hfirst : ∀ x ∈ (l.dropWhile P).reverse, Q x = true := fun x hx ↦ by
    rw [hQ, not_of_mem_dropWhile h (List.mem_reverse.mp hx), Bool.not_false]
  have hlast : (l.takeWhile P).reverse.takeWhile Q = [] := by
    rw [List.takeWhile_eq_nil_iff]
    intro hpos hx
    have hmem : (l.takeWhile P).reverse.get ⟨0, hpos⟩ ∈ l.takeWhile P :=
      List.mem_reverse.mp (List.getElem_mem hpos)
    rw [hQ, List.all_eq_true.mp List.all_takeWhile _ hmem, Bool.not_true] at hx
    exact absurd hx Bool.false_ne_true
  rw [partitionPoint, reverse_eq_append P, List.takeWhile_append_of_pos hfirst, hlast,
    List.append_nil]

theorem getElem?_partitionPoint (h : l.Pairwise fun x y ↦ P y = true → P x = true)
    (hQ : ∀ x, Q x = !P x) :
    l.reverse[partitionPoint Q l.reverse]? = (l.takeWhile P).getLast? := by
  rw [partitionPoint_reverse h hQ]
  conv_lhs => rw [reverse_eq_append P l]
  rw [List.getElem?_append_right (Nat.le_refl _), Nat.sub_self, ← List.head?_eq_getElem?,
    List.head?_reverse]

theorem insertIdx_partitionPoint (h : l.Pairwise fun x y ↦ P y = true → P x = true)
    (hQ : ∀ x, Q x = !P x) (x : Nat) :
    l.reverse.insertIdx (partitionPoint Q l.reverse) x =
      (l.takeWhile P ++ x :: l.dropWhile P).reverse := by
  rw [partitionPoint_reverse h hQ, List.reverse_append, List.reverse_cons, List.append_assoc]
  conv_lhs => rw [reverse_eq_append P l]
  exact insertIdx_length_append _ _ _

end Search

/-- The sizes ascend, so a search may proceed by bisection. -/
theorem WellFormed.ascending (wf : a.WellFormed) :
    a.order.Pairwise fun j k ↦ a.sizeAt j ≤ a.sizeAt k :=
  List.pairwise_reverse.mpr (wf.ordered.imp Before.le)

/-- A request is served from the pool behind all those that are too small. -/
theorem WellFormed.bestFit?_eq_getElem? (wf : a.WellFormed) (size : Nat) :
    a.bestFit? size = a.order[partitionPoint (fun k ↦ a.sizeAt k < size) a.order]? := by
  refine (getElem?_partitionPoint (wf.ordered.imp fun {x y} hb hy ↦ ?_) fun k ↦ ?_).symm
  · exact decide_eq_true (Nat.le_trans (of_decide_eq_true hy) hb.le)
  · rw [← decide_not, decide_eq_decide, Nat.not_le]

/-- A new pool goes behind all those that are not larger. -/
theorem WellFormed.order_declared (wf : a.WellFormed) (itemCount itemSize : Nat) :
    (a.declared itemCount itemSize).order =
      a.order.insertIdx (partitionPoint (fun k ↦ a.sizeAt k ≤ itemSize) a.order) a.pools.size := by
  refine (insertIdx_partitionPoint (wf.ordered.imp fun {x y} hb hy ↦ ?_) (fun k ↦ ?_) _).symm
  · exact decide_eq_true (Nat.lt_of_lt_of_le (of_decide_eq_true hy) hb.le)
  · rw [← decide_not, decide_eq_decide, Nat.not_lt]

/-! ## Requests -/

/-- The item sizes of the pools. -/
def sizes (a : Allocator) : List Nat := a.layout.2.map (·.2)

theorem getElem?_sizes {s : Nat} :
    a.sizes[i]? = some s ↔ i < a.pools.size ∧ a.sizeAt i = s := by
  rw [sizes, List.getElem?_map, getElem?_layout, sizeAt]
  by_cases hi : i < a.pools.size
  · simp [hi]
  · simp [hi]

theorem mem_sizes {s : Nat} : s ∈ a.sizes ↔ ∃ i < a.pools.size, a.sizeAt i = s := by
  rw [List.mem_iff_getElem?]
  exact exists_congr fun _ ↦ getElem?_sizes

theorem WellFormed.bestFit?_eq_some_iff_bestFit (wf : a.WellFormed) :
    a.bestFit? size = some i ↔ BestFit a.sizes size i := by
  rw [wf.bestFit?_eq_some_iff]
  constructor
  · rintro ⟨hlt, hle, hmin⟩
    refine ⟨a.sizeAt i, getElem?_sizes.mpr ⟨hlt, rfl⟩, hle, fun j t ht hsize ↦ ?_⟩
    obtain ⟨hj, rfl⟩ := getElem?_sizes.mp ht
    rcases hmin j hj hsize with rfl | hlarger | ⟨heq, hfirst⟩ <;> omega
  · rintro ⟨s, hs, hle, hleast⟩
    obtain ⟨hlt, rfl⟩ := getElem?_sizes.mp hs
    refine ⟨hlt, hle, fun j hj hsize ↦ ?_⟩
    have := hleast j _ (getElem?_sizes.mpr ⟨hj, rfl⟩) hsize
    rw [Before]
    omega

/-- The pool at the head of the index is the largest. -/
theorem WellFormed.sizeAt_le_head {k : Nat} {l : List Nat} (wf : a.WellFormed)
    (hl : a.bySize = k :: l) (hi : i < a.pools.size) : a.sizeAt i ≤ a.sizeAt k := by
  have hmem := (wf.mem_bySize i).mpr hi
  have hordered := wf.ordered
  rw [hl] at hmem hordered
  rcases List.mem_cons.mp hmem with rfl | htail
  · exact Nat.le_refl _
  · exact ((List.pairwise_cons.mp hordered).1 i htail).le

theorem WellFormed.size_eq_zero (wf : a.WellFormed) (hl : a.bySize = []) : a.pools.size = 0 := by
  rcases Nat.eq_zero_or_pos a.pools.size with hzero | hpos
  · exact hzero
  · have hmem := (wf.mem_bySize 0).mpr hpos
    rw [hl] at hmem
    exact absurd hmem List.not_mem_nil

theorem WellFormed.largestItemSize_eq (wf : a.WellFormed) :
    a.largestItemSize = a.sizes.max?.getD 0 := by
  rw [largestItemSize]
  cases hl : a.bySize with
  | nil =>
    have hnone : a.sizes = [] := List.eq_nil_iff_forall_not_mem.mpr fun s hs ↦ by
      obtain ⟨i, hi, -⟩ := mem_sizes.mp hs
      exact absurd hi (by rw [wf.size_eq_zero hl]; exact Nat.not_lt_zero i)
    rw [hnone]
    rfl
  | cons k l =>
    have hk := (wf.mem_bySize k).mp (by rw [hl]; exact List.mem_cons_self)
    have hmax : a.sizes.max? = some (a.sizeAt k) := by
      refine List.max?_eq_some_iff.mpr ⟨mem_sizes.mpr ⟨k, hk, rfl⟩, fun s hs ↦ ?_⟩
      obtain ⟨i, hi, rfl⟩ := mem_sizes.mp hs
      exact wf.sizeAt_le_head hl hi
    rw [hmax]
    rfl

/-- There is a pool that fits best as soon as one is large enough. -/
theorem WellFormed.bestFit?_eq_none_iff (wf : a.WellFormed) :
    a.bestFit? size = none ↔ ∀ s ∈ a.sizes, s < size := by
  constructor
  · intro hnone s hs
    obtain ⟨i, hi, rfl⟩ := mem_sizes.mp hs
    rw [bestFit?, List.getLast?_eq_none_iff] at hnone
    cases hl : a.bySize with
    | nil => rw [wf.size_eq_zero hl] at hi; omega
    | cons k l =>
      have hle := wf.sizeAt_le_head hl hi
      rw [hl, List.takeWhile_cons] at hnone
      split at hnone
      · cases hnone
      · next hsmall => simp only [decide_eq_true_eq] at hsmall; omega
  · intro hsmall
    rw [Option.eq_none_iff_forall_ne_some]
    intro i hi
    obtain ⟨s, hs, hle, -⟩ := wf.bestFit?_eq_some_iff_bestFit.mp hi
    have := hsmall s (List.mem_of_getElem? hs)
    omega

/-! ## The law -/

/-- A pool has handed out each of its items. -/
def Full (a : Allocator) (i : Nat) : Prop :=
  ∀ p, a.pools[i]? = some p → ∀ slot < p.capacity, p.isAllocated slot = true

theorem WellFormed.full_iff (wf : a.WellFormed) (hp : a.pools[i]? = some p) :
    a.Full i ↔ p.free = [] := by
  have hmem := (wf.pool i p hp).mem_free
  rw [Full, List.eq_nil_iff_forall_not_mem]
  constructor
  · intro hfull slot hslot
    obtain ⟨hlt, hfree⟩ := (hmem slot).mp hslot
    rw [hfull p hp slot hlt] at hfree
    cases hfree
  · intro hnone q hq slot hlt
    obtain rfl := Option.some.inj (hp.symm.trans hq)
    exact Bool.of_not_eq_false fun hfree ↦ hnone slot ((hmem slot).mpr ⟨hlt, hfree⟩)

/-- An allocator with pools of the declared numbers and sizes, of which there may be `limit`. -/
structure BestFitLaw (a : Allocator) (limit : Nat) (ds : List (Nat × Nat)) : Prop where
  length_le : ds.length ≤ limit
  /-- A request finds no pool exactly if all of them are too small. -/
  noFit : ∀ size tags size' largest,
    (a.allocate size tags).1 = .error (.noFittingPool size' largest) ↔
      (∀ d ∈ ds, d.2 < size) ∧ size' = size ∧ largest = (ds.map (·.2)).max?.getD 0
  exhausted : ∀ size tags i itemSize capacity,
    (a.allocate size tags).1 = .error (.exhausted i itemSize capacity) ↔
      BestFit (ds.map (·.2)) size i ∧ a.Full i ∧
        ∃ count, ds[i]? = some (count, itemSize) ∧ capacity = min count itemLimit
  served : ∀ size tags i,
    (∃ h, (a.allocate size tags).1 = .ok h ∧ h.pool.toNat = i) ↔
      BestFit (ds.map (·.2)) size i ∧ ¬ a.Full i
  /-- No other pool than the one that fits best is touched. -/
  others : ∀ size tags j, ¬ BestFit (ds.map (·.2)) size j →
    (a.allocate size tags).2.pools[j]? = a.pools[j]?
  /-- The index holds the pools by ascending size. -/
  ascending : a.order.Pairwise fun j k ↦ a.sizeAt j ≤ a.sizeAt k
  /-- The pool that fits best is the first of them that is not too small. -/
  searched : ∀ size i,
    a.order[partitionPoint (fun k ↦ a.sizeAt k < size) a.order]? = some i ↔
      BestFit (ds.map (·.2)) size i
  /-- A new pool goes behind those that are not larger. -/
  inserted : ∀ itemCount itemSize i, (a.addPool itemCount itemSize).1 = .ok i →
    (a.addPool itemCount itemSize).2.order =
      a.order.insertIdx (partitionPoint (fun k ↦ a.sizeAt k ≤ itemSize) a.order) i
  zeroSized : ∀ itemCount itemSize itemCount' itemSize',
    (a.addPool itemCount itemSize).1 = .error (.refused (.zeroSized itemCount' itemSize')) ↔
      (itemCount = 0 ∨ itemSize = 0) ∧ itemCount' = itemCount ∧ itemSize' = itemSize
  contextFull : ∀ itemCount itemSize limit',
    (a.addPool itemCount itemSize).1 = .error (.refused (.contextFull limit')) ↔
      ¬ (itemCount = 0 ∨ itemSize = 0) ∧ ds.length = limit ∧ limit' = limit
  /-- The thread panics over items for which there can be no buffer. -/
  panicked : ∀ itemCount itemSize,
    (a.addPool itemCount itemSize).1 = .error .panicked ↔
      ¬ (itemCount = 0 ∨ itemSize = 0) ∧ ds.length < limit ∧ SizeClass.byteLimit < itemSize
  added : ∀ itemCount itemSize i,
    (a.addPool itemCount itemSize).1 = .ok i ↔
      ¬ (itemCount = 0 ∨ itemSize = 0) ∧ ds.length < limit ∧ itemSize ≤ SizeClass.byteLimit ∧
        i = ds.length
  /-- A declaration that fails, in whichever way, changes nothing. -/
  unchanged : ∀ itemCount itemSize f,
    (a.addPool itemCount itemSize).1 = .error f → (a.addPool itemCount itemSize).2 = a

section Law

variable {limit : Nat} {ds : List (Nat × Nat)}

theorem sizes_of_layout (hl : a.layout = (limit, ds.map shapeOf)) : a.sizes = ds.map (·.2) := by
  rw [sizes, hl, List.map_map]
  rfl

theorem length_of_layout (hl : a.layout = (limit, ds.map shapeOf)) :
    a.pools.size = ds.length := by
  rw [← length_layout, hl, List.length_map]

/-- The shape of a pool, as it was declared. -/
theorem shape_of_layout (hl : a.layout = (limit, ds.map shapeOf)) (hp : a.pools[i]? = some p) :
    ∃ count, ds[i]? = some (count, p.itemSize) ∧ p.capacity = min count itemLimit := by
  have hshape := a.getElem?_layout i
  rw [hl, List.getElem?_map, hp, Option.map_some, Option.map_eq_some_iff] at hshape
  obtain ⟨⟨count, itemSize⟩, hd, hs⟩ := hshape
  obtain ⟨hcapacity, rfl⟩ := Prod.mk.inj hs
  exact ⟨count, hd, hcapacity.symm⟩

/-- What becomes of a request, in terms of what was declared. -/
inductive Choice (a : Allocator) (ds : List (Nat × Nat)) (size : Nat) :
    Except PoolError ItemHandle → Allocator → Prop where
  | noFit : (∀ d ∈ ds, d.2 < size) →
      Choice a ds size (.error (.noFittingPool size ((ds.map (·.2)).max?.getD 0))) a
  | exhausted {i count itemSize : Nat} {q : SizeClass} : BestFit (ds.map (·.2)) size i →
      a.Full i → ds[i]? = some (count, itemSize) →
      Choice a ds size (.error (.exhausted i itemSize (min count itemLimit))) (a.setPool i q)
  | served {i : Nat} {h : ItemHandle} {q : SizeClass} : BestFit (ds.map (·.2)) size i →
      ¬ a.Full i → h.pool.toNat = i → Choice a ds size (.ok h) (a.setPool i q)

theorem choice_of_allocate (wf : a.WellFormed) (hl : a.layout = (limit, ds.map shapeOf))
    (h : a.allocate size tags = (r, b)) : Choice a ds size r b := by
  have hsizes := sizes_of_layout hl
  cases request_of_allocate wf h with
  | noFit hnone =>
    rw [wf.bestFit?_eq_none_iff, hsizes, List.forall_mem_map] at hnone
    rw [wf.largestItemSize_eq, hsizes]
    exact .noFit hnone
  | refused hi hp hpop =>
    rw [wf.bestFit?_eq_some_iff_bestFit, hsizes] at hi
    obtain ⟨count, hd, hcapacity⟩ := shape_of_layout hl hp
    rw [hcapacity]
    exact .exhausted hi ((wf.full_iff hp).mpr (SizeClass.sameUsage_of_pop_none hpop).1) hd
  | served hi hp hpop =>
    rw [wf.bestFit?_eq_some_iff_bestFit, hsizes] at hi
    refine .served hi (fun hfull ↦ ?_) (wf.toNat_pool hp)
    have hempty := (SizeClass.pop_eq_none_iff _ tags).mpr ((wf.full_iff hp).mp hfull)
    rw [hpop] at hempty
    cases hempty

/-- A pool that fits is one of those that were declared. -/
theorem not_small_of_bestFit (h : BestFit (ds.map (·.2)) size i) : ¬ ∀ d ∈ ds, d.2 < size := by
  obtain ⟨s, hs, hle, -⟩ := h
  rw [List.getElem?_map, Option.map_eq_some_iff] at hs
  obtain ⟨d, hd, rfl⟩ := hs
  exact fun hsmall ↦ absurd (hsmall d (List.mem_of_getElem? hd)) (Nat.not_lt_of_le hle)

namespace Choice

theorem noFit_iff {size' largest : Nat} (hc : Choice a ds size r b) :
    r = .error (.noFittingPool size' largest) ↔
      (∀ d ∈ ds, d.2 < size) ∧ size' = size ∧ largest = (ds.map (·.2)).max?.getD 0 := by
  cases hc with
  | noFit hsmall =>
    rw [Except.error.injEq, PoolError.noFittingPool.injEq, eq_comm (a := size),
      eq_comm (b := largest)]
    exact (and_iff_right hsmall).symm
  | exhausted hi => exact ⟨nofun, fun h ↦ absurd h.1 (not_small_of_bestFit hi)⟩
  | served hi => exact ⟨nofun, fun h ↦ absurd h.1 (not_small_of_bestFit hi)⟩

theorem exhausted_iff {itemSize capacity : Nat} (hc : Choice a ds size r b) :
    r = .error (.exhausted i itemSize capacity) ↔
      BestFit (ds.map (·.2)) size i ∧ a.Full i ∧
        ∃ count, ds[i]? = some (count, itemSize) ∧ capacity = min count itemLimit := by
  cases hc with
  | noFit hsmall => exact ⟨nofun, fun h ↦ absurd hsmall (not_small_of_bestFit h.1)⟩
  | exhausted hi hfull hd =>
    constructor
    · intro h
      obtain ⟨rfl, rfl, rfl⟩ := PoolError.exhausted.inj (Except.error.inj h)
      exact ⟨hi, hfull, _, hd, rfl⟩
    · rintro ⟨hi', -, count, hd', rfl⟩
      obtain rfl := hi.unique hi'
      obtain ⟨rfl, rfl⟩ := Prod.mk.inj (Option.some.inj (hd.symm.trans hd'))
      rfl
  | served hi hroom =>
    refine ⟨nofun, fun h ↦ absurd h.2.1 ?_⟩
    rwa [← hi.unique h.1]

theorem served_iff (hc : Choice a ds size r b) :
    (∃ h, r = .ok h ∧ h.pool.toNat = i) ↔ BestFit (ds.map (·.2)) size i ∧ ¬ a.Full i := by
  cases hc with
  | noFit hsmall => exact ⟨nofun, fun h ↦ absurd hsmall (not_small_of_bestFit h.1)⟩
  | exhausted hi hfull =>
    refine ⟨nofun, fun h ↦ absurd hfull ?_⟩
    rw [hi.unique h.1]
    exact h.2
  | served hi hroom hh =>
    constructor
    · rintro ⟨g, hg, rfl⟩
      obtain rfl := Except.ok.inj hg
      obtain rfl := hh
      exact ⟨hi, hroom⟩
    · rintro ⟨hi', -⟩
      exact ⟨_, rfl, hh.trans (hi.unique hi')⟩

theorem others (hc : Choice a ds size r b) (hj : ¬ BestFit (ds.map (·.2)) size j) :
    b.pools[j]? = a.pools[j]? := by
  have hset {i : Nat} {q : SizeClass} (hi : BestFit (ds.map (·.2)) size i) :
      (a.setPool i q).pools[j]? = a.pools[j]? := by
    refine Array.getElem?_setIfInBounds_ne fun hij ↦ hj ?_
    rwa [← hij]
  cases hc with
  | noFit => rfl
  | exhausted hi => exact hset hi
  | served hi => exact hset hi

end Choice

section Declaring

variable {itemCount itemSize : Nat} {e : PoolError}

namespace Declaration

variable {r : Except (DeclareFailure PoolError) Nat}

theorem refused_iff (hd : Declaration a itemCount itemSize r b) :
    r = .error (.refused e) ↔ a.addPoolError? itemCount itemSize = some e := by
  cases hd with
  | refused he => simp [he]
  | panicked he => simp [he]
  | declared he => simp [he]

theorem panicked_iff (hd : Declaration a itemCount itemSize r b) :
    r = .error .panicked ↔
      a.addPoolError? itemCount itemSize = none ∧ SizeClass.byteLimit < itemSize := by
  cases hd with
  | refused he => simp [he]
  | panicked he hlarge => simp [he, hlarge]
  | declared _ hfits => simp [Nat.not_lt_of_le hfits]

theorem declared_iff (hd : Declaration a itemCount itemSize r b) :
    r = .ok i ↔ a.addPoolError? itemCount itemSize = none ∧ itemSize ≤ SizeClass.byteLimit ∧
      i = a.pools.size := by
  cases hd with
  | refused he => simp [he]
  | panicked _ hlarge => simp [Nat.not_le_of_lt hlarge]
  | declared he hfits => simp [he, hfits, eq_comm]

/-- A new pool is put into the index where a search for the larger ones ends. -/
theorem order_eq (wf : a.WellFormed) (hd : Declaration a itemCount itemSize (.ok i) b) :
    b.order =
      a.order.insertIdx (partitionPoint (fun k ↦ a.sizeAt k ≤ itemSize) a.order) i := by
  cases hd with
  | declared => exact wf.order_declared itemCount itemSize

end Declaration

end Declaring

/-- The law holds where the pools are as they were declared. -/
theorem bestFitLaw_of_layout (wf : a.WellFormed) (hl : a.layout = (limit, ds.map shapeOf)) :
    BestFitLaw a limit ds := by
  obtain rfl : limit = a.maxPools := congrArg Prod.fst hl.symm
  have hlen := length_of_layout hl
  have hle := wf.size_le
  have hdeclaration (itemCount itemSize : Nat) : Declaration a itemCount itemSize
      (a.addPool itemCount itemSize).1 (a.addPool itemCount itemSize).2 := declaration_of_addPool rfl
  constructor
  case length_le => omega
  case noFit => exact fun _ _ _ _ ↦ (choice_of_allocate wf hl rfl).noFit_iff
  case exhausted => exact fun _ _ _ _ _ ↦ (choice_of_allocate wf hl rfl).exhausted_iff
  case served => exact fun _ _ _ ↦ (choice_of_allocate wf hl rfl).served_iff
  case others => exact fun _ _ _ ↦ (choice_of_allocate wf hl rfl).others
  case ascending => exact wf.ascending
  case searched =>
    intro size i
    rw [← wf.bestFit?_eq_getElem?, wf.bestFit?_eq_some_iff_bestFit, sizes_of_layout hl]
  case inserted =>
    intro itemCount itemSize i hi
    exact (declaration_of_addPool (Prod.ext hi rfl)).order_eq wf
  case zeroSized =>
    intro itemCount itemSize itemCount' itemSize'
    rw [(hdeclaration _ _).refused_iff, addPoolError?]
    split_ifs with hzero hroom
    · simp [hzero, eq_comm]
    · simp [hzero]
    · simp [hzero]
  case contextFull =>
    intro itemCount itemSize limit'
    rw [(hdeclaration _ _).refused_iff, addPoolError?, ← hlen]
    split_ifs with hzero hroom
    · simp [hzero]
    · simp [hzero, Nat.le_antisymm hle hroom, eq_comm]
    · simp [Nat.ne_of_lt (Nat.lt_of_not_le hroom)]
  case panicked =>
    intro itemCount itemSize
    rw [(hdeclaration _ _).panicked_iff, addPoolError?_eq_none_iff, hlen, and_assoc]
  case added =>
    intro itemCount itemSize i
    rw [(hdeclaration _ _).declared_iff, addPoolError?_eq_none_iff, hlen, and_assoc]
  case unchanged => exact fun _ _ _ ↦ addPool_of_error

/-- **Best fit.** Over any run of an allocator, a request is served from the pool that fits it best
among those that were declared, or not at all. -/
theorem best_fit_law (context : UInt64) (n : Nat) (ops : List PoolOperation) :
    BestFitLaw ((create context n).run ops) (min n 65535)
      ((create context n).declarations ops) := by
  have wf := wellFormed_create context n
  exact bestFitLaw_of_layout (wf.run ops) (layout_run wf ops)

/-- Of two pools of one size the first serves, and the second does not stand in for it. -/
example : (((create 0 3).run [.addPool 1 16, .addPool 1 8, .addPool 0 8, .addPool 1 8,
    .allocate 5 ⟨0, 0⟩]).allocate 5 ⟨0, 0⟩).1 = .error (.exhausted 1 8 1) := rfl

end Law

end Allocator

end TaskMessaging
