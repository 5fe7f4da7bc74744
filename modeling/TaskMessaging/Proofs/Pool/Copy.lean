import TaskMessaging.Proofs.Pool.BestFit
import TaskMessaging.Proofs.Pool.Item

/-!
# Copies of items

A copy is asked for by size and not by pool, so it comes from the pool that serves requests for that
size. That this is the pool of the original, and not another one of the same item size, is an
invariant: of several pools with one size only the one declared first ever hands out items, whatever
was declared and allocated in between, and in whatever order.

Everything else about copies rests on it. Original and copy are equally long, so the bytes can be
copied over and the new item is never given back. A copy fails exactly if the pool of the original
is full, and then that pool is named and counts the refusal.
-/

namespace TaskMessaging

namespace Allocator

variable {a b : Allocator} {g h : ItemHandle} {p q : SizeClass} {s : Slot} {e : PoolError}
  {i j : Nat}

/-! ## The pool of a copy -/

/-- **Of pools with one item size only the first ever holds an item.** -/
theorem WellFormed.isAllocated_eq_false (wf : a.WellFormed) (hij : i < j)
    (hp : a.pools[i]? = some p) (hq : a.pools[j]? = some q) (hs : p.itemSize = q.itemSize)
    (slot : Nat) : q.isAllocated slot = false := by
  refine Bool.eq_false_iff.mpr fun hslot ↦ ?_
  obtain ⟨-, -, hfirst⟩ := wf.bestFit?_eq_some_iff.mp (wf.home j q hq slot hslot)
  have hi := (Array.getElem?_eq_some_iff.mp hp).1
  have hpi := sizeAt_of_pool hp
  have hqj := sizeAt_of_pool hq
  -- A home comes behind all pools of its size, the others were declared later.
  rcases hfirst i hi (by omega) with he | hb
  · omega
  · rcases hb with hlt | ⟨-, hlt⟩ <;> omega

/-! ## Filling in a copy -/

/-- The item that is handed out for a copy and its original are equally long, so the bytes of the
one can be put over those of the other, and the copy is complete. -/
structure Fills (a : Allocator) (h g : ItemHandle) (b : Allocator) : Prop where
  pool : g.pool = h.pool
  equalLength : ∃ source target, b.read h = .ok source ∧ b.read g = .ok target ∧
    source.length = target.length
  filled : ∃ c, b.copyBytes h g = .ok c ∧ a.duplicate h = (.ok g, c)

theorem fills_of_allocate (wf : a.WellFormed) (hv : a.validate h = .ok (p, s))
    (ha : a.allocate p.itemSize s.tags = (.ok g, b)) : Fills a h g b := by
  obtain ⟨hgain, -⟩ := gains_of_allocate wf ha
  obtain ⟨q, hvh⟩ := validate_of_allocate wf ha hv
  have hg : b.Live g := (hgain.live_iff g).mpr (Or.inl rfl)
  obtain ⟨r, t, hvg⟩ := hg
  -- Both validations look into the same pool, which has items of one size.
  have hqr : q = r := by
    have hq := (validate_eq_ok_iff.mp hvh).1
    rw [← pool_of_allocate wf hv ha, (validate_eq_ok_iff.mp hvg).1] at hq
    exact (Option.some.inj hq).symm
  have hlen : s.bytes.length = t.bytes.length := by
    rw [hgain.wellFormed.length_bytes_of_validate hvh,
      hgain.wellFormed.length_bytes_of_validate hvg, hqr]
  obtain ⟨c, hc⟩ : ∃ c, b.copyBytes h g = .ok c := by
    rw [copyBytes_of_validate hvh]
    exact (exists_update_iff _).mpr ⟨r, t, hvg⟩
  refine ⟨pool_of_allocate wf hv ha,
    ⟨s.bytes, t.bytes, by rw [read, hvh]; rfl, by rw [read, hvg]; rfl, hlen⟩, c, hc, ?_⟩
  rw [duplicate, hv]
  dsimp only
  rw [ha]
  dsimp only
  rw [hc]

/-! ## What a copy changes -/

/-- A copy of an item was made: what the allocator before it and the allocator behind it have to do
with each other. -/
structure Copied (a : Allocator) (h g : ItemHandle) (b : Allocator) : Prop where
  pool : g.pool = h.pool
  place_ne : g.place ≠ h.place
  unused : a.isAllocated g.place = false
  /-- The new handle gives access to what the old one does, and no other handle to anything new. -/
  items : b.item? = Function.update a.item? g (a.item? h)
  live : b.Live g
  /-- One pool changes, and in it one slot and the counters. -/
  changes : ∃ p q, a.pools[h.pool.toNat]? = some p ∧ b = a.setPool h.pool.toNat q ∧
    q.itemSize = p.itemSize ∧ q.counters = p.counters.take ∧
    ∀ slot ≠ g.slot.toNat, q.slots[slot]? = p.slots[slot]?

theorem copied_of_duplicate (wf : a.WellFormed) (hd : a.duplicate h = (.ok g, b)) :
    Copied a h g b := by
  obtain ⟨hl, hgain, hpool⟩ := gains_of_duplicate wf hd
  refine ⟨hpool, (hgain.place_ne hl).symm, hgain.unused, item?_duplicate wf hd,
    (hgain.live_iff g).mpr (Or.inl rfl), ?_⟩
  cases duplication_of_duplicate wf hd with
  | @copied p s g b₁ _ hv ha hu =>
    have hsame := congrArg UInt16.toNat hpool
    have hp := (validate_eq_ok_iff.mp hv).1
    cases request_of_allocate wf ha with
    | @served i r q slot generation hi hr hpop =>
      obtain ⟨t, u, hvt, rfl⟩ := update_eq_ok hu
      have hslot := wf.toNat_slot hr (SizeClass.takes_of_pop (wf.pool i r hr) hpop).lt_capacity
      have hi' : i = h.pool.toNat := (wf.toNat_pool hr).symm.trans hsame
      subst hi'
      obtain rfl : p = r := Option.some.inj (hp.symm.trans hr)
      -- The copy is filled in within the pool that it was just taken from.
      obtain rfl : q = t := by
        have ht := (validate_eq_ok_iff.mp hvt).1
        rw [hsame, pool_setPool hr, if_pos rfl] at ht
        exact Option.some.inj ht
      refine ⟨p, _, hp, by rw [hsame, setPool_setPool], ?_, ?_, ?_⟩
      · exact (SizeClass.takes_of_pop (wf.pool _ p hp) hpop).itemSize
      · rw [SizeClass.counters_setBytes]
        exact (SizeClass.usage_of_pop (wf.pool _ p hp) hpop).1
      · intro k hk
        rw [SizeClass.setBytes, List.getElem?_modify_ne _ _ (Ne.symm hk),
          SizeClass.slots_of_pop hpop, ← hslot, List.getElem?_modify_ne _ _ (Ne.symm hk)]

/-- A live item that is not copied is refused by its pool, which is full and counts it. -/
theorem duplicate_eq_error (wf : a.WellFormed) (hl : a.Live h)
    (hp : a.pools[h.pool.toNat]? = some p) (hd : a.duplicate h = (.error e, b)) :
    p.free = [] ∧ e = .exhausted h.pool.toNat p.itemSize p.capacity ∧
      b = a.setPool h.pool.toNat { p with exhausted := p.exhausted + 1 } := by
  cases duplication_of_duplicate wf hd with
  | invalid hv =>
    obtain ⟨q, s, hv'⟩ := hl
    rw [hv] at hv'
    cases hv'
  | @refused q s e b hv ha =>
    obtain rfl : p = q := Option.some.inj (hp.symm.trans (validate_eq_ok_iff.mp hv).1)
    have hhome := wf.home_of_live hl hp
    cases request_of_allocate wf ha with
    | noFit hi =>
      rw [hhome] at hi
      cases hi
    | @refused i r q hi hr hpop =>
      obtain rfl := Option.some.inj (hhome.symm.trans hi)
      obtain rfl := Option.some.inj (hp.symm.trans hr)
      obtain ⟨hfree, -⟩ := SizeClass.sameUsage_of_pop_none hpop
      rw [SizeClass.pop, hfree] at hpop
      obtain rfl := (Prod.mk.inj hpop).2
      exact ⟨hfree, rfl, by rw [hfree]⟩

/-- A copy is made exactly if the pool of the original is not full. -/
theorem exists_duplicate_iff (wf : a.WellFormed) (hl : a.Live h) :
    (∃ g, (a.duplicate h).1 = .ok g) ↔ ¬ a.Full h.pool.toNat := by
  obtain ⟨p, s, hv⟩ := hl
  have hp := (validate_eq_ok_iff.mp hv).1
  rw [wf.full_iff hp]
  rcases hd : a.duplicate h with ⟨e | g, b⟩
  · simp [(duplicate_eq_error wf ⟨p, s, hv⟩ hp hd).1]
  · obtain ⟨-, hgain, hpool⟩ := gains_of_duplicate wf hd
    have hroom := hgain.room h.pool.toNat
    rw [hpool, if_pos rfl, room, room, hp] at hroom
    have hne : p.free ≠ [] := by
      rintro hfree
      rw [Option.map_some, Option.getD_some, hfree, List.length_nil] at hroom
      omega
    simp [hne]

/-! ## The law -/

/-- What copying means in an allocator. -/
structure CopyLaw (a : Allocator) : Prop where
  /-- The copy of a live item is made exactly if there is a free slot in the pool of the item. -/
  made_iff : ∀ h, a.Live h → ((∃ g, (a.duplicate h).1 = .ok g) ↔ ¬ a.Full h.pool.toNat)
  copied : ∀ h g b, a.duplicate h = (.ok g, b) → Copied a h g b
  /-- Otherwise the pool of the item is named, and what changes is its counter of refusals. -/
  refused : ∀ h p e b, a.Live h → a.pools[h.pool.toNat]? = some p →
    a.duplicate h = (.error e, b) → e = .exhausted h.pool.toNat p.itemSize p.capacity ∧
      b = a.setPool h.pool.toNat { p with exhausted := p.exhausted + 1 }
  /-- The item that is handed out for a copy can be filled in, and so it is not returned. -/
  fills : ∀ h p s g b, a.validate h = .ok (p, s) → a.allocate p.itemSize s.tags = (.ok g, b) →
    Fills a h g b
  /-- Of pools with one item size only the first declared holds items. -/
  first : ∀ (i j : Nat) (p q : SizeClass) (slot : Nat), i < j → a.pools[i]? = some p →
    a.pools[j]? = some q → p.itemSize = q.itemSize → q.isAllocated slot = false

/-- **The law of copies.** After any run of an allocator the copy of an item comes from the pool of
the item, whatever other pools there are, and is made entirely or not at all. -/
theorem copy_law (context : UInt64) (n : Nat) (ops : List PoolOperation) :
    CopyLaw ((create context n).run ops) := by
  have wf := (wellFormed_create context n).run ops
  refine ⟨fun h ↦ exists_duplicate_iff wf, fun h g b ↦ copied_of_duplicate wf, ?_, ?_, ?_⟩
  · intro h p e b hl hp hd
    exact (duplicate_eq_error wf hl hp hd).2
  · intro h p s g b
    exact fills_of_allocate wf
  · intro i j p q slot hij hp hq hs
    exact wf.isAllocated_eq_false hij hp hq hs slot

/-- Two pools of one size, of which the second has room when the first has none left. -/
def equalPools : List PoolOperation :=
  [.addPool 2 4, .addPool 9 4, .allocate 3 ⟨1, 2⟩, .write ⟨7, 0, 0, 1⟩ 1 [5, 6],
    .duplicate ⟨7, 0, 0, 1⟩]

/-- The second pool never helps out, and the copy is as good as the original. -/
example :
    ((create 7 2).run equalPools).item? ⟨7, 0, 1, 1⟩ = some ⟨[0, 5, 6, 0], ⟨1, 2⟩⟩ ∧
      (((create 7 2).run equalPools).duplicate ⟨7, 0, 1, 1⟩).1 = .error (.exhausted 0 4 2) := by
  decide

end Allocator

end TaskMessaging
