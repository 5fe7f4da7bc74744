import Mathlib.Logic.Function.Basic
import TaskMessaging.Proofs.Pool.Run

/-!
# Contents of items

An allocator is a store of byte vectors: what is read from an item is what was put into it. A
`Store` gives each slot its bytes and its two tags, and `Store.after` moves it along with an
operation on nothing but the operation and its answer. No pool, no generation and no free stack
occurs in it, so replaying the log of a run on an empty store is a second account of the contents,
and `item_law` says that it is the right one.

## What survives in a slot

The bytes of a slot belong to the slot and not to its item: freeing keeps them, and the next item
of the slot starts with them. So the account is kept for all slots, handed out or not. The tags
are the item's own. Freeing puts a release tag in place of the first, which no handle can read, and
the store does not mention it; `Slot.Holds` therefore compares tags only where an item is live.

## The invariant

A store *describes* an allocator if every slot holds what the store says. All that an operation
does to a slot is one application of `List.modify`, so one lemma, `Describes.modify`, carries the
invariant through every operation.
-/

namespace TaskMessaging

/-! ## Items -/

/-- What an item holds. -/
structure Item where
  bytes : List UInt8
  tags : Tags
deriving DecidableEq

namespace Item

/-- An item of a new pool. -/
def zero (size : Nat) : Item := ⟨List.replicate size 0, default⟩

/-- The item with each byte changed, given its place and its value. -/
def edit (x : Item) (change : Nat → UInt8 → UInt8) : Item :=
  { x with bytes := x.bytes.mapIdx change }

/-- The item with one of its tags changed, the second if it is not the first. -/
def setTag (x : Item) (index : Nat) (value : UInt16) : Item :=
  { x with
    tags := if index = 0 then { x.tags with first := value } else { x.tags with second := value } }

end Item

/-- What a write does to the byte at a place. -/
def putting (offset : Nat) (new : List UInt8) (place : Nat) (old : UInt8) : UInt8 :=
  if offset ≤ place then new[place - offset]?.getD old else old

/-- A write changes each byte on its own, provided that it ends within the item. -/
theorem Allocator.overwrite_eq_mapIdx {old new : List UInt8} {offset : Nat}
    (h : offset + new.length ≤ old.length) :
    overwrite old offset new = old.mapIdx (putting offset new) := by
  apply List.ext_getElem
  · rw [length_overwrite h, List.length_mapIdx]
  · intro k hk hk'
    rw [List.length_mapIdx] at hk'
    rw [List.getElem_mapIdx, putting, ← Option.some_inj, ← List.getElem?_eq_getElem hk, overwrite,
      List.append_assoc]
    -- The byte stands before the written part, in it, or behind it.
    by_cases hbefore : k < offset
    · rw [List.getElem?_append_left (by rw [List.length_take]; omega), if_neg (by omega),
        List.getElem?_take_of_lt hbefore, List.getElem?_eq_getElem hk']
    · have hlen : (old.take offset).length = offset := by
        rw [List.length_take]
        omega
      rw [List.getElem?_append_right (by omega), hlen, if_pos (by omega)]
      by_cases hwithin : k - offset < new.length
      · rw [List.getElem?_append_left hwithin, List.getElem?_eq_getElem hwithin, Option.getD_some]
      · rw [List.getElem?_append_right (by omega), List.getElem?_drop,
          List.getElem?_eq_none (l := new) (by omega), Option.getD_none,
          ← List.getElem?_eq_getElem hk']
        congr 1
        omega

/-! ## Stores -/

/-- What every slot holds. -/
abbrev Store := Nat × Nat → Item

namespace Store

/-- The store before any pool is declared. -/
def blank : Store := fun _ ↦ .zero 0

/-- The store after an operation, by the answer to it. -/
def after (c : Store) : PoolOperation → PoolAnswer → Store
  | .addPool _ itemSize, .pool i => fun place ↦ if place.1 = i then .zero itemSize else c place
  | .allocate _ tags, .item g => Function.update c g.place { c g.place with tags := tags }
  | .duplicate h, .item g => Function.update c g.place (c h.place)
  | .write h offset bytes, .done =>
    Function.update c h.place ((c h.place).edit (putting offset bytes))
  | .update h change, .done => Function.update c h.place ((c h.place).edit change)
  | .setInfo h index value, .done => Function.update c h.place ((c h.place).setTag index value)
  | _, _ => c

/-- The store after all operations of a log. -/
def replay (c : Store) (log : List (PoolOperation × PoolAnswer)) : Store :=
  log.foldl (fun c entry ↦ c.after entry.1 entry.2) c

/-- An operation that is refused leaves the store alone. -/
theorem after_refused (c : Store) (op : PoolOperation) (e : PoolError) :
    c.after op (.refused e) = c := by
  cases op <;> rfl

/-- So does a declaration that fails. -/
theorem after_failure (c : Store) (itemCount itemSize : Nat) (f : DeclareFailure PoolError) :
    c.after (.addPool itemCount itemSize) (.ofDeclaration (.error f)) = c := by
  cases f with
  | refused e => rfl
  | panicked => rfl

end Store

/-- The item that an operation changes, if it succeeds. -/
def PoolOperation.edits? : PoolOperation → Option ItemHandle
  | .write h .. | .update h _ | .setInfo h .. => some h
  | _ => none

/-- A slot holds an item. -/
structure Slot.Holds (s : Slot) (x : Item) : Prop where
  bytes : s.bytes = x.bytes
  tags : s.allocated = true → s.tags = x.tags

namespace Allocator

variable {a b : Allocator} {g h : ItemHandle} {p q : SizeClass} {s : Slot} {i slot : Nat}
  {c : Store} {ops : List PoolOperation}

/-- The slot at a place. -/
def slot? (a : Allocator) (place : Nat × Nat) : Option Slot :=
  a.pools[place.1]?.bind (·.slots[place.2]?)

theorem slot?_of_pool (hp : a.pools[i]? = some p) (slot : Nat) :
    a.slot? (i, slot) = p.slots[slot]? := by
  rw [slot?, hp]
  rfl

theorem slot?_of_validate (hv : a.validate h = .ok (p, s)) :
    a.slot? h.place = some s ∧ s.allocated = true := by
  obtain ⟨hp, -, hs⟩ := validate_eq_ok_iff.mp hv
  obtain ⟨hs, -, ha⟩ := SizeClass.check_eq_ok_iff.mp hs
  exact ⟨(slot?_of_pool hp _).trans hs, ha⟩

/-- Exactly one slot changes where one slot of a pool is modified. -/
theorem slot?_setPool_modify {f : Slot → Slot} (hp : a.pools[i]? = some p)
    (hq : q.slots = p.slots.modify slot f) (place : Nat × Nat) :
    (a.setPool i q).slot? place =
      if place = (i, slot) then (a.slot? place).map f else a.slot? place := by
  obtain ⟨j, k⟩ := place
  rw [slot?, pool_setPool hp]
  by_cases hj : j = i
  · subst hj
    rw [if_pos rfl, Option.bind_some, hq, List.getElem?_modify, slot?_of_pool hp]
    by_cases hk : k = slot
    · simp [hk]
    · simp [hk, Ne.symm hk]
  · rw [if_neg hj, if_neg fun he ↦ hj (Prod.mk.inj he).1]
    rfl

theorem slot?_declared (itemCount itemSize : Nat) (place : Nat × Nat) :
    (a.declared itemCount itemSize).slot? place =
      if place.1 = a.pools.size then
        (SizeClass.create (min itemCount itemLimit) itemSize).slots[place.2]?
      else a.slot? place := by
  rw [slot?, pool_declared]
  split
  · rfl
  · rfl

/-! ## Stores that describe an allocator -/

/-- Every slot holds what the store says. -/
def Describes (a : Allocator) (c : Store) : Prop :=
  ∀ place s, a.slot? place = some s → s.Holds (c place)

namespace Describes

theorem create (context : UInt64) (n : Nat) : (create context n).Describes .blank := by
  intro place s hs
  cases hs

/-- One slot is modified, and its item is put into the store. -/
theorem modify {f : Slot → Slot} {x : Item} (hc : a.Describes c) (hp : a.pools[i]? = some p)
    (hq : q.slots = p.slots.modify slot f)
    (hx : ∀ s, a.slot? (i, slot) = some s → (f s).Holds x) :
    (a.setPool i q).Describes (Function.update c (i, slot) x) := by
  intro place s hs
  rw [slot?_setPool_modify hp hq] at hs
  split at hs
  · next hplace =>
    subst hplace
    obtain ⟨u, hu, rfl⟩ := Option.map_eq_some_iff.mp hs
    rw [Function.update_self]
    exact hx u hu
  · next hplace =>
    rw [Function.update_of_ne hplace]
    exact hc place s hs

/-- A pool may be replaced by one with the same slots. -/
theorem setPool (hc : a.Describes c) (hp : a.pools[i]? = some p) (hq : q.slots = p.slots) :
    (a.setPool i q).Describes c := by
  intro place s hs
  apply hc
  rw [slot?, pool_setPool hp] at hs
  split at hs
  · next hi =>
    rw [slot?, hi, hp]
    rwa [Option.bind_some, hq] at hs
  · exact hs

end Describes

/-! ## One operation -/

theorem describes_addPool (hc : a.Describes c) (itemCount itemSize : Nat) :
    (a.addPool itemCount itemSize).2.Describes
      (c.after (.addPool itemCount itemSize)
        (.ofDeclaration (a.addPool itemCount itemSize).1)) := by
  rcases addPool_cases a itemCount itemSize with ⟨f, hf⟩ | ⟨-, he⟩
  · rw [hf, Store.after_failure]
    exact hc
  · rw [he]
    intro place s hs
    rw [slot?_declared] at hs
    change s.Holds (if place.1 = a.pools.size then _ else _)
    split at hs
    · next hi =>
      rw [if_pos hi]
      obtain ⟨-, rfl⟩ := List.mem_replicate.mp (List.mem_of_getElem? hs)
      exact ⟨rfl, fun _ ↦ rfl⟩
    · next hi =>
      rw [if_neg hi]
      exact hc place s hs

/-- A new item has the bytes of its slot and the tags of the request. -/
theorem describes_allocate (wf : a.WellFormed) (hc : a.Describes c) {size : Nat} {tags : Tags}
    {r : Except PoolError ItemHandle} (h : a.allocate size tags = (r, b)) :
    b.Describes (c.after (.allocate size tags) (.ofResult .item r)) := by
  cases request_of_allocate wf h with
  | noFit => exact hc
  | refused hi hp hpop => exact hc.setPool hp (SizeClass.slots_of_pop_none hpop)
  | served hi hp hpop =>
    have htake := SizeClass.takes_of_pop (wf.pool _ _ hp) hpop
    simp only [PoolAnswer.ofResult, Store.after, wf.place_mk hp htake.lt_capacity]
    refine hc.modify hp (SizeClass.slots_of_pop hpop) fun s hs ↦ ?_
    exact ⟨(hc _ s hs).bytes, fun _ ↦ rfl⟩

/-- A change of the bytes of an item, each on its own. -/
theorem describes_setBytes (hc : a.Describes c) (hv : a.validate h = .ok (p, s))
    {bytes : List UInt8} {change : Nat → UInt8 → UInt8} (hb : bytes = s.bytes.mapIdx change) :
    (a.setPool h.pool.toNat (p.setBytes h.slot.toNat bytes)).Describes
      (Function.update c h.place ((c h.place).edit change)) := by
  obtain ⟨hs, -⟩ := slot?_of_validate hv
  refine hc.modify (validate_eq_ok_iff.mp hv).1 rfl fun u hu ↦ ?_
  obtain rfl : s = u := Option.some.inj (hs.symm.trans hu)
  refine ⟨?_, (hc _ s hs).tags⟩
  rw [hb, (hc _ s hs).bytes]
  rfl

theorem describes_update (hc : a.Describes c) {change : Nat → UInt8 → UInt8}
    (hb : a.update h change = .ok b) :
    b.Describes (Function.update c h.place ((c h.place).edit change)) := by
  obtain ⟨p, s, hv, rfl⟩ := update_eq_ok hb
  exact describes_setBytes hc hv rfl

theorem describes_write (hc : a.Describes c) {offset : Nat} {bytes : List UInt8}
    (hb : a.write h offset bytes = .ok b) :
    b.Describes (Function.update c h.place ((c h.place).edit (putting offset bytes))) := by
  obtain ⟨p, s, hv, hfit, rfl⟩ := write_eq_ok hb
  exact describes_setBytes hc hv (overwrite_eq_mapIdx hfit)

theorem describes_setInfo (hc : a.Describes c) {index : Nat} {value : UInt16}
    (hb : a.setInfo h index value = .ok b) :
    b.Describes (Function.update c h.place ((c h.place).setTag index value)) := by
  obtain ⟨-, p, s, hv, rfl⟩ := setInfo_eq_ok hb
  obtain ⟨hs, ha⟩ := slot?_of_validate hv
  refine hc.modify (validate_eq_ok_iff.mp hv).1 rfl fun u hu ↦ ?_
  obtain rfl : s = u := Option.some.inj (hs.symm.trans hu)
  refine ⟨(hc _ s hs).bytes, fun _ ↦ ?_⟩
  rw [Item.setTag, ← (hc _ s hs).tags ha]

/-- Freeing changes a tag, but of a slot whose tags do not count any more. -/
theorem describes_free (hc : a.Describes c) {releaseTag : UInt16}
    (hb : a.free h releaseTag = .ok b) : b.Describes c := by
  obtain ⟨p, s, hv, rfl⟩ := free_eq_ok hb
  -- The store does not change, which is to put back what it says of this slot.
  rw [← Function.update_eq_self h.place c]
  refine hc.modify (validate_eq_ok_iff.mp hv).1 rfl fun u hu ↦ ?_
  exact ⟨(hc _ u hu).bytes, fun hfree ↦ nomatch hfree⟩

/-- Live items of one pool have equally many bytes. -/
theorem WellFormed.length_bytes_of_validate (wf : a.WellFormed) (hv : a.validate h = .ok (p, s)) :
    s.bytes.length = p.itemSize := by
  obtain ⟨hp, -, hs⟩ := validate_eq_ok_iff.mp hv
  exact (wf.pool _ p hp).length_bytes s
    (List.mem_of_getElem? (SizeClass.check_eq_ok_iff.mp hs).1)

/-- Serving a request keeps the item sizes. -/
theorem sizeAt_of_allocate (wf : a.WellFormed) {size : Nat} {tags : Tags}
    (h : a.allocate size tags = (.ok g, b)) : b.sizeAt = a.sizeAt := by
  cases request_of_allocate wf h with
  | served hi hp hpop =>
    exact sizeAt_setPool hp (SizeClass.takes_of_pop (wf.pool _ _ hp) hpop).itemSize

/-- Filling in each byte of a vector gives any vector of its length. -/
theorem mapIdx_getD {old new : List UInt8} (h : old.length = new.length) :
    old.mapIdx (fun k _ ↦ new[k]?.getD 0) = new := by
  apply List.ext_getElem
  · rw [List.length_mapIdx, h]
  · intro k hk hk'
    rw [List.getElem_mapIdx, List.getElem?_eq_getElem hk', Option.getD_some]

/-- A copy holds what its original held. -/
theorem describes_duplicate (wf : a.WellFormed) (hc : a.Describes c)
    {r : Except PoolError ItemHandle} (hd : a.duplicate h = (r, b)) :
    b.Describes (c.after (.duplicate h) (.ofResult .item r)) := by
  cases duplication_of_duplicate wf hd with
  | invalid hv => exact hc
  | refused hv ha =>
    have := describes_allocate wf hc ha
    rwa [PoolAnswer.ofResult, Store.after_refused] at this ⊢
  | @copied p s g b₁ _ hv ha hu =>
    have hgain := (gains_of_allocate wf ha).1
    obtain ⟨hs, hlive⟩ := slot?_of_validate hv
    obtain ⟨hbytes, htags⟩ := hc _ s hs
    have hnew := describes_allocate wf hc ha
    simp only [PoolAnswer.ofResult, Store.after] at hnew ⊢
    -- The copy is as large as the original, because it comes from the same pool.
    have hlen : (c g.place).bytes.length = s.bytes.length := by
      obtain ⟨q, u, hvq, -⟩ := update_eq_ok hu
      have hu' := (hnew _ u (slot?_of_validate hvq).1).bytes
      rw [Function.update_self] at hu'
      have hpool := congrArg UInt16.toNat (pool_of_allocate wf hv ha)
      rw [← hu', hgain.wellFormed.length_bytes_of_validate hvq, wf.length_bytes_of_validate hv,
        ← sizeAt_of_pool (validate_eq_ok_iff.mp hvq).1, sizeAt_of_allocate wf ha, hpool,
        sizeAt_of_pool (validate_eq_ok_iff.mp hv).1]
    have hcopy := describes_update hnew hu
    rw [Function.update_idem, Function.update_self, Item.edit] at hcopy
    dsimp only at hcopy
    rw [mapIdx_getD hlen, hbytes, htags hlive] at hcopy
    exact hcopy

theorem describes_change (hc : a.Describes c) {op : PoolOperation} {r : Except PoolError Allocator}
    (hok : ∀ b, r = .ok b → b.Describes (c.after op .done)) :
    (a.change r).2.Describes (c.after op (a.change r).1) := by
  cases r with
  | error e =>
    rw [change, Store.after_refused]
    exact hc
  | ok b => exact hok b rfl

/-- **A store that describes an allocator is moved along by every operation.** -/
theorem Describes.perform (hc : a.Describes c) (wf : a.WellFormed) (op : PoolOperation) :
    (a.perform op).2.Describes (c.after op (a.perform op).1) := by
  cases op with
  | addPool itemCount itemSize => exact describes_addPool hc itemCount itemSize
  | allocate size tags => exact describes_allocate wf hc rfl
  | duplicate h => exact describes_duplicate wf hc rfl
  | free h releaseTag => exact describes_change hc fun b hb ↦ describes_free hc hb
  | setInfo h index value => exact describes_change hc fun b hb ↦ describes_setInfo hc hb
  | write h offset bytes => exact describes_change hc fun b hb ↦ describes_write hc hb
  | update h change => exact describes_change hc fun b hb ↦ describes_update hc hb
  | info h | itemSize h | read h => exact hc

/-! ## Runs -/

/-- The operations of a run with the answers to them. -/
def log (a : Allocator) : List PoolOperation → List (PoolOperation × PoolAnswer)
  | [] => []
  | op :: ops => (op, (a.perform op).1) :: log (a.perform op).2 ops

/-- What the slots hold after a run, by its log alone. -/
def account (a : Allocator) (ops : List PoolOperation) : Store := Store.blank.replay (a.log ops)

theorem Describes.run (hc : a.Describes c) (wf : a.WellFormed) (ops : List PoolOperation) :
    (a.run ops).Describes (c.replay (a.log ops)) := by
  induction ops generalizing a c with
  | nil => exact hc
  | cons op ops ih => exact ih (hc.perform wf op) ((effect wf op).wellFormed wf)

/-! ## Questions -/

theorem Describes.read (hc : a.Describes c) (hl : a.Live h) :
    a.read h = .ok (c h.place).bytes := by
  obtain ⟨p, s, hv⟩ := hl
  rw [Allocator.read, hv, ← (hc _ s (slot?_of_validate hv).1).bytes]
  rfl

theorem Describes.info (hc : a.Describes c) (hl : a.Live h) :
    a.info h = .ok (c h.place).tags := by
  obtain ⟨p, s, hv⟩ := hl
  obtain ⟨hs, ha⟩ := slot?_of_validate hv
  rw [Allocator.info, hv, ← (hc _ s hs).tags ha]
  rfl

theorem Describes.itemSize (hc : a.Describes c) (wf : a.WellFormed) (hl : a.Live h) :
    a.itemSize h = .ok (c h.place).bytes.length := by
  obtain ⟨p, s, hv⟩ := hl
  rw [Allocator.itemSize, hv, ← (hc _ s (slot?_of_validate hv).1).bytes,
    wf.length_bytes_of_validate hv]
  rfl

/-! ## What stays as it is -/

/-- A pool that is declared is none that an item lives in. -/
theorem Live.pool_lt (hl : a.Live h) : h.place.1 < a.pools.size := by
  obtain ⟨p, s, hv⟩ := hl
  exact (Array.getElem?_eq_some_iff.mp (validate_eq_ok_iff.mp hv).1).1

/-- A slot that is handed out anew is none that an item lives in. -/
theorem Gains.place_ne (k : Gains a b g) (hl : a.Live h) : h.place ≠ g.place := by
  intro hp
  have := hl.isAllocated
  rw [hp, k.unused] at this
  cases this

/-- An edit of one live item leaves the others alone. -/
theorem apply_of_change {op : PoolOperation} {r : Except PoolError Allocator} {x : Item}
    (hop : c.after op .done = Function.update c g.place x) (hg : ∀ b, r = .ok b → a.Live g)
    (hl : a.Live h) (hnot : g = h → ∃ e, (a.change r).1 = .refused e) :
    c.after op (a.change r).1 h.place = c h.place := by
  cases r with
  | error e => rw [change, Store.after_refused]
  | ok b =>
    rw [change, hop, Function.update_of_ne]
    intro hp
    obtain ⟨e, he⟩ := hnot ((hg b rfl).eq_of_place hl hp.symm)
    cases he

/-- **What is stored of a live item changes only by an edit of this item that succeeds.** -/
theorem after_apply_of_live (wf : a.WellFormed) (c : Store) (hl : a.Live h) {op : PoolOperation}
    (hnot : op.edits? = some h → ∃ e, (a.perform op).1 = .refused e) :
    c.after op (a.perform op).1 h.place = c h.place := by
  cases op with
  | addPool itemCount itemSize =>
    rcases addPool_cases a itemCount itemSize with ⟨f, hf⟩ | ⟨-, he⟩
    · rw [perform, hf, Store.after_failure]
    · rw [perform, he]
      exact if_neg (Nat.ne_of_lt hl.pool_lt)
  | allocate size tags =>
    rcases ha : a.allocate size tags with ⟨e | g, b⟩
    · rw [perform, ha]
      rfl
    · rw [perform, ha]
      exact Function.update_of_ne ((gains_of_allocate wf ha).1.place_ne hl) _ _
  | duplicate o =>
    rcases hd : a.duplicate o with ⟨e | g, b⟩
    · rw [perform, hd]
      rfl
    · rw [perform, hd]
      exact Function.update_of_ne ((gains_of_duplicate wf hd).2.1.place_ne hl) _ _
  | setInfo g index value =>
    refine apply_of_change (g := g) rfl (fun b hb ↦ ?_) hl fun hgh ↦ hnot (congrArg some hgh)
    obtain ⟨-, p, s, hv, -⟩ := setInfo_eq_ok hb
    exact ⟨p, s, hv⟩
  | write g offset bytes =>
    refine apply_of_change (g := g) rfl (fun b hb ↦ ?_) hl fun hgh ↦ hnot (congrArg some hgh)
    obtain ⟨p, s, hv, -⟩ := write_eq_ok hb
    exact ⟨p, s, hv⟩
  | update g change =>
    refine apply_of_change (g := g) rfl (fun b hb ↦ ?_) hl fun hgh ↦ hnot (congrArg some hgh)
    obtain ⟨p, s, hv, -⟩ := update_eq_ok hb
    exact ⟨p, s, hv⟩
  | free g releaseTag => cases hf : a.free g releaseTag <;> rw [perform, hf] <;> rfl
  | info g | itemSize g | read g => rfl

/-! ## The law -/

/-- A write to a live item is judged by where it ends, and by nothing else. -/
theorem perform_write (wf : a.WellFormed) (hl : a.Live h) {size : Nat}
    (hs : a.itemSize h = .ok size) (offset : Nat) (bytes : List UInt8) :
    (a.perform (.write h offset bytes)).1 =
      if offset + bytes.length ≤ size then .done
      else .refused (.outOfBounds offset bytes.length size) := by
  obtain ⟨p, s, hv⟩ := hl
  have hlen := wf.length_bytes_of_validate hv
  obtain rfl : p.itemSize = size := by
    rw [itemSize, hv] at hs
    exact Except.ok.inj hs
  rw [perform, write, hv, ← hlen]
  by_cases hfit : offset + bytes.length ≤ s.bytes.length
  · simp [bind, Except.bind, pure, Except.pure, change, hfit, Nat.not_lt.mpr hfit]
  · simp [bind, Except.bind, change, hfit, Nat.not_le.mp hfit, throw, throwThe, MonadExceptOf.throw]

/-- What a run means for the contents of items. -/
structure ItemLaw (a : Allocator) (ops : List PoolOperation) : Prop where
  /-- What is read from a live item is what the log of the run says. -/
  read : ∀ h, (a.run ops).Live h → (a.run ops).read h = .ok (a.account ops h.place).bytes
  info : ∀ h, (a.run ops).Live h → (a.run ops).info h = .ok (a.account ops h.place).tags
  size : ∀ h, (a.run ops).Live h →
    (a.run ops).itemSize h = .ok (a.account ops h.place).bytes.length
  /-- An operation that does not edit an item, or fails to, leaves it as it was. -/
  unchanged : ∀ op h, (a.run ops).Live h → ((a.run ops).perform op).2.Live h →
    (op.edits? = some h → ∃ e, ((a.run ops).perform op).1 = .refused e) →
    ((a.run ops).perform op).2.read h = (a.run ops).read h ∧
      ((a.run ops).perform op).2.info h = (a.run ops).info h
  /-- A write succeeds exactly if it ends within the item. -/
  bounds : ∀ h size, (a.run ops).Live h → (a.run ops).itemSize h = .ok size →
    ∀ offset bytes, ((a.run ops).perform (.write h offset bytes)).1 =
      if offset + bytes.length ≤ size then .done
      else .refused (.outOfBounds offset bytes.length size)
  /-- Whatever becomes of a live item at once, becomes of it by changing each byte on its own. -/
  rewritten : ∀ h (new : List UInt8), (a.run ops).Live h → (a.run ops).itemSize h = .ok new.length →
    ∃ change b, (a.run ops).perform (.update h change) = (.done, b) ∧ b.read h = .ok new

/-- **The law of items.** Over any run of an allocator, every live item holds what a replay of the
log on a store of byte vectors says, and its neighbours cannot touch it. -/
theorem item_law (context : UInt64) (n : Nat) (ops : List PoolOperation) :
    ItemLaw (create context n) ops := by
  have wf := (wellFormed_create context n).run ops
  have hc := (Describes.create context n).run (wellFormed_create context n) ops
  refine ⟨fun h ↦ hc.read, fun h ↦ hc.info, fun h ↦ hc.itemSize wf, ?_, ?_, ?_⟩
  · intro op h hl hl' hnot
    have hc' := hc.perform wf op
    have hsame := after_apply_of_live wf (Store.blank.replay ((create context n).log ops)) hl hnot
    rw [hc'.read hl', hc'.info hl', hsame]
    exact ⟨(hc.read hl).symm, (hc.info hl).symm⟩
  · intro h size hl hs
    exact perform_write wf hl hs
  · intro h new hl hs
    have hlen : (Store.blank.replay ((create context n).log ops) h.place).bytes.length
        = new.length := Except.ok.inj ((hc.itemSize wf hl).symm.trans hs)
    obtain ⟨b, hb⟩ := (exists_update_iff fun k _ ↦ new[k]?.getD 0).mpr hl
    have hl' := ((keeps_of_update wf hb).live_iff h).mpr hl
    refine ⟨fun k _ ↦ new[k]?.getD 0, b, by rw [perform, hb]; rfl, ?_⟩
    rw [(describes_update hc hb).read hl', Function.update_self, Item.edit]
    exact congrArg Except.ok (mapIdx_getD hlen)

/-- A slot that is written to, freed, and handed out again. -/
def dirtySlot : List PoolOperation :=
  [.addPool 1 4, .allocate 3 ⟨1, 2⟩, .write ⟨7, 0, 0, 1⟩ 1 [5, 6], .write ⟨7, 0, 0, 1⟩ 3 [7, 8],
    .free ⟨7, 0, 0, 1⟩ 9, .allocate 2 ⟨3, 4⟩, .setInfo ⟨7, 0, 0, 2⟩ 1 10]

/-- The bytes survive in the slot and the tags do not. -/
example : (create 7 1).account dirtySlot (0, 0) = ⟨[0, 5, 6, 0], ⟨3, 10⟩⟩ := by decide

end Allocator

end TaskMessaging
