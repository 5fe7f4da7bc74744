import TaskMessaging.Proofs.Pool.Effect

/-!
# Runs of an allocator

Everything that can be asked of an allocator is one of a few operations, and `perform` answers it. A
*run* is any number of them in any order, with any arguments, whether they succeed or not.

## Events

An operation does one of four things to the pools: it hands out an item, takes one back, is refused
by a pool without a free item, or does nothing that the bookkeeping has to know of. Which one it was
is its *event*, and that can be read off the operation and its answer without looking into a pool.
`Effect` says what an event means for the pools, and everything about runs is proved from it by
induction on the operations.
-/

namespace TaskMessaging

/-! ## Counters -/

/-- What a pool counts. -/
structure Counters where
  inUse : Nat
  highWater : Nat
  allocations : UInt64
  exhausted : UInt64
deriving DecidableEq

namespace Counters

def zero : Counters := ⟨0, 0, 0, 0⟩

/-- The counters after an item was handed out. -/
def take (c : Counters) : Counters :=
  ⟨c.inUse + 1, max c.highWater (c.inUse + 1), c.allocations + 1, c.exhausted⟩

/-- The counters after an item was taken back. -/
def giveBack (c : Counters) : Counters := { c with inUse := c.inUse - 1 }

/-- The counters after a request was refused. -/
def refuse (c : Counters) : Counters := { c with exhausted := c.exhausted + 1 }

end Counters

namespace SizeClass

variable {p q : SizeClass} {slot : Nat} {generation : UInt32} {tags : Tags}

/-- The counters of a pool. -/
def counters (p : SizeClass) : Counters := ⟨p.inUse, p.highWater, p.allocations, p.exhausted⟩

theorem counters_setBytes (p : SizeClass) (slot : Nat) (bytes : List UInt8) :
    (p.setBytes slot bytes).counters = p.counters := rfl

theorem counters_setTags (p : SizeClass) (slot : Nat) (tags : Tags) :
    (p.setTags slot tags).counters = p.counters := rfl

theorem counters_push (p : SizeClass) (slot : Nat) (releaseTag : UInt16) :
    (p.push slot releaseTag).counters = p.counters.giveBack := rfl

theorem counters_of_pop_none (h : p.pop tags = (none, q)) : q.counters = p.counters.refuse := by
  rw [pop] at h
  cases hf : p.free with
  | nil =>
    rw [hf] at h
    obtain rfl := (Prod.mk.inj h).2
    rfl
  | cons top rest => simp [hf] at h

/-- An item is handed out in the generation that follows the last one of its slot. -/
theorem usage_of_pop (wf : p.WellFormed) (h : p.pop tags = (some (slot, generation), q)) :
    q.counters = p.counters.take ∧
      ∃ last, p.usage slot = some (last, false) ∧ generation = last + 1 := by
  rw [pop] at h
  cases hf : p.free with
  | nil => simp [hf] at h
  | cons top rest =>
    simp only [hf, Prod.mk.injEq, Option.some.injEq] at h
    obtain ⟨⟨rfl, hg⟩, rfl⟩ := h
    obtain ⟨hlt, hunused⟩ := (wf.mem_free top).mp (hf ▸ List.mem_cons_self)
    have hs : p.slots[top]? = some p.slots[top] := List.getElem?_eq_getElem hlt
    refine ⟨rfl, p.slots[top].generation, ?_, ?_⟩
    · rw [isAllocated, hs] at hunused
      rw [usage, hs]
      exact congrArg some (Prod.ext rfl hunused)
    · rw [List.getElem?_modify_eq, hs] at hg
      exact hg.symm

end SizeClass

namespace Allocator

variable {a b : Allocator} {g h : ItemHandle} {p q : SizeClass} {i j size : Nat} {tags : Tags}
  {e : PoolError}

/-- The counters of a pool, zero where there is no pool. -/
def counters (a : Allocator) (i : Nat) : Counters := (a.pools[i]?.map (·.counters)).getD .zero

theorem counters_of_pool (hp : a.pools[i]? = some p) : a.counters i = p.counters := by
  rw [counters, hp]
  rfl

theorem inUse_counters (a : Allocator) (i : Nat) : (a.counters i).inUse = a.inUse i := by
  rw [counters, inUse]
  cases a.pools[i]? with
  | none => rfl
  | some p => rfl

/-- A pool that is replaced by one with other counters changes its own alone. -/
theorem counters_setPool (hp : a.pools[i]? = some p) {f : Counters → Counters}
    (hq : q.counters = f p.counters) (j : Nat) :
    (a.setPool i q).counters j = if j = i then f (a.counters j) else a.counters j := by
  by_cases hj : j = i
  · rw [if_pos hj, hj, counters_of_pool hp, ← hq, counters, pool_setPool hp, if_pos rfl]
    rfl
  · rw [if_neg hj, counters, pool_setPool hp, if_neg hj, counters]

theorem counters_setPool_same (hp : a.pools[i]? = some p) (hq : q.counters = p.counters)
    (j : Nat) : (a.setPool i q).counters j = a.counters j := by
  rw [counters_setPool hp (f := id) hq, id, ite_self]

/-- A new pool has counted nothing. -/
theorem counters_declared (itemCount itemSize i : Nat) :
    (a.declared itemCount itemSize).counters i = a.counters i := by
  rw [counters, pool_declared]
  split
  · next hi =>
    rw [counters, hi, Array.getElem?_eq_none (Nat.le_refl _)]
    rfl
  · rfl

end Allocator

/-! ## Operations -/

/-- Something that is asked of an allocator. -/
inductive PoolOperation where
  | addPool (itemCount itemSize : Nat)
  | allocate (size : Nat) (tags : Tags)
  | duplicate (h : ItemHandle)
  | free (h : ItemHandle) (releaseTag : UInt16)
  | setInfo (h : ItemHandle) (index : Nat) (value : UInt16)
  | write (h : ItemHandle) (offset : Nat) (bytes : List UInt8)
  | update (h : ItemHandle) (change : Nat → UInt8 → UInt8)
  | info (h : ItemHandle)
  | itemSize (h : ItemHandle)
  | read (h : ItemHandle)

/-- What is told about an operation. -/
inductive PoolAnswer where
  | done
  | pool (index : Nat)
  | item (h : ItemHandle)
  | tags (t : Tags)
  | size (bytes : Nat)
  | content (bytes : List UInt8)
  | refused (e : PoolError)
  /-- Nothing is told, the thread panicked. -/
  | panicked
deriving DecidableEq

namespace PoolAnswer

/-- The answer to an operation that may be refused. -/
def ofResult {α : Type} (f : α → PoolAnswer) : Except PoolError α → PoolAnswer
  | .ok x => f x
  | .error e => .refused e

/-- The answer to a declaration. -/
def ofDeclaration : Except (DeclareFailure PoolError) Nat → PoolAnswer
  | .ok i => .pool i
  | .error (.refused e) => .refused e
  | .error .panicked => .panicked

/-- Why an operation was refused, if it was. -/
def refusal? : PoolAnswer → Option PoolError
  | .refused e => some e
  | _ => none

end PoolAnswer

namespace Allocator

/-- The answer to a change that may be refused, and the allocator behind it. -/
def change (a : Allocator) : Except PoolError Allocator → PoolAnswer × Allocator
  | .ok b => (.done, b)
  | .error e => (.refused e, a)

/-- Performs an operation. -/
def perform (a : Allocator) : PoolOperation → PoolAnswer × Allocator
  | .addPool itemCount itemSize =>
    (.ofDeclaration (a.addPool itemCount itemSize).1, (a.addPool itemCount itemSize).2)
  | .allocate size tags => (.ofResult .item (a.allocate size tags).1, (a.allocate size tags).2)
  | .duplicate h => (.ofResult .item (a.duplicate h).1, (a.duplicate h).2)
  | .free h releaseTag => a.change (a.free h releaseTag)
  | .setInfo h index value => a.change (a.setInfo h index value)
  | .write h offset bytes => a.change (a.write h offset bytes)
  | .update h f => a.change (a.update h f)
  | .info h => (.ofResult .tags (a.info h), a)
  | .itemSize h => (.ofResult .size (a.itemSize h), a)
  | .read h => (.ofResult .content (a.read h), a)

end Allocator

/-! ## Events -/

/-- What an operation means for the bookkeeping. -/
inductive PoolEvent where
  | taken (h : ItemHandle)
  | returned (h : ItemHandle)
  /-- The pool had no free item. -/
  | refused (pool : Nat)
  | other
deriving DecidableEq

namespace PoolEvent

/-- The event behind a refusal. -/
def ofRefusal : PoolError → PoolEvent
  | .exhausted pool _ _ => .refused pool
  | _ => .other

/-- The event behind an operation and its answer. -/
def of (op : PoolOperation) : PoolAnswer → PoolEvent
  | .item h => .taken h
  | .refused e => ofRefusal e
  | .done =>
    match op with
    | .free h _ => .returned h
    | _ => .other
  | _ => .other

/-- An item of the slot was handed out. -/
def takes (place : Nat × Nat) : PoolEvent → Bool
  | .taken h => h.place = place
  | _ => false

/-- An item of the pool was handed out. -/
def takesFrom (i : Nat) : PoolEvent → Bool
  | .taken h => h.pool.toNat = i
  | _ => false

/-- An item of the pool was taken back. -/
def returnsTo (i : Nat) : PoolEvent → Bool
  | .returned h => h.pool.toNat = i
  | _ => false

/-- The pool had no free item. -/
def refusedBy (i : Nat) : PoolEvent → Bool
  | .refused j => j = i
  | _ => false

end PoolEvent

/-! ## Refusals

Only a request for an item can find a pool empty. Every other refusal is one for good, and leaves no
trace in the counters. -/

namespace PoolError

/-- A result that is not a refusal for want of a free item. -/
def Definite {α : Type} (r : Except PoolError α) : Prop :=
  ∀ e, r = .error e → e.isBackpressure = false

theorem definite_ok {α : Type} (x : α) : Definite (.ok x) := fun _ h ↦ nomatch h

theorem definite_error {α : Type} {e : PoolError} (h : e.isBackpressure = false) :
    Definite (.error e : Except PoolError α) := by
  rintro _ ⟨⟩
  exact h

theorem Definite.bind {α β : Type} {r : Except PoolError α} {f : α → Except PoolError β}
    (hr : Definite r) (hf : ∀ x, Definite (f x)) : Definite (r >>= f) := by
  cases r with
  | error e => exact definite_error (hr e rfl)
  | ok x => exact hf x

end PoolError

theorem PoolEvent.ofRefusal_of_isBackpressure {e : PoolError} (h : e.isBackpressure = false) :
    ofRefusal e = .other := by
  cases e with
  | exhausted pool itemSize capacity => cases h
  | _ => rfl

theorem PoolEvent.of_refused {op : PoolOperation} {e : PoolError} (h : e.isBackpressure = false) :
    of op (.refused e) = .other := ofRefusal_of_isBackpressure h

/-- Nothing happens by an answer that hands out no item, nor by its being refused for good. -/
theorem PoolEvent.of_ofResult {op : PoolOperation} {α : Type} {r : Except PoolError α}
    (hr : PoolError.Definite r) {f : α → PoolAnswer} (hf : ∀ x, of op (f x) = .other) :
    of op (.ofResult f r) = .other := by
  cases r with
  | error e => exact of_refused (hr e rfl)
  | ok x => exact hf x

theorem SizeClass.definite_check (p : SizeClass) (pool slot : Nat) (generation : UInt32) :
    PoolError.Definite (p.check pool slot generation) := by
  rw [check]
  split
  · exact PoolError.definite_error rfl
  · split
    · split
      · exact PoolError.definite_ok _
      · exact PoolError.definite_error rfl
    · exact PoolError.definite_error rfl

namespace Allocator

open PoolError

variable {a b c : Allocator} {g h : ItemHandle} {p q : SizeClass} {i size : Nat} {tags : Tags}
  {e : PoolError}

theorem definite_owner (a : Allocator) (h : ItemHandle) : Definite (a.owner h) := by
  rw [owner]
  split
  · exact definite_error rfl
  · split
    · exact definite_ok _
    · exact definite_error rfl

theorem definite_validate (a : Allocator) (h : ItemHandle) : Definite (a.validate h) :=
  (a.definite_owner h).bind fun p ↦ (p.definite_check _ _ _).bind fun _ ↦ definite_ok _

theorem isBackpressure_of_addPoolError? {itemCount itemSize : Nat}
    (h : a.addPoolError? itemCount itemSize = some e) : e.isBackpressure = false := by
  rw [addPoolError?] at h
  split_ifs at h
  · obtain rfl := Option.some.inj h
    rfl
  · obtain rfl := Option.some.inj h
    rfl

/-- No declaration is an event, whatever comes of it. -/
theorem event_of_declaration (a : Allocator) (itemCount itemSize : Nat) :
    PoolEvent.of (.addPool itemCount itemSize)
      (.ofDeclaration (a.addPool itemCount itemSize).1) = .other := by
  rcases h : a.addPool itemCount itemSize with ⟨r, b⟩
  cases declaration_of_addPool h with
  | refused he => exact PoolEvent.of_refused (isBackpressure_of_addPoolError? he)
  | panicked => rfl
  | declared => rfl

theorem definite_free (a : Allocator) (h : ItemHandle) (releaseTag : UInt16) :
    Definite (a.free h releaseTag) := (a.definite_validate h).bind fun _ ↦ definite_ok _

theorem definite_update (a : Allocator) (h : ItemHandle) (f : Nat → UInt8 → UInt8) :
    Definite (a.update h f) := (a.definite_validate h).bind fun _ ↦ definite_ok _

theorem definite_info (a : Allocator) (h : ItemHandle) : Definite (a.info h) :=
  (a.definite_validate h).bind fun _ ↦ definite_ok _

theorem definite_itemSize (a : Allocator) (h : ItemHandle) : Definite (a.itemSize h) :=
  (a.definite_validate h).bind fun _ ↦ definite_ok _

theorem definite_read (a : Allocator) (h : ItemHandle) : Definite (a.read h) :=
  (a.definite_validate h).bind fun _ ↦ definite_ok _

theorem definite_setInfo (a : Allocator) (h : ItemHandle) (index : Nat) (value : UInt16) :
    Definite (a.setInfo h index value) := by
  refine (a.definite_owner h).bind fun p ↦ ?_
  dsimp only
  split
  · exact definite_error rfl
  · exact (p.definite_check _ _ _).bind fun _ ↦ definite_ok _

theorem definite_write (a : Allocator) (h : ItemHandle) (offset : Nat) (bytes : List UInt8) :
    Definite (a.write h offset bytes) := by
  refine (a.definite_validate h).bind fun x ↦ ?_
  split
  split
  · exact definite_error rfl
  · exact definite_ok _

/-! ## Effects -/

/-- What an event means for the pools. -/
inductive Effect (a : Allocator) : PoolEvent → Allocator → Prop where
  | declares (itemCount itemSize : Nat) : a.pools.size < a.maxPools →
      Effect a .other (a.declared itemCount itemSize)
  | takes {b : Allocator} {h : ItemHandle} {last : UInt32} : Gains a b h →
      a.usage h.place = some (last, false) → h.generation = last + 1 →
      (∀ i, b.counters i = if i = h.pool.toNat then (a.counters i).take else a.counters i) →
      Effect a (.taken h) b
  | returns {b : Allocator} {h : ItemHandle} : Loses a b h →
      (∀ i, b.counters i = if i = h.pool.toNat then (a.counters i).giveBack else a.counters i) →
      Effect a (.returned h) b
  | refuses {b : Allocator} (pool : Nat) : Keeps a b →
      (∀ i, b.counters i = if i = pool then (a.counters i).refuse else a.counters i) →
      Effect a (.refused pool) b
  | keeps {b : Allocator} : Keeps a b → (∀ i, b.counters i = a.counters i) → Effect a .other b

namespace Effect

variable {ev : PoolEvent}

theorem nothing (wf : a.WellFormed) : Effect a .other a := .keeps (.refl wf) fun _ ↦ rfl

theorem of_refusal (wf : a.WellFormed) (he : e.isBackpressure = false) :
    Effect a (.ofRefusal e) a := by
  rw [PoolEvent.ofRefusal_of_isBackpressure he]
  exact nothing wf

/-- What was handed out may be changed before it is told of. -/
theorem takes_trans_keeps (he : Effect a (.taken h) b) (k : Keeps b c)
    (hc : ∀ i, c.counters i = b.counters i) : Effect a (.taken h) c := by
  cases he with
  | takes hgain hlast hnext hcount =>
    exact .takes (hgain.trans_keeps k) hlast hnext fun i ↦ (hc i).trans (hcount i)

theorem wellFormed (wf : a.WellFormed) (he : Effect a ev b) : b.WellFormed := by
  cases he with
  | declares itemCount itemSize hroom => exact wf.declared hroom itemCount itemSize
  | takes k => exact k.wellFormed
  | returns k => exact k.wellFormed
  | refuses pool k => exact k.wellFormed
  | keeps k => exact k.wellFormed

theorem context (he : Effect a ev b) : b.context = a.context := by
  cases he with
  | declares itemCount itemSize hroom => rfl
  | takes k => exact k.context
  | returns k => exact k.context
  | refuses pool k => exact k.context
  | keeps k => exact k.context

end Effect

theorem effect_of_addPool (wf : a.WellFormed) (itemCount itemSize : Nat) :
    Effect a (.of (.addPool itemCount itemSize) (.ofDeclaration (a.addPool itemCount itemSize).1))
      (a.addPool itemCount itemSize).2 := by
  rw [event_of_declaration]
  rcases addPool_cases a itemCount itemSize with ⟨e, he⟩ | ⟨hroom, he⟩
  · rw [he]
    exact .nothing wf
  · rw [he]
    exact .declares itemCount itemSize hroom

theorem effect_of_allocate (wf : a.WellFormed) {r : Except PoolError ItemHandle}
    (h : a.allocate size tags = (r, b)) :
    Effect a (.of (.allocate size tags) (.ofResult .item r)) b := by
  cases request_of_allocate wf h with
  | noFit => exact .nothing wf
  | refused hi hp hpop =>
    exact .refuses _ (keeps_of_allocate_error wf h).1
      (counters_setPool hp (SizeClass.counters_of_pop_none hpop))
  | @served i p q slot generation hi hp hpop =>
    have hwf := wf.pool i p hp
    obtain ⟨hcount, last, hlast, hnext⟩ := SizeClass.usage_of_pop hwf hpop
    have hslot := wf.toNat_slot hp (SizeClass.takes_of_pop hwf hpop).lt_capacity
    have hpool := wf.toNat_pool hp
    refine .takes (gains_of_allocate wf h).1 (?_ : a.usage _ = some (last, false)) hnext ?_
    · rw [usage, ItemHandle.place]
      dsimp only
      rw [hpool, hslot, hp]
      exact hlast
    · dsimp only
      rw [hpool]
      exact counters_setPool hp hcount

theorem counters_of_update {f : Nat → UInt8 → UInt8} (h' : a.update h f = .ok b) (i : Nat) :
    b.counters i = a.counters i := by
  obtain ⟨p, s, hv, rfl⟩ := update_eq_ok h'
  exact counters_setPool_same (validate_eq_ok_iff.mp hv).1 (p.counters_setBytes _ _) i

theorem counters_of_write {offset : Nat} {bytes : List UInt8}
    (h' : a.write h offset bytes = .ok b) (i : Nat) : b.counters i = a.counters i := by
  obtain ⟨p, s, hv, -, rfl⟩ := write_eq_ok h'
  exact counters_setPool_same (validate_eq_ok_iff.mp hv).1 (p.counters_setBytes _ _) i

theorem counters_of_setInfo {index : Nat} {value : UInt16}
    (h' : a.setInfo h index value = .ok b) (i : Nat) : b.counters i = a.counters i := by
  obtain ⟨-, p, s, hv, rfl⟩ := setInfo_eq_ok h'
  exact counters_setPool_same (validate_eq_ok_iff.mp hv).1 (p.counters_setTags _ _) i

theorem effect_of_free (wf : a.WellFormed) {releaseTag : UInt16}
    (h' : a.free h releaseTag = .ok b) : Effect a (.returned h) b := by
  refine .returns (loses_of_free wf h') ?_
  obtain ⟨p, s, hv, rfl⟩ := free_eq_ok h'
  exact counters_setPool (validate_eq_ok_iff.mp hv).1 (p.counters_push _ _)

theorem effect_of_duplicate (wf : a.WellFormed) {r : Except PoolError ItemHandle}
    (h' : a.duplicate h = (r, b)) : Effect a (.of (.duplicate h) (.ofResult .item r)) b := by
  cases duplication_of_duplicate wf h' with
  | invalid hv => exact .of_refusal wf (a.definite_validate h _ hv)
  | refused hv ha => exact effect_of_allocate wf ha
  | copied hv ha hu =>
    exact (effect_of_allocate wf ha).takes_trans_keeps
      (keeps_of_update (gains_of_allocate wf ha).1.wellFormed hu) (counters_of_update hu)

/-- A change that is refused, if at all, for good: it is granted, or nothing is done. -/
theorem event_of_change {R : PoolEvent → Allocator → Prop} {op : PoolOperation}
    {r : Except PoolError Allocator} (hr : Definite r) (hnothing : R .other a)
    (hok : ∀ b, r = .ok b → R (.of op .done) b) : R (.of op (a.change r).1) (a.change r).2 := by
  cases r with
  | error e =>
    rw [change, PoolEvent.of_refused (hr e rfl)]
    exact hnothing
  | ok b => exact hok b rfl

/-- **Every operation has the effect of its event.** -/
theorem effect (wf : a.WellFormed) (op : PoolOperation) :
    Effect a (.of op (a.perform op).1) (a.perform op).2 := by
  have hnothing : Effect a .other a := .nothing wf
  cases op with
  | addPool itemCount itemSize => exact effect_of_addPool wf itemCount itemSize
  | allocate size tags => exact effect_of_allocate wf rfl
  | duplicate h => exact effect_of_duplicate wf rfl
  | free h releaseTag =>
    exact event_of_change (a.definite_free h releaseTag) hnothing fun b hb ↦ effect_of_free wf hb
  | setInfo h index value =>
    exact event_of_change (a.definite_setInfo h index value) hnothing fun b hb ↦
      .keeps (keeps_of_setInfo wf hb) (counters_of_setInfo hb)
  | write h offset bytes =>
    exact event_of_change (a.definite_write h offset bytes) hnothing fun b hb ↦
      .keeps (keeps_of_write wf hb) (counters_of_write hb)
  | update h f =>
    exact event_of_change (a.definite_update h f) hnothing fun b hb ↦
      .keeps (keeps_of_update wf hb) (counters_of_update hb)
  | info h =>
    rw [perform, PoolEvent.of_ofResult (a.definite_info h) fun _ ↦ rfl]
    exact hnothing
  | itemSize h =>
    rw [perform, PoolEvent.of_ofResult (a.definite_itemSize h) fun _ ↦ rfl]
    exact hnothing
  | read h =>
    rw [perform, PoolEvent.of_ofResult (a.definite_read h) fun _ ↦ rfl]
    exact hnothing

/-! ## Runs -/

/-- The allocator after some operations. -/
def run (a : Allocator) (ops : List PoolOperation) : Allocator :=
  ops.foldl (fun a op ↦ (a.perform op).2) a

/-- The events of some operations. -/
def events (a : Allocator) : List PoolOperation → List PoolEvent
  | [] => []
  | op :: ops => .of op (a.perform op).1 :: events (a.perform op).2 ops

theorem run_cons (a : Allocator) (op : PoolOperation) (ops : List PoolOperation) :
    a.run (op :: ops) = (a.perform op).2.run ops := rfl

theorem run_append (a : Allocator) (ops others : List PoolOperation) :
    a.run (ops ++ others) = (a.run ops).run others := List.foldl_append

theorem events_append (a : Allocator) (ops others : List PoolOperation) :
    a.events (ops ++ others) = a.events ops ++ (a.run ops).events others := by
  induction ops generalizing a with
  | nil => rfl
  | cons op ops ih =>
    rw [List.cons_append, events, events, ih, run_cons, List.cons_append]

theorem length_events (a : Allocator) (ops : List PoolOperation) :
    (a.events ops).length = ops.length := by
  induction ops generalizing a with
  | nil => rfl
  | cons op ops ih => rw [events, List.length_cons, ih, List.length_cons]

theorem WellFormed.run (wf : a.WellFormed) (ops : List PoolOperation) : (a.run ops).WellFormed := by
  induction ops generalizing a with
  | nil => exact wf
  | cons op ops ih => exact ih ((effect wf op).wellFormed wf)

theorem context_run (wf : a.WellFormed) (ops : List PoolOperation) :
    (a.run ops).context = a.context := by
  induction ops generalizing a with
  | nil => rfl
  | cons op ops ih =>
    have he := effect wf op
    rw [run_cons, ih (he.wellFormed wf), he.context]

theorem events_take (a : Allocator) (ops : List PoolOperation) (k : Nat) :
    a.events (ops.take k) = (a.events ops).take k := by
  induction ops generalizing a k with
  | nil => rw [List.take_nil, events, List.take_nil]
  | cons op ops ih =>
    cases k with
    | zero => rfl
    | succ k => rw [List.take_succ_cons, events, events, List.take_succ_cons, ih]

/-- An event of a run is that of an operation, performed where the ones before it lead to. -/
theorem exists_of_event {ops : List PoolOperation} {k : Nat} {ev : PoolEvent}
    (h : (a.events ops)[k]? = some ev) :
    ∃ op, ops[k]? = some op ∧ .of op ((a.run (ops.take k)).perform op).1 = ev := by
  induction ops generalizing a k with
  | nil => cases h
  | cons op ops ih =>
    cases k with
    | zero => exact ⟨op, rfl, Option.some.inj h⟩
    | succ k => exact ih h

theorem run_take_succ (a : Allocator) {ops : List PoolOperation} {op : PoolOperation} {k : Nat}
    (h : ops[k]? = some op) :
    a.run (ops.take (k + 1)) = ((a.run (ops.take k)).perform op).2 := by
  rw [List.take_add_one, h, run_append]
  rfl

theorem events_drop (a : Allocator) (ops : List PoolOperation) (k : Nat) :
    (a.run (ops.take k)).events (ops.drop k) = (a.events ops).drop k := by
  have hevents := events_append a (ops.take k) (ops.drop k)
  rw [List.take_append_drop, events_take] at hevents
  apply List.append_cancel_left
  exact hevents.symm.trans (List.take_append_drop k (a.events ops)).symm

/-- What happened at one moment of a run, and the run from there on. -/
theorem effect_of_event (wf : a.WellFormed) {ops : List PoolOperation} {k : Nat} {ev : PoolEvent}
    (h : (a.events ops)[k]? = some ev) :
    ∃ b others, Effect (a.run (ops.take k)) ev b ∧ b.run others = a.run ops ∧
      b.events others = (a.events ops).drop (k + 1) ∧
      a.events (ops.take k) = (a.events ops).take k := by
  obtain ⟨op, hop, rfl⟩ := exists_of_event h
  refine ⟨a.run (ops.take (k + 1)), ops.drop (k + 1), ?_, ?_, a.events_drop ops (k + 1),
    a.events_take ops k⟩
  · rw [a.run_take_succ hop]
    exact effect (wf.run _) op
  · rw [← run_append, List.take_append_drop]

end Allocator

end TaskMessaging
