import TaskMessaging.Proofs.Pool.Copy

/-!
# Operations on different pools

Every operation on items *concerns* one pool at most: the pool that its handle names, or the one
that fits a request best. It looks into no other pool and replaces no other pool. So a lock for each
pool is all that operations need, and those that concern different pools may be done in any order.

## What has to be shown

That an operation replaces its own pool alone is `rewrites_perform`. That it looks at no other one
is `perform_setPool`: whether a foreign pool is replaced in front of the operation or behind it
makes no difference. The two together let operations change places.

All of this is plain for an operation that goes straight to the pool of its handle. A copy is asked
for by size, though, and concerns one pool for the reason alone that live items lie in pools which
requests for their own size are served from.
-/

namespace TaskMessaging

/-- Two steps that may be done in either order: each gives the same result before and behind the
other, and in the end everything is the same. -/
structure Commutes {σ α β : Type} (f : σ → α × σ) (g : σ → β × σ) (same : σ → σ → Prop) (s : σ) :
    Prop where
  first : (f (g s).2).1 = (f s).1
  second : (g (f s).2).1 = (g s).1
  state : same (g (f s).2).2 (f (g s).2).2

/-- The operation declares a pool. -/
def PoolOperation.declares : PoolOperation → Bool
  | .addPool .. => true
  | _ => false

namespace Allocator

variable {a b : Allocator} {g h : ItemHandle} {p q : SizeClass} {i j size : Nat} {tags : Tags}

/-- The pools that an operation has to do with: all of them if it declares one, none if it is a
request that no pool fits, and otherwise one. -/
def Concerns (a : Allocator) : PoolOperation → Nat → Prop
  | .addPool .., _ => True
  | .allocate size _, i => a.bestFit? size = some i
  | .duplicate h, i | .free h _, i | .setInfo h _ _, i | .write h _ _, i | .update h _, i
  | .info h, i | .itemSize h, i | .read h, i => h.pool.toNat = i

/-- The allocator has at most one pool replaced, by another one of the same item size. -/
inductive Rewrites (a : Allocator) (concerns : Nat → Prop) : Allocator → Prop where
  | nothing : Rewrites a concerns a
  | pool {i : Nat} {p q : SizeClass} : concerns i → a.pools[i]? = some p →
      q.itemSize = p.itemSize → Rewrites a concerns (a.setPool i q)

theorem setPool_comm (a : Allocator) (hij : i ≠ j) (p q : SizeClass) :
    (a.setPool i p).setPool j q = (a.setPool j q).setPool i p := by
  rw [setPool, setPool, setPool, setPool]
  exact congrArg (Allocator.mk a.context a.maxPools · a.bySize) (Array.setIfInBounds_comm _ _ hij)

/-! ## Operations through a handle -/

/-- A change of the pool that a handle names. -/
def onOwner (a : Allocator) (h : ItemHandle) (act : SizeClass → Except PoolError SizeClass) :
    Except PoolError Allocator := do
  let p ← a.owner h
  let q ← act p
  return a.setPool h.pool.toNat q

theorem owner_setPool (a : Allocator) (hj : h.pool.toNat ≠ j) (q : SizeClass) :
    (a.setPool j q).owner h = a.owner h := by
  have hp : (a.setPool j q).pools[h.pool.toNat]? = a.pools[h.pool.toNat]? :=
    Array.getElem?_setIfInBounds_ne (Ne.symm hj)
  rw [owner, owner, hp]
  rfl

theorem validate_setPool (a : Allocator) (hj : h.pool.toNat ≠ j) (q : SizeClass) :
    (a.setPool j q).validate h = a.validate h := by
  rw [validate, validate, owner_setPool a hj]

theorem onOwner_setPool (a : Allocator) (hj : h.pool.toNat ≠ j) (q : SizeClass)
    (act : SizeClass → Except PoolError SizeClass) :
    (a.setPool j q).onOwner h act = (a.onOwner h act).map (·.setPool j q) := by
  rw [onOwner, onOwner, owner_setPool a hj]
  cases a.owner h with
  | error e => rfl
  | ok p =>
    change (act p >>= fun q' ↦ pure ((a.setPool j q).setPool _ q')) =
      (act p >>= fun q' ↦ pure (a.setPool _ q')).map (·.setPool j q)
    cases act p with
    | error e => rfl
    | ok q' => exact congrArg Except.ok (a.setPool_comm (Ne.symm hj) q q')

theorem free_eq_onOwner (a : Allocator) (h : ItemHandle) (releaseTag : UInt16) :
    a.free h releaseTag = a.onOwner h fun p ↦
      (p.check h.pool.toNat h.slot.toNat h.generation).map fun _ ↦
        p.push h.slot.toNat releaseTag := by
  rw [free, validate, onOwner]
  cases a.owner h with
  | error e => rfl
  | ok p =>
    dsimp only [bind, Except.bind]
    cases p.check h.pool.toNat h.slot.toNat h.generation <;> rfl

theorem setInfo_eq_onOwner (a : Allocator) (h : ItemHandle) (index : Nat) (value : UInt16) :
    a.setInfo h index value = a.onOwner h fun p ↦
      if 1 < index then .error (.infoIndex index)
      else (p.check h.pool.toNat h.slot.toNat h.generation).map fun s ↦
        p.setTags h.slot.toNat (if index = 0 then { s.tags with first := value }
          else { s.tags with second := value }) := by
  rw [setInfo, onOwner]
  cases a.owner h with
  | error e => rfl
  | ok p =>
    dsimp only [bind, Except.bind]
    split
    · rfl
    · cases p.check h.pool.toNat h.slot.toNat h.generation <;> rfl

theorem write_eq_onOwner (a : Allocator) (h : ItemHandle) (offset : Nat) (bytes : List UInt8) :
    a.write h offset bytes = a.onOwner h fun p ↦
      (p.check h.pool.toNat h.slot.toNat h.generation).bind fun s ↦
        if s.bytes.length < offset + bytes.length then
          .error (.outOfBounds offset bytes.length s.bytes.length)
        else .ok (p.setBytes h.slot.toNat (overwrite s.bytes offset bytes)) := by
  rw [write, validate, onOwner]
  cases a.owner h with
  | error e => rfl
  | ok p =>
    dsimp only [bind, Except.bind]
    cases p.check h.pool.toNat h.slot.toNat h.generation with
    | error e => rfl
    | ok s =>
      dsimp only [bind, Except.bind, pure, Except.pure]
      split
      · rfl
      · rfl

theorem update_eq_onOwner (a : Allocator) (h : ItemHandle) (change : Nat → UInt8 → UInt8) :
    a.update h change = a.onOwner h fun p ↦
      (p.check h.pool.toNat h.slot.toNat h.generation).map fun s ↦
        p.setBytes h.slot.toNat (s.bytes.mapIdx change) := by
  rw [update, validate, onOwner]
  cases a.owner h with
  | error e => rfl
  | ok p =>
    dsimp only [bind, Except.bind]
    cases p.check h.pool.toNat h.slot.toNat h.generation <;> rfl

theorem copyBytes_setPool (a : Allocator) (hh : h.pool.toNat ≠ j) (hg : g.pool.toNat ≠ j)
    (q : SizeClass) :
    (a.setPool j q).copyBytes h g = (a.copyBytes h g).map (·.setPool j q) := by
  rw [copyBytes, copyBytes, validate_setPool a hh]
  cases a.validate h with
  | error e => rfl
  | ok x =>
    change (a.setPool j q).update g _ = (a.update g _).map (·.setPool j q)
    rw [update_eq_onOwner, update_eq_onOwner, onOwner_setPool a hg]

/-! ## Operations by size -/

theorem largestItemSize_setPool (hp : a.pools[j]? = some p) (hs : q.itemSize = p.itemSize) :
    (a.setPool j q).largestItemSize = a.largestItemSize := by
  rw [largestItemSize, largestItemSize, sizeAt_setPool hp hs]
  rfl

theorem allocate_setPool (hp : a.pools[j]? = some p) (hs : q.itemSize = p.itemSize)
    (hj : a.bestFit? size ≠ some j) :
    (a.setPool j q).allocate size tags =
      ((a.allocate size tags).1, (a.allocate size tags).2.setPool j q) := by
  rw [allocate, allocate, bestFit?_setPool hp hs, largestItemSize_setPool hp hs]
  cases hi : a.bestFit? size with
  | none => rfl
  | some i =>
    have hij : j ≠ i := fun he ↦ hj (he ▸ hi)
    have hpool : (a.setPool j q).pools[i]? = a.pools[i]? := Array.getElem?_setIfInBounds_ne hij
    dsimp only
    rw [hpool]
    cases a.pools[i]? with
    | none => rfl
    | some r =>
      dsimp only
      rcases r.pop tags with ⟨_ | ⟨slot, generation⟩, r'⟩
      · exact Prod.ext rfl (a.setPool_comm hij q r')
      · exact Prod.ext rfl (a.setPool_comm hij q r')

/-- A live item lies in the pool that its copy is asked of. -/
theorem duplicate_setPool (wf : a.WellFormed) (hp : a.pools[j]? = some p)
    (hs : q.itemSize = p.itemSize) (hj : h.pool.toNat ≠ j) :
    (a.setPool j q).duplicate h = ((a.duplicate h).1, (a.duplicate h).2.setPool j q) := by
  have hfit {r : SizeClass} {t : Slot} (hv : a.validate h = .ok (r, t)) :
      a.bestFit? r.itemSize ≠ some j := by
    rw [wf.home_of_live ⟨r, t, hv⟩ (validate_eq_ok_iff.mp hv).1]
    exact fun he ↦ hj (Option.some.inj he)
  rw [duplicate, duplicate, validate_setPool a hj]
  rcases hv : a.validate h with e | ⟨r, t⟩
  · rfl
  · dsimp only
    rw [allocate_setPool hp hs (hfit hv)]
    rcases ha : a.allocate r.itemSize t.tags with ⟨e | g, b⟩
    · rfl
    · have hg : g.pool.toNat ≠ j := by
        rw [pool_of_allocate wf hv ha]
        exact hj
      dsimp only
      rw [copyBytes_setPool b hj hg]
      cases b.copyBytes h g with
      | ok c => rfl
      | error e =>
        dsimp only [Except.map]
        rw [free_eq_onOwner, free_eq_onOwner, onOwner_setPool b hg]
        cases b.onOwner g _ <;> rfl

/-! ## Any operation -/

theorem change_setPool (a : Allocator) (r : Except PoolError Allocator) (j : Nat) (q : SizeClass) :
    (a.setPool j q).change (r.map (·.setPool j q)) =
      ((a.change r).1, (a.change r).2.setPool j q) := by
  cases r <;> rfl

/-- **Foreign pools are not looked at.** It makes no difference whether a pool is replaced in front
of an operation that does not concern it or behind it. -/
theorem perform_setPool (wf : a.WellFormed) (hp : a.pools[j]? = some p)
    (hs : q.itemSize = p.itemSize) {op : PoolOperation} (hj : ¬ a.Concerns op j) :
    (a.setPool j q).perform op = ((a.perform op).1, (a.perform op).2.setPool j q) := by
  cases op with
  | addPool itemCount itemSize => exact absurd trivial hj
  | allocate size tags =>
    rw [perform, allocate_setPool hp hs hj]
    rfl
  | duplicate h =>
    rw [perform, duplicate_setPool wf hp hs hj]
    rfl
  | free h releaseTag =>
    rw [perform, perform, free_eq_onOwner, free_eq_onOwner, onOwner_setPool a hj, change_setPool]
  | setInfo h index value =>
    rw [perform, perform, setInfo_eq_onOwner, setInfo_eq_onOwner, onOwner_setPool a hj,
      change_setPool]
  | write h offset bytes =>
    rw [perform, perform, write_eq_onOwner, write_eq_onOwner, onOwner_setPool a hj, change_setPool]
  | update h f =>
    rw [perform, perform, update_eq_onOwner, update_eq_onOwner, onOwner_setPool a hj,
      change_setPool]
  | info h =>
    rw [perform, perform, info, info, validate_setPool a hj]
  | itemSize h =>
    rw [perform, perform, itemSize, itemSize, validate_setPool a hj]
  | read h =>
    rw [perform, perform, read, read, validate_setPool a hj]

theorem rewrites_change {concerns : Nat → Prop} {r : Except PoolError Allocator}
    (hr : ∀ b, r = .ok b → Rewrites a concerns b) : Rewrites a concerns (a.change r).2 := by
  cases r with
  | error e => exact .nothing
  | ok b => exact hr b rfl

theorem rewrites_allocate (wf : a.WellFormed) {r : Except PoolError ItemHandle}
    (h : a.allocate size tags = (r, b)) : Rewrites a (a.bestFit? size = some ·) b := by
  have hsize {p q : SizeClass} {x : Option (Nat × UInt32)} (hpop : p.pop tags = (x, q)) :
      q.itemSize = p.itemSize := by
    have hkeep := p.itemSize_pop tags
    rw [hpop] at hkeep
    exact hkeep
  cases request_of_allocate wf h with
  | noFit _ => exact .nothing
  | refused hi hp hpop => exact .pool hi hp (hsize hpop)
  | served hi hp hpop => exact .pool hi hp (hsize hpop)

theorem rewrites_duplicate (wf : a.WellFormed) {r : Except PoolError ItemHandle}
    (h' : a.duplicate h = (r, b)) : Rewrites a (h.pool.toNat = ·) b := by
  cases r with
  | ok g =>
    obtain ⟨p, q, hp, rfl, hs, -⟩ := (copied_of_duplicate wf h').changes
    exact .pool rfl hp hs
  | error e =>
    cases duplication_of_duplicate wf h' with
    | invalid _ => exact .nothing
    | refused hv ha =>
      have hown := wf.home_of_live ⟨_, _, hv⟩ (validate_eq_ok_iff.mp hv).1
      cases rewrites_allocate wf ha with
      | nothing => exact .nothing
      | pool hi hp hs => exact .pool (Option.some.inj (hown.symm.trans hi)) hp hs

/-- **No foreign pool is replaced.** -/
theorem rewrites_perform (wf : a.WellFormed) {op : PoolOperation} (hop : op.declares = false) :
    Rewrites a (a.Concerns op) (a.perform op).2 := by
  cases op with
  | addPool itemCount itemSize => cases hop
  | allocate size tags => exact rewrites_allocate wf rfl
  | duplicate h => exact rewrites_duplicate wf rfl
  | free h releaseTag =>
    refine rewrites_change fun b hb ↦ ?_
    obtain ⟨p, s, hv, rfl⟩ := free_eq_ok hb
    exact .pool rfl (validate_eq_ok_iff.mp hv).1 rfl
  | setInfo h index value =>
    refine rewrites_change fun b hb ↦ ?_
    obtain ⟨-, p, s, hv, rfl⟩ := setInfo_eq_ok hb
    exact .pool rfl (validate_eq_ok_iff.mp hv).1 rfl
  | write h offset bytes =>
    refine rewrites_change fun b hb ↦ ?_
    obtain ⟨p, s, hv, -, rfl⟩ := write_eq_ok hb
    exact .pool rfl (validate_eq_ok_iff.mp hv).1 rfl
  | update h f =>
    refine rewrites_change fun b hb ↦ ?_
    obtain ⟨p, s, hv, rfl⟩ := update_eq_ok hb
    exact .pool rfl (validate_eq_ok_iff.mp hv).1 rfl
  | info h => exact .nothing
  | itemSize h => exact .nothing
  | read h => exact .nothing

/-- **Operations that concern different pools may change places.** -/
theorem commutes_perform (wf : a.WellFormed) {op op' : PoolOperation} (hop : op.declares = false)
    (hop' : op'.declares = false) (hne : ∀ i, a.Concerns op i → ¬ a.Concerns op' i) :
    Commutes (·.perform op) (·.perform op') Eq a := by
  have hne' (i : Nat) (hi : a.Concerns op' i) : ¬ a.Concerns op i := fun hi' ↦ hne i hi' hi
  have hfirst := rewrites_perform wf hop
  have hsecond := rewrites_perform wf hop'
  generalize hb : (a.perform op).2 = b at hfirst
  generalize hc : (a.perform op').2 = c at hsecond
  -- Where a pool is replaced, it is moved behind the other operation.
  cases hfirst with
  | nothing =>
    cases hsecond with
    | nothing => exact ⟨by rw [hc], by rw [hb], by rw [hb, hc, hb]⟩
    | pool hj hr ht =>
      have hframe := perform_setPool wf hr ht (hne' _ hj)
      exact ⟨by rw [hc, hframe], by rw [hb], by rw [hb, hc, hframe, hb]⟩
  | @pool i p q hi hp hs =>
    have hframe := perform_setPool wf hp hs (hne _ hi)
    cases hsecond with
    | nothing => exact ⟨by rw [hc], by rw [hb, hframe], by rw [hb, hc, hframe, hc, hb]⟩
    | @pool j r t hj hr ht =>
      have hframe' := perform_setPool wf hr ht (hne' _ hj)
      have hij : i ≠ j := fun he ↦ hne i hi (he ▸ hj)
      refine ⟨by rw [hc, hframe'], by rw [hb, hframe], ?_⟩
      rw [hb, hc, hframe, hframe', hb, hc]
      exact a.setPool_comm hij.symm t q

end Allocator

end TaskMessaging
