import TaskMessaging.Proofs.Pool.Contents

/-!
# What a handle gives access to

To its holder a handle is worth the bytes and the tags of its item as long as the item is live, and
nothing from then on. `Allocator.item?` is this worth, and an allocator is to its clients the map
from handles to items. An operation changes that map at one handle at most: the one that it hands
out, takes back or edits. Making a copy puts the item of the original under the new handle, freeing
removes an item, and everything else that is accessible stays what it was.
-/

namespace TaskMessaging

/-- The handle whose item an operation may change or take back. -/
def PoolOperation.uses? : PoolOperation → Option ItemHandle
  | .free h _ | .write h .. | .update h _ | .setInfo h .. => some h
  | _ => none

namespace Allocator

variable {a b : Allocator} {g h : ItemHandle} {c : Store} {x : Item} {ev : PoolEvent}
  {op : PoolOperation}

/-- The item behind a handle, while the handle is live. -/
def item? (a : Allocator) (h : ItemHandle) : Option Item :=
  match a.validate h with
  | .ok (_, s) => some ⟨s.bytes, s.tags⟩
  | .error _ => none

/-- The item is what the two questions about a handle answer. -/
theorem item?_eq_some_iff :
    a.item? h = some x ↔ a.read h = .ok x.bytes ∧ a.info h = .ok x.tags := by
  obtain ⟨bytes, tags⟩ := x
  rw [item?, read, info]
  rcases a.validate h with e | ⟨p, s⟩
  · simp [bind, Except.bind]
  · simp [bind, Except.bind, pure, Except.pure]

theorem item?_eq_none_iff : a.item? h = none ↔ ¬ a.Live h := by
  rw [item?, Live]
  rcases a.validate h with e | ⟨p, s⟩
  · simp
  · simp

theorem Live.exists_item? (hl : a.Live h) : ∃ x, a.item? h = some x :=
  Option.ne_none_iff_exists'.mp fun hn ↦ item?_eq_none_iff.mp hn hl

theorem live_of_item? (hx : a.item? h = some x) : a.Live h := by
  by_contra hdead
  rw [item?_eq_none_iff.mpr hdead] at hx
  cases hx

/-! ## The slots as they stand -/

/-- What every slot holds at this moment. -/
def contents (a : Allocator) : Store := fun place ↦
  ((a.slot? place).map fun s ↦ ⟨s.bytes, s.tags⟩).getD (.zero 0)

theorem describes_contents (a : Allocator) : a.Describes a.contents := by
  intro place s hs
  rw [contents, hs]
  exact ⟨rfl, fun _ ↦ rfl⟩

theorem Describes.item? (hc : a.Describes c) (hl : a.Live h) : a.item? h = some (c h.place) :=
  item?_eq_some_iff.mpr ⟨hc.read hl, hc.info hl⟩

/-! ## One operation -/

theorem ofRefusal_ne (e : PoolError) (h : ItemHandle) :
    PoolEvent.ofRefusal e ≠ .taken h ∧ PoolEvent.ofRefusal e ≠ .returned h := by
  cases e <;> exact ⟨nofun, nofun⟩

/-- Items are taken back by being freed. -/
theorem eq_free_of_returned {answer : PoolAnswer} (he : PoolEvent.of op answer = .returned h) :
    ∃ releaseTag, op = .free h releaseTag := by
  cases answer with
  | refused e => exact absurd he (ofRefusal_ne e h).2
  | done =>
    cases op with
    | free g releaseTag =>
      obtain rfl := PoolEvent.returned.inj he
      exact ⟨releaseTag, rfl⟩
    | _ => cases he
  | _ => cases he

/-- A new pool has no live items. -/
theorem live_declared {itemCount itemSize : Nat} :
    (a.declared itemCount itemSize).Live h ↔ a.Live h := by
  have hused : (a.declared itemCount itemSize).usage h.place = some (h.generation, true) ↔
      a.usage h.place = some (h.generation, true) := by
    rw [usage, usage, pool_declared]
    split
    · next hi =>
      -- All slots of the new pool are free, and before there was no pool at this index.
      have hfree := SizeClass.isAllocated_create (i := h.place.2) (min itemCount itemLimit) itemSize
      rw [SizeClass.isAllocated_eq_usage] at hfree
      rw [hi, Array.getElem?_eq_none (Nat.le_refl _), Option.bind_some, Option.bind_none]
      refine iff_of_false (fun hu ↦ ?_) (by rintro ⟨⟩)
      rw [hu] at hfree
      cases hfree
    · exact Iff.rfl
  rw [live_iff, live_iff, hused]
  rfl

/-- **A handle is live if it was just handed out, or was live before and was not just taken
back.** -/
theorem Effect.live_iff (he : Effect a ev b) :
    b.Live h ↔ ev = .taken h ∨ ev ≠ .returned h ∧ a.Live h := by
  cases he with
  | declares itemCount itemSize hroom => simpa using live_declared
  | takes hgain => simp [hgain.live_iff, eq_comm]
  | returns hloss => simp [hloss.live_iff, eq_comm]
  | refuses pool hkeep => simp [hkeep.live_iff]
  | keeps hkeep => simp [hkeep.live_iff]

/-- **What a handle gives access to stays**, unless the handle is the one that the operation hands
out, takes back or edits. -/
theorem item?_perform (wf : a.WellFormed) (op : PoolOperation)
    (ht : PoolEvent.of op (a.perform op).1 ≠ .taken h)
    (hr : PoolEvent.of op (a.perform op).1 ≠ .returned h)
    (hedit : op.edits? = some h → ∃ e, (a.perform op).1 = .refused e) :
    (a.perform op).2.item? h = a.item? h := by
  have hlive := (effect wf op).live_iff (h := h)
  rw [or_iff_right ht, and_iff_right hr] at hlive
  by_cases hl : a.Live h
  · have hc := a.describes_contents
    rw [(hc.perform wf op).item? (hlive.mpr hl), hc.item? hl, after_apply_of_live wf _ hl hedit]
  · rw [item?_eq_none_iff.mpr hl, item?_eq_none_iff.mpr (mt hlive.mp hl)]

/-- A copy gives access to what its original does. -/
theorem item?_duplicate (wf : a.WellFormed) (hd : a.duplicate h = (.ok g, b)) :
    b.item? = Function.update a.item? g (a.item? h) := by
  have hp : a.perform (.duplicate h) = (.item g, b) := by
    rw [perform, hd]
    rfl
  obtain ⟨hl, hgain, -⟩ := gains_of_duplicate wf hd
  funext k
  by_cases hk : k = g
  · have hc := a.describes_contents
    have hb := hc.perform wf (.duplicate h)
    rw [hp] at hb
    rw [hk, Function.update_self, hb.item? ((hgain.live_iff g).mpr (Or.inl rfl)), hc.item? hl,
      Store.after, Function.update_self]
  · have hsame := item?_perform (h := k) wf (.duplicate h)
      (by rw [hp]; exact fun he ↦ hk (PoolEvent.taken.inj he).symm) (by rw [hp]; rintro ⟨⟩)
      (by rintro ⟨⟩)
    rw [hp] at hsame
    rw [Function.update_of_ne hk, hsame]

theorem item?_duplicate_of_error {e : PoolError} (wf : a.WellFormed)
    (hd : a.duplicate h = (.error e, b)) : b.item? = a.item? := by
  have hp : a.perform (.duplicate h) = (.refused e, b) := by
    rw [perform, hd]
    rfl
  funext k
  have hsame := item?_perform (h := k) wf (.duplicate h)
    (by rw [hp]; exact (ofRefusal_ne e k).1)
    (by rw [hp]; exact (ofRefusal_ne e k).2) (by rintro ⟨⟩)
  rwa [hp] at hsame

/-- Freeing puts an end to one item. -/
theorem item?_free {releaseTag : UInt16} (wf : a.WellFormed) (hf : a.free h releaseTag = .ok b) :
    b.item? = Function.update a.item? h none := by
  have hp : a.perform (.free h releaseTag) = (.done, b) := by
    rw [perform, hf]
    rfl
  funext k
  by_cases hk : k = h
  · rw [hk, Function.update_self, item?_eq_none_iff, (loses_of_free wf hf).live_iff]
    exact fun hl ↦ hl.1 rfl
  · have hsame := item?_perform (h := k) wf (.free h releaseTag) (by rw [hp]; rintro ⟨⟩)
      (by rw [hp]; exact fun he ↦ hk (PoolEvent.returned.inj he).symm) (by rintro ⟨⟩)
    rw [hp] at hsame
    rw [Function.update_of_ne hk, hsame]

/-- **A live item stays as it is** under any operation that does not use it. -/
theorem item?_perform_of_uses (wf : a.WellFormed) (hx : a.item? h = some x) (op : PoolOperation)
    (hu : op.uses? ≠ some h) : (a.perform op).2.item? h = some x := by
  have hl := live_of_item? hx
  have he := effect wf op
  rw [← hx]
  refine item?_perform wf op ?_ ?_ fun hedit ↦ absurd ?_ hu
  · -- What is handed out was not live before.
    intro ht
    rw [ht] at he
    cases he with
    | takes hgain => exact hgain.ne_of_live hl rfl
  · intro hr
    obtain ⟨releaseTag, rfl⟩ := eq_free_of_returned hr
    exact hu rfl
  · cases op with
    | write | update | setInfo => exact hedit
    | _ => cases hedit

end Allocator

end TaskMessaging
