import TaskMessaging.Proofs.Pool.Generation

/-!
# Validation of handles

A handle may outlive its item: another allocator may have issued it, the item may have been taken
back, and its slot may have been handed out again. `Gone` lists these ways by what happened in a
run, up to `2 ^ 32` uses of the slot, and the allocator tells each of them from the others. Nothing
comes of an operation on such a handle. It is refused, the allocator stays as it was to the last
counter, and the reason is a *violation*, an error that its holder must not survive.

## The exception

There is one exception. The index of a tag is judged after the pool of a handle and before its
slot, so a change of a tag that no item has is refused for the index, whatever became of the item.
That nothing changes holds for it as well; that it is a violation does not.
-/

namespace TaskMessaging

/-- What the holder of a handle is told that is not live. -/
inductive ItemHandle.Violation (h : ItemHandle) : PoolError → Prop where
  | doubleFree : h.Violation (.doubleFree h.pool.toNat h.slot.toNat)
  | foreign : h.Violation (.foreignHandle h.pool.toNat h.slot.toNat)
  | stale : h.Violation (.staleHandle h.pool.toNat h.slot.toNat h.generation)

theorem ItemHandle.Violation.isFatal {h : ItemHandle} {e : PoolError} (hv : h.Violation e) :
    e.isFatal = true := by
  cases hv <;> rfl

namespace PoolOperation

/-- The handle that an operation starts from. -/
def handle? : PoolOperation → Option ItemHandle
  | .free h _ | .setInfo h .. | .info h | .itemSize h | .read h | .write h .. | .update h _
  | .duplicate h => some h
  | .addPool .. | .allocate .. => none

/-- The operation is about a tag that no item has. -/
def strays : PoolOperation → Bool
  | .setInfo _ index _ => decide (1 < index)
  | _ => false

end PoolOperation

namespace Allocator

variable {a : Allocator} {h : ItemHandle} {p : SizeClass} {e : PoolError} {op : PoolOperation}
  {ops : List PoolOperation} {k : Nat}

/-! ## The checks -/

/-- The pool of a handle is looked for by the tag of the allocator and the index of the pool. -/
theorem owner_eq_error_iff :
    a.owner h = .error e ↔ e = .foreignHandle h.pool.toNat h.slot.toNat ∧
      ¬ (h.context = a.context ∧ h.pool.toNat < a.pools.size) := by
  rw [owner]
  by_cases hp : h.pool.toNat < a.pools.size
  · rw [Array.getElem?_eq_getElem hp]
    by_cases hc : h.context = a.context
    · simp [hc, hp]
    · simp [hc, eq_comm]
  · rw [Array.getElem?_eq_none (Nat.le_of_not_lt hp)]
    simp [hp, eq_comm]

theorem violation_of_check_error (hc : p.check h.pool.toNat h.slot.toNat h.generation = .error e) :
    h.Violation e := by
  rw [SizeClass.check] at hc
  split at hc
  · cases hc
    exact .foreign
  · split at hc
    · split at hc
      · cases hc
      · cases hc
        exact .doubleFree
    · cases hc
      exact .stale

theorem validate_eq_error_iff :
    a.validate h = .error e ↔ a.owner h = .error e ∨
      ∃ p, a.owner h = .ok p ∧ p.check h.pool.toNat h.slot.toNat h.generation = .error e := by
  rw [validate]
  rcases a.owner h with e' | p
  · simp [bind, Except.bind]
  · cases hc : p.check h.pool.toNat h.slot.toNat h.generation with
    | error e' => simp [bind, Except.bind, hc]
    | ok s => simp [bind, Except.bind, pure, Except.pure, hc]

/-- A handle that is not accepted is refused for a violation. -/
theorem violation_of_validate_error (hv : a.validate h = .error e) : h.Violation e := by
  rcases validate_eq_error_iff.mp hv with ho | ⟨p, -, hc⟩
  · obtain ⟨rfl, -⟩ := owner_eq_error_iff.mp ho
    exact .foreign
  · exact violation_of_check_error hc

theorem exists_validate_error (hl : ¬ a.Live h) : ∃ e, a.validate h = .error e := by
  rcases hv : a.validate h with e | ⟨p, s⟩
  · exact ⟨e, rfl⟩
  · exact absurd ⟨p, s, hv⟩ hl

theorem rejection?_of_validate_error (hv : a.validate h = .error e) :
    a.rejection? h = some e := by
  rw [rejection?, hv]

/-- A change of a tag looks at the pool of a handle, then at the index, and then at the slot. -/
theorem setInfo_eq_error_iff (index : Nat) (value : UInt16) :
    a.setInfo h index value = .error e ↔ a.owner h = .error e ∨ ∃ p, a.owner h = .ok p ∧
      if 1 < index then e = .infoIndex index
      else p.check h.pool.toNat h.slot.toNat h.generation = .error e := by
  rw [setInfo]
  rcases a.owner h with e' | p
  · simp [bind, Except.bind]
  · by_cases hi : 1 < index
    · simp [bind, Except.bind, throw, throwThe, MonadExceptOf.throw, hi, eq_comm]
    · cases hc : p.check h.pool.toNat h.slot.toNat h.generation with
      | error e' => simp [bind, Except.bind, hi, hc]
      | ok s => simp [bind, Except.bind, pure, Except.pure, hi, hc]

/-! ## One operation -/

/-- **A handle that is not accepted** makes every operation fail, for the reason that it is not
accepted for. -/
theorem perform_of_validate_error (hop : op.handle? = some h) (hv : a.validate h = .error e)
    (hs : op.strays = true → a.owner h = .error e) : a.perform op = (.refused e, a) := by
  cases op with
  | setInfo g index value =>
    obtain rfl := Option.some.inj hop
    have he : a.setInfo g index value = .error e := by
      rw [setInfo_eq_error_iff]
      rcases validate_eq_error_iff.mp hv with ho | ⟨p, ho, hc⟩
      · exact Or.inl ho
      · by_cases hi : 1 < index
        · exact Or.inl (hs (decide_eq_true hi))
        · exact Or.inr ⟨p, ho, by rwa [if_neg hi]⟩
    rw [perform, he]
    rfl
  | free g releaseTag =>
    obtain rfl := Option.some.inj hop
    rw [perform, free, hv]
    rfl
  | duplicate g =>
    obtain rfl := Option.some.inj hop
    rw [perform, duplicate, hv]
    rfl
  | write g offset bytes =>
    obtain rfl := Option.some.inj hop
    rw [perform, write, hv]
    rfl
  | update g change =>
    obtain rfl := Option.some.inj hop
    rw [perform, update, hv]
    rfl
  | info g =>
    obtain rfl := Option.some.inj hop
    rw [perform, info, hv]
    rfl
  | itemSize g =>
    obtain rfl := Option.some.inj hop
    rw [perform, itemSize, hv]
    rfl
  | read g =>
    obtain rfl := Option.some.inj hop
    rw [perform, read, hv]
    rfl
  | addPool | allocate => cases hop

/-- A tag that no item has is refused without a look at the slot. -/
theorem perform_setInfo_of_lt {index : Nat} (hi : 1 < index) (h : ItemHandle) (value : UInt16) :
    a.perform (.setInfo h index value) =
      (.refused (if h.context = a.context ∧ h.pool.toNat < a.pools.size then .infoIndex index
        else .foreignHandle h.pool.toNat h.slot.toNat), a) := by
  by_cases ho : h.context = a.context ∧ h.pool.toNat < a.pools.size
  · have hok := owner_eq_ok_iff.mpr ⟨Array.getElem?_eq_getElem ho.2, ho.1⟩
    have he : a.setInfo h index value = .error (.infoIndex index) :=
      (setInfo_eq_error_iff index value).mpr (Or.inr ⟨_, hok, by rw [if_pos hi]⟩)
    rw [perform, he, if_pos ho]
    rfl
  · have he : a.setInfo h index value = .error (.foreignHandle h.pool.toNat h.slot.toNat) :=
      (setInfo_eq_error_iff index value).mpr (Or.inl (owner_eq_error_iff.mpr ⟨rfl, ho⟩))
    rw [perform, he, if_neg ho]
    rfl

/-- An operation on a live item may be refused, but not for a violation. -/
theorem Live.isFatal_of_refused (wf : a.WellFormed) (hl : a.Live h) (hop : op.handle? = some h)
    (he : (a.perform op).1 = .refused e) : e.isFatal = false := by
  -- Most operations ask for nothing but a live handle.
  have hprobe (op : PoolOperation) (hop : op.probes? = some h) :
      (a.perform op).1 ≠ .refused e := by
    intro he
    have hnone := refusal?_perform (a := a) hop
    rw [he, rejection?_eq_none_iff.mpr hl] at hnone
    cases hnone
  cases op with
  | setInfo g index value =>
    obtain rfl := Option.some.inj hop
    rcases hr : a.setInfo g index value with e' | b
    · rw [perform, hr] at he
      obtain rfl := PoolAnswer.refused.inj he
      exact hl.isFatal_of_setInfo_error hr
    · rw [perform, hr] at he
      cases he
  | write g offset bytes =>
    obtain rfl := Option.some.inj hop
    rcases hr : a.write g offset bytes with e' | b
    · rw [perform, hr] at he
      obtain rfl := PoolAnswer.refused.inj he
      exact hl.isFatal_of_write_error hr
    · rw [perform, hr] at he
      cases he
  | duplicate g =>
    obtain rfl := Option.some.inj hop
    rcases hd : a.duplicate g with ⟨e' | copy, b⟩
    · rw [perform, hd] at he
      obtain rfl := PoolAnswer.refused.inj he
      exact ((keeps_of_duplicate_error wf hd).2 hl).1
    · rw [perform, hd] at he
      cases he
  | free | update | info | itemSize | read => exact absurd he (hprobe _ hop)
  | addPool | allocate => cases hop

/-! ## Handles that are gone -/

/-- The ways in which a handle comes to be of no use, fewer than `2 ^ 32` uses of its slot ago. -/
inductive Gone (a : Allocator) (ops : List PoolOperation) (h : ItemHandle) : Prop where
  /-- Another allocator issued it. -/
  | foreign : h.context ≠ a.context → Gone a ops h
  /-- Its item was taken back. -/
  | returned (k : Nat) : (a.events ops)[k]? = some (.returned h) →
      a.reuses ops k h.place < Word.count 32 → Gone a ops h
  /-- It was issued, and its slot has been handed out anew. -/
  | reused (k : Nat) : (a.events ops)[k]? = some (.taken h) → 0 < a.reuses ops k h.place →
      a.reuses ops k h.place < Word.count 32 → Gone a ops h

theorem rejection?_of_context_ne (hc : h.context ≠ a.context) :
    a.rejection? h = some (.foreignHandle h.pool.toNat h.slot.toNat) := by
  apply rejection?_of_validate_error
  rw [validate_eq_error_iff, owner_eq_error_iff]
  exact Or.inl ⟨rfl, fun ho ↦ hc ho.1⟩

/-- A slot that was taken back and not handed out since is free. -/
theorem isAllocated_of_returned (wf : a.WellFormed) (hk : (a.events ops)[k]? = some (.returned h))
    (hr : a.reuses ops k h.place = 0) : (a.run ops).isAllocated h.place = false := by
  obtain ⟨b, others, he, hrun, hevents, -⟩ := effect_of_event wf hk
  have hb := he.wellFormed (wf.run _)
  cases he with
  | returns hloss =>
    have hfree : b.isAllocated h.place = false := by
      rw [isAllocated, (hloss.usage h.place).trans (if_pos rfl)]
      rfl
    refine Bool.eq_false_iff.mpr fun ha ↦ ?_
    rw [← hrun] at ha
    rcases taken_of_isAllocated_run hb ha with hb' | hpos
    · rw [hfree] at hb'
      cases hb'
    · rw [reuses, ← hevents] at hr
      omega

/-- What was taken back, and whose slot is still free, would be freed twice. -/
theorem rejection?_of_not_reused (wf : a.WellFormed)
    (hk : (a.events ops)[k]? = some (.returned h)) (hr : a.reuses ops k h.place = 0) :
    (a.run ops).rejection? h = some (.doubleFree h.pool.toNat h.slot.toNat) := by
  rw [rejection?_of_returned wf hk, isAllocated_of_returned wf hk hr, hr]
  rfl

/-- A handle whose slot is in other hands is stale, whether its item was seen to go or not. -/
theorem rejection?_of_reused (wf : a.WellFormed)
    (hk : (a.events ops)[k]? = some (.returned h) ∨ (a.events ops)[k]? = some (.taken h))
    (hpos : 0 < a.reuses ops k h.place) (hlt : a.reuses ops k h.place < Word.count 32) :
    (a.run ops).rejection? h = some (.staleHandle h.pool.toNat h.slot.toNat h.generation) := by
  have hverdict := hk.elim (rejection?_of_returned wf) (rejection?_of_taken wf)
  rw [hverdict, ItemHandle.verdict, if_neg]
  exact fun hdvd ↦ absurd (Nat.le_of_dvd hpos hdvd) (Nat.not_le.mpr hlt)

theorem Gone.not_live (wf : a.WellFormed) (hg : Gone a ops h) : ¬ (a.run ops).Live h := by
  rw [← rejection?_eq_none_iff]
  cases hg with
  | foreign hc =>
    rw [rejection?_of_context_ne (by rwa [context_run wf])]
    exact nofun
  | returned k hk hlt =>
    rcases Nat.eq_zero_or_pos (a.reuses ops k h.place) with hzero | hpos
    · rw [rejection?_of_not_reused wf hk hzero]
      exact nofun
    · rw [rejection?_of_reused wf (Or.inl hk) hpos hlt]
      exact nofun
  | reused k hk hpos hlt =>
    rw [rejection?_of_reused wf (Or.inr hk) hpos hlt]
    exact nofun

/-! ## The law -/

/-- What a run means for the handles that it leaves behind. -/
structure ValidationLaw (a : Allocator) (ops : List PoolOperation) : Prop where
  /-- The three ways to be gone are told apart. -/
  foreign : ∀ h, h.context ≠ a.context →
    (a.run ops).rejection? h = some (.foreignHandle h.pool.toNat h.slot.toNat)
  returned : ∀ k h, (a.events ops)[k]? = some (.returned h) → a.reuses ops k h.place = 0 →
    (a.run ops).rejection? h = some (.doubleFree h.pool.toNat h.slot.toNat)
  reused : ∀ k h, (a.events ops)[k]? = some (.returned h) ∨ (a.events ops)[k]? = some (.taken h) →
    0 < a.reuses ops k h.place → a.reuses ops k h.place < Word.count 32 →
    (a.run ops).rejection? h = some (.staleHandle h.pool.toNat h.slot.toNat h.generation)
  gone : ∀ h, Gone a ops h → ¬ (a.run ops).Live h
  /-- An operation on a handle that is not live is refused for the violation and changes nothing,
  unless it is about a tag that no item has. -/
  refused : ∀ h, ¬ (a.run ops).Live h → ∀ op, op.handle? = some h → op.strays = false →
    ∃ e, h.Violation e ∧ (a.run ops).rejection? h = some e ∧
      (a.run ops).perform op = (.refused e, a.run ops)
  /-- Such a tag is refused for its index, unless the handle names no pool of this allocator. -/
  strayed : ∀ h index value, 1 < index →
    (a.run ops).perform (.setInfo h index value) = (.refused (if h.context = a.context ∧
      h.pool.toNat < (a.run ops).pools.size then .infoIndex index
      else .foreignHandle h.pool.toNat h.slot.toNat), a.run ops)
  /-- A violation means that the handle is not live. -/
  fatal : ∀ h op e, op.handle? = some h → ((a.run ops).perform op).1 = .refused e →
    e.isFatal = true → ¬ (a.run ops).Live h

/-- **The law of validation.** Over any run of an allocator, what is asked of a handle whose item is
gone is refused as a violation and leaves no trace, but for the index of a tag. -/
theorem validation_law (context : UInt64) (n : Nat) (ops : List PoolOperation) :
    ValidationLaw (create context n) ops := by
  have wf := wellFormed_create context n
  have hcontext := context_run wf ops
  refine ⟨fun h hc ↦ rejection?_of_context_ne (by rwa [hcontext]),
    fun k h ↦ rejection?_of_not_reused wf, fun k h ↦ rejection?_of_reused wf,
    fun h ↦ Gone.not_live wf, ?_, ?_, ?_⟩
  · intro h hl op hop hs
    obtain ⟨e, he⟩ := exists_validate_error hl
    refine ⟨e, violation_of_validate_error he, rejection?_of_validate_error he, ?_⟩
    exact perform_of_validate_error hop he fun hs' ↦ absurd (hs.symm.trans hs') Bool.false_ne_true
  · intro h index value hi
    rw [perform_setInfo_of_lt hi, hcontext]
  · intro h op e hop he hfatal hl
    rw [hl.isFatal_of_refused (wf.run ops) hop he] at hfatal
    cases hfatal

/-- Whatever is asked of a handle whose item is gone is a violation, without exception. -/
def Revalidates (a : Allocator) (ops : List PoolOperation) : Prop :=
  ∀ h, Gone a ops h → ∀ op : PoolOperation, op.handle? = some h →
    ∃ e, h.Violation e ∧ (a.run ops).perform op = (.refused e, a.run ops)

/-- An item that was freed. -/
def freedItem : List PoolOperation :=
  [.addPool 1 8, .allocate 8 ⟨0, 0⟩, .free ⟨7, 0, 0, 1⟩ 0]

/-- A change of the third tag of an item that was freed is told that there is no third tag. -/
theorem not_revalidates_freedItem :
    Gone (create 7 1) freedItem ⟨7, 0, 0, 1⟩ ∧
      ((create 7 1).run freedItem).perform (.setInfo ⟨7, 0, 0, 1⟩ 2 1) =
        (.refused (.infoIndex 2), (create 7 1).run freedItem) ∧
      ¬ Revalidates (create 7 1) freedItem := by
  have hgone : Gone (create 7 1) freedItem ⟨7, 0, 0, 1⟩ := .returned 2 (by decide) (by decide)
  have hperform : ((create 7 1).run freedItem).perform (.setInfo ⟨7, 0, 0, 1⟩ 2 1) =
      (.refused (.infoIndex 2), (create 7 1).run freedItem) := by decide
  refine ⟨hgone, hperform, ?_⟩
  intro hall
  obtain ⟨e, hv, he⟩ := hall _ hgone (.setInfo ⟨7, 0, 0, 1⟩ 2 1) rfl
  rw [hperform] at he
  obtain rfl := PoolAnswer.refused.inj (Prod.mk.inj he).1
  cases hv

end Allocator

end TaskMessaging
