import TaskMessaging.Proofs.Pool.Run

/-!
# Generations

A slot counts how often it was handed out, modulo `2 ^ 32`, and a handle carries the count of its
own use of the slot. So a handle outlives its item, and what it is told afterwards depends on
nothing but two things: whether its slot is handed out, and how often it has been since.

## Wrap-around

The count of uses is exact only modulo `2 ^ 32`: after that many further uses of its slot a handle
that was freed long ago names the current use again and is accepted once more. `verdict` says so,
and what is hoped for from generations, that handles of different uses are never confused, holds
under the condition that no slot is handed out more than `2 ^ 32` times.
-/

namespace TaskMessaging

/-- What the holder of a handle is told, when the slot has been handed out anew `reuses` times. -/
def ItemHandle.verdict (h : ItemHandle) (allocated : Bool) (reuses : Nat) : Option PoolError :=
  if Word.count 32 ∣ reuses then
    if allocated then none else some (.doubleFree h.pool.toNat h.slot.toNat)
  else some (.staleHandle h.pool.toNat h.slot.toNat h.generation)

/-- The handle that an operation asks to be accepted, without a further reason to refuse it. -/
def PoolOperation.probes? : PoolOperation → Option ItemHandle
  | .free h _ | .info h | .itemSize h | .read h | .update h _ => some h
  | .setInfo h index _ => if index ≤ 1 then some h else none
  | _ => none

theorem SizeClass.check_of_slot {p : SizeClass} {slot : Nat} {s : Slot}
    (hs : p.slots[slot]? = some s) (pool : Nat) (generation : UInt32) :
    p.check pool slot generation =
      if s.generation = generation then
        if s.allocated then .ok s else .error (.doubleFree pool slot)
      else .error (.staleHandle pool slot generation) := by
  rw [check, hs]

namespace Allocator

variable {a b : Allocator} {h : ItemHandle} {ev : PoolEvent} {place : Nat × Nat} {n : UInt32}
  {f : Bool} {ops : List PoolOperation} {k : Nat}

/-! ## One operation -/

/-- The generation of a slot moves on exactly when the slot is handed out. -/
theorem Effect.usage (he : Effect a ev b) (hu : a.usage place = some (n, f)) :
    ∃ f', b.usage place = some (if ev.takes place then n + 1 else n, f') := by
  cases he with
  | declares itemCount itemSize hroom =>
    -- The slots of the new pool are not among those that had a usage before.
    refine ⟨f, ?_⟩
    have hne : place.1 ≠ a.pools.size := by
      rintro hi
      rw [Allocator.usage, hi, Array.getElem?_eq_none (Nat.le_refl _)] at hu
      cases hu
    rw [Allocator.usage, pool_declared, if_neg hne]
    exact hu
  | @takes b h last hgain hlast hnext =>
    rw [hgain.usage]
    by_cases hp : place = h.place
    · -- The generation that the slot was in is the last one that the new handle follows.
      subst hp
      rw [hlast] at hu
      cases hu
      exact ⟨true, by simp [PoolEvent.takes, hnext]⟩
    · exact ⟨f, by simp [PoolEvent.takes, hp, Ne.symm hp, hu]⟩
  | @returns b h hloss =>
    rw [hloss.usage]
    by_cases hp : place = h.place
    · subst hp
      rw [(live_iff.mp hloss.live).2] at hu
      cases hu
      exact ⟨false, by simp [PoolEvent.takes]⟩
    · exact ⟨f, by simp [PoolEvent.takes, hp, hu]⟩
  | refuses pool hkeep => exact ⟨f, by rw [hkeep.usage]; exact hu⟩
  | keeps hkeep => exact ⟨f, by rw [hkeep.usage]; exact hu⟩

/-- A slot is handed out only by being handed out. -/
theorem Effect.isAllocated (he : Effect a ev b) (hb : b.isAllocated place = true) :
    a.isAllocated place = true ∨ ev.takes place = true := by
  cases he with
  | declares itemCount itemSize hroom =>
    rw [isAllocated_declared] at hb
    exact Or.inl hb
  | @takes b h last hgain =>
    rw [Allocator.isAllocated, hgain.usage] at hb
    by_cases hp : place = h.place
    · exact Or.inr (by simp [PoolEvent.takes, hp])
    · rw [if_neg hp] at hb
      exact Or.inl hb
  | @returns b h hloss =>
    rw [Allocator.isAllocated, hloss.usage] at hb
    by_cases hp : place = h.place
    · simp [hp] at hb
    · rw [if_neg hp] at hb
      exact Or.inl hb
  | refuses pool hkeep =>
    rw [Allocator.isAllocated, hkeep.usage] at hb
    exact Or.inl hb
  | keeps hkeep =>
    rw [Allocator.isAllocated, hkeep.usage] at hb
    exact Or.inl hb

/-! ## Runs -/

/-- **The generation of a slot counts the times that it was handed out**, modulo `2 ^ 32`. -/
theorem usage_run (wf : a.WellFormed) (hu : a.usage place = some (n, f))
    (ops : List PoolOperation) :
    ∃ f', (a.run ops).usage place =
      some (n + UInt32.ofNat ((a.events ops).countP (·.takes place)), f') := by
  -- The flag may change at every step, so the induction is over all flags as well.
  induction ops generalizing a n f with
  | nil => exact ⟨f, by simpa [run, events] using hu⟩
  | cons op ops ih =>
    have he := effect wf op
    obtain ⟨f₁, hu₁⟩ := he.usage hu
    obtain ⟨f', hu'⟩ := ih (he.wellFormed wf) hu₁
    refine ⟨f', ?_⟩
    rw [run_cons, hu', events, List.countP_cons]
    split
    · rw [UInt32.ofNat_add, UInt32.add_assoc, UInt32.add_comm 1]
      rfl
    · rfl

/-- A slot that is handed out at the end of a run was so before, or was handed out during the
run. -/
theorem taken_of_isAllocated_run (wf : a.WellFormed)
    (ha : (a.run ops).isAllocated place = true) :
    a.isAllocated place = true ∨ 0 < (a.events ops).countP (·.takes place) := by
  induction ops generalizing a with
  | nil => exact Or.inl ha
  | cons op ops ih =>
    have he := effect wf op
    rw [events, List.countP_cons]
    rcases ih (he.wellFormed wf) ha with hb | hpos
    · refine (he.isAllocated hb).imp_right fun ht ↦ ?_
      rw [if_pos ht]
      omega
    · exact Or.inr (by omega)

/-- A generation comes back exactly after every `2 ^ 32` uses. -/
theorem add_ofNat_eq_self_iff (n : UInt32) (m : Nat) :
    n + UInt32.ofNat m = n ↔ Word.count 32 ∣ m := by
  have hn := n.toNat_lt
  have hcount : Word.count 32 = 4294967296 := rfl
  rw [← UInt32.toNat_inj, UInt32.toNat_add, UInt32.toNat_ofNat', Nat.dvd_iff_mod_eq_zero, hcount]
  omega

/-! ## Acceptance -/

/-- Why a handle is not accepted, if it is not. -/
def rejection? (a : Allocator) (h : ItemHandle) : Option PoolError :=
  match a.validate h with
  | .ok _ => none
  | .error e => some e

theorem rejection?_eq_none_iff : a.rejection? h = none ↔ a.Live h := by
  rw [rejection?, Live]
  rcases a.validate h with e | ⟨p, s⟩ <;> simp

/-- All operations on an item accept the same handles, and refuse the others for the same reason. -/
theorem refusal?_perform {op : PoolOperation} (hop : op.probes? = some h) :
    (a.perform op).1.refusal? = a.rejection? h := by
  cases op with
  | free g releaseTag =>
    cases hop
    rw [perform, free, rejection?]
    cases a.validate h <;> rfl
  | info g =>
    cases hop
    rw [perform, info, rejection?]
    cases a.validate h <;> rfl
  | itemSize g =>
    cases hop
    rw [perform, itemSize, rejection?]
    cases a.validate h <;> rfl
  | read g =>
    cases hop
    rw [perform, read, rejection?]
    cases a.validate h <;> rfl
  | update g f =>
    cases hop
    rw [perform, update, rejection?]
    cases a.validate h <;> rfl
  | setInfo g index value =>
    rw [PoolOperation.probes?] at hop
    split at hop
    · next hindex =>
      cases hop
      rw [perform, setInfo, rejection?, validate]
      cases a.owner h with
      | error e => rfl
      | ok p =>
        simp only [bind, Except.bind, if_neg (Nat.not_lt.mpr hindex)]
        cases p.check h.pool.toNat h.slot.toNat h.generation <;> rfl
    · cases hop
  | addPool | allocate | duplicate | write => cases hop

/-- A handle of this allocator is judged by the usage of its slot. -/
theorem rejection?_of_usage (hc : h.context = a.context) (hu : a.usage h.place = some (n, f)) :
    a.rejection? h = if n = h.generation then
        if f then none else some (.doubleFree h.pool.toNat h.slot.toNat)
      else some (.staleHandle h.pool.toNat h.slot.toNat h.generation) := by
  obtain ⟨p, hp, hpu⟩ := Option.bind_eq_some_iff.mp hu
  obtain ⟨s, hs, hsu⟩ := Option.map_eq_some_iff.mp hpu
  cases hsu
  have hcheck := SizeClass.check_of_slot hs h.pool.toNat h.generation
  rw [rejection?, validate, owner_eq_ok_iff.mpr ⟨hp, hc⟩]
  simp only [bind, Except.bind, ItemHandle.place] at hcheck ⊢
  rw [hcheck]
  by_cases hg : s.generation = h.generation
  · cases s.allocated <;> simp [hg, pure, Except.pure]
  · simp [hg]

/-! ## The law of handles -/

/-- How often a slot was handed out after a moment of a run. -/
def reuses (a : Allocator) (ops : List PoolOperation) (k : Nat) (place : Nat × Nat) : Nat :=
  ((a.events ops).drop (k + 1)).countP (·.takes place)

/-- No slot is handed out so often that its generations wrap around. -/
def Unwrapped (a : Allocator) (ops : List PoolOperation) : Prop :=
  ∀ place, (a.events ops).countP (·.takes place) ≤ Word.count 32

private theorem countP_of_getElem? {α : Type} {l : List α} {x : α} (h : l[k]? = some x)
    (P : α → Bool) :
    l.countP P = (l.take k).countP P + (if P x then 1 else 0) + (l.drop (k + 1)).countP P := by
  obtain ⟨hk, rfl⟩ := List.getElem?_eq_some_iff.mp h
  calc l.countP P = (l.take k ++ l[k] :: l.drop (k + 1)).countP P := by
        rw [← List.drop_eq_getElem_cons, List.take_append_drop]
    _ = _ := by
        rw [List.countP_append, List.countP_cons]
        omega

/-- A later use of a slot is one of its reuses. -/
theorem reuses_pos {i : Nat} (hik : i < k) (hk : (a.events ops)[k]? = some ev)
    (ht : ev.takes place = true) : 0 < a.reuses ops i place := by
  refine List.countP_pos_iff.mpr ⟨ev, List.mem_of_getElem? (i := k - (i + 1)) ?_, ht⟩
  rw [List.getElem?_drop, Nat.add_sub_cancel' hik]
  exact hk

/-- The use of a slot that a handle was issued for is not one of its reuses. -/
theorem reuses_lt (hk : (a.events ops)[k]? = some ev) (ht : ev.takes place = true) :
    a.reuses ops k place < (a.events ops).countP (·.takes place) := by
  rw [countP_of_getElem? hk, if_pos ht, reuses]
  omega

/-- A handle that names the generation of its slot is judged, after a run, by the slot and the
number of its reuses. -/
theorem rejection?_run (wf : a.WellFormed) (hc : h.context = a.context)
    (hu : a.usage h.place = some (h.generation, f)) (ops : List PoolOperation) :
    (a.run ops).rejection? h = h.verdict ((a.run ops).isAllocated h.place)
      ((a.events ops).countP (·.takes h.place)) := by
  obtain ⟨f', hu'⟩ := usage_run wf hu ops
  have ha : (a.run ops).isAllocated h.place = f' := by
    rw [isAllocated, hu']
    rfl
  rw [rejection?_of_usage (hc.trans (context_run wf ops).symm) hu', ha, ItemHandle.verdict]
  simp only [add_ofNat_eq_self_iff]

/-- **A handle that was issued** is judged by its slot and the number of its reuses alone. -/
theorem rejection?_of_taken (wf : a.WellFormed) (hk : (a.events ops)[k]? = some (.taken h)) :
    (a.run ops).rejection? h =
      h.verdict ((a.run ops).isAllocated h.place) (a.reuses ops k h.place) := by
  obtain ⟨b, others, he, hrun, hevents, -⟩ := effect_of_event wf hk
  have hb := he.wellFormed (wf.run _)
  cases he with
  | takes hgain =>
    rw [← hrun, reuses, ← hevents]
    exact rejection?_run hb (hgain.tag.trans hgain.context.symm)
      ((hgain.usage _).trans (if_pos rfl)) others

/-- So is one that was taken back. -/
theorem rejection?_of_returned (wf : a.WellFormed)
    (hk : (a.events ops)[k]? = some (.returned h)) :
    (a.run ops).rejection? h =
      h.verdict ((a.run ops).isAllocated h.place) (a.reuses ops k h.place) := by
  obtain ⟨b, others, he, hrun, hevents, -⟩ := effect_of_event wf hk
  have hb := he.wellFormed (wf.run _)
  cases he with
  | returns hloss =>
    rw [← hrun, reuses, ← hevents]
    exact rejection?_run hb ((live_iff.mp hloss.live).1.trans hloss.context.symm)
      ((hloss.usage _).trans (if_pos rfl)) others

/-- What was taken back is not accepted before its slot was reused often enough. -/
theorem dvd_reuses_of_returned (wf : a.WellFormed)
    (hk : (a.events ops)[k]? = some (.returned h)) (hl : (a.run ops).Live h) :
    Word.count 32 ∣ a.reuses ops k h.place ∧ 0 < a.reuses ops k h.place ∧
      (a.run (ops.take k)).isAllocated h.place = true := by
  obtain ⟨b, others, he, hrun, hevents, -⟩ := effect_of_event wf hk
  have hb := he.wellFormed (wf.run _)
  cases he with
  | returns hloss =>
    have hub := (hloss.usage h.place).trans (if_pos rfl)
    obtain ⟨f, hu⟩ := usage_run hb hub others
    rw [← hrun] at hl
    have hgen := (live_iff.mp hl).2
    rw [hu, hevents, Option.some.injEq, Prod.mk.injEq, add_ofNat_eq_self_iff] at hgen
    have hfree : b.isAllocated h.place = false := by
      rw [isAllocated, hub]
      rfl
    have hpos := (taken_of_isAllocated_run hb hl.isAllocated).resolve_left (by simp [hfree])
    rw [hevents] at hpos
    exact ⟨hgen.1, hpos, hloss.live.isAllocated⟩

/-- What a run means for the handles that it issues. -/
structure HandleLaw (a : Allocator) (ops : List PoolOperation) : Prop where
  /-- A handle that was issued is accepted or refused by every operation as its verdict says. -/
  judged : ∀ k h, (a.events ops)[k]? = some (.taken h) → ∀ op, op.probes? = some h →
    ((a.run ops).perform op).1.refusal? =
      h.verdict ((a.run ops).isAllocated h.place) (a.reuses ops k h.place)
  accepted : ∀ h op, op.probes? = some h →
    (((a.run ops).perform op).1.refusal? = none ↔ (a.run ops).Live h)
  /-- Live handles that were issued at different moments denote different slots. -/
  distinct : a.Unwrapped ops → ∀ (i k : Nat) (g h : ItemHandle), i ≠ k →
    (a.events ops)[i]? = some (.taken g) → (a.events ops)[k]? = some (.taken h) →
    (a.run ops).Live g → (a.run ops).Live h → g.place ≠ h.place
  /-- A handle that was freed is never accepted again. -/
  dead : a.Unwrapped ops → ∀ (k : Nat) (h : ItemHandle),
    (a.events ops)[k]? = some (.returned h) → ¬ (a.run ops).Live h

/-- A live handle whose slot was handed out since it was issued has seen all generations. -/
theorem le_reuses_of_live {i : Nat} (wf : a.WellFormed) (hi : (a.events ops)[i]? = some (.taken h))
    (hl : (a.run ops).Live h) (hpos : 0 < a.reuses ops i h.place) :
    Word.count 32 ≤ a.reuses ops i h.place := by
  have hnone := rejection?_of_taken wf hi
  rw [rejection?_eq_none_iff.mpr hl, ItemHandle.verdict] at hnone
  split at hnone
  · next hdvd => exact Nat.le_of_dvd hpos hdvd
  · cases hnone

/-- Two uses of one slot do not both have a live handle. -/
theorem not_live_of_lt {i : Nat} {g : ItemHandle} (wf : a.WellFormed) (hu : a.Unwrapped ops)
    (hik : i < k) (hi : (a.events ops)[i]? = some (.taken g))
    (hk : (a.events ops)[k]? = some (.taken h)) (hp : g.place = h.place) :
    ¬ (a.run ops).Live g := by
  intro hl
  have hfirst : (PoolEvent.taken g).takes g.place = true := decide_eq_true rfl
  have hagain : (PoolEvent.taken h).takes g.place = true := decide_eq_true hp.symm
  have hle := le_reuses_of_live wf hi hl (reuses_pos hik hk hagain)
  have hlt := reuses_lt hi hfirst
  have := hu g.place
  omega

/-- Where nothing was handed out before the run, what was taken back in it stays dead. -/
theorem not_live_of_returned (wf : a.WellFormed) (hnew : ∀ place, a.isAllocated place = false)
    (hu : a.Unwrapped ops) (hk : (a.events ops)[k]? = some (.returned h)) :
    ¬ (a.run ops).Live h := by
  intro hl
  obtain ⟨hdvd, hpos, ha⟩ := dvd_reuses_of_returned wf hk hl
  obtain ⟨_, _, _, _, _, hbefore⟩ := effect_of_event wf hk
  -- The handle was live when it was freed, so its slot had been handed out before.
  have hfirst := (taken_of_isAllocated_run wf ha).resolve_left (by simp [hnew])
  rw [hbefore] at hfirst
  have htotal := countP_of_getElem? hk (·.takes h.place)
  have hle := Nat.le_of_dvd hpos hdvd
  have := hu h.place
  rw [reuses] at hle
  omega

/-- **The law of handles.** Over any run of an allocator, a handle is accepted exactly while its
slot is handed out in the generation that it was issued for, modulo `2 ^ 32`. -/
theorem handle_law (context : UInt64) (n : Nat) (ops : List PoolOperation) :
    HandleLaw (create context n) ops := by
  have wf := wellFormed_create context n
  refine ⟨?_, ?_, ?_, ?_⟩
  · intro k h hk op hop
    rw [refusal?_perform hop]
    exact rejection?_of_taken wf hk
  · intro h op hop
    rw [refusal?_perform hop]
    exact rejection?_eq_none_iff
  · intro hu i k g h hne hi hk hg hh hp
    rcases Nat.lt_or_gt_of_ne hne with hlt | hlt
    · exact not_live_of_lt wf hu hlt hi hk hp hg
    · exact not_live_of_lt wf hu hlt hk hi hp.symm hh
  · intro hu k h hk
    exact not_live_of_returned wf (fun _ ↦ rfl) hu hk

/-- A pool of one item, which is freed and handed out again. -/
def reusedSlot : List PoolOperation :=
  [.addPool 1 8, .allocate 8 ⟨0, 0⟩, .free ⟨7, 0, 0, 1⟩ 0, .allocate 8 ⟨0, 0⟩]

/-- The first handle of the slot stays dead, although the slot is in use again. -/
theorem handle_law_reusedSlot :
    ((create 7 1).events reusedSlot)[1]? = some (.taken ⟨7, 0, 0, 1⟩) ∧
      ((create 7 1).reuses reusedSlot 1 (0, 0) = 1) ∧
      (((create 7 1).run reusedSlot).perform (.read ⟨7, 0, 0, 1⟩)).1.refusal? =
        some (.staleHandle 0 0 1) := by
  have hissued : ((create 7 1).events reusedSlot)[1]? = some (.taken ⟨7, 0, 0, 1⟩) := by decide
  refine ⟨hissued, by decide, ?_⟩
  rw [(handle_law 7 1 reusedSlot).judged 1 ⟨7, 0, 0, 1⟩ hissued (.read ⟨7, 0, 0, 1⟩) rfl]
  decide

end Allocator

end TaskMessaging
