import TaskMessaging.Proofs.Pool.Contents
import TaskMessaging.Proofs.TaskSystem.Core
import TaskMessaging.Proofs.TaskSystem.Escalation
import TaskMessaging.Proofs.TaskSystem.Ownership

/-!
# Receiving and releasing

A task without a use for its mail receives every envelope and releases it. The envelopes need not
make sense together: some own nothing, two may own the same item, and an item may have been freed
long before. Whatever they are, each of them is received and released once. An item that is live and
owned by at least one of them goes back to its pool, with the first that owns it, and every other
release of an item fails and is escalated.

`Refunds` says what this does to the pools, down to the order on the free stacks, and `Clears` what
it does to the system. Both compose, so they are proved of one envelope and then of any number.
-/

namespace TaskMessaging

namespace Allocator

variable {a b c : Allocator} {h : ItemHandle} {e : Envelope} {es es' : List Envelope}
  {items items' : List ItemHandle}

/-- The slots of one pool that some handles name. -/
def slotsIn (i : Nat) (items : List ItemHandle) : List Nat :=
  (items.filter fun h ↦ h.pool.toNat = i).map (·.slot.toNat)

theorem slotsIn_append (i : Nat) (items items' : List ItemHandle) :
    slotsIn i (items ++ items') = slotsIn i items ++ slotsIn i items' := by
  rw [slotsIn, List.filter_append, List.map_append, slotsIn, slotsIn]

theorem slotsIn_singleton (i : Nat) (h : ItemHandle) :
    slotsIn i [h] = if h.pool.toNat = i then [h.slot.toNat] else [] := by
  by_cases hi : h.pool.toNat = i
  · simp [slotsIn, hi]
  · simp [slotsIn, hi]

/-- What releasing some envelopes, one after the other, does to the pools: precisely the live items
that they own are given back, and no other slot changes. -/
structure Refunds (a : Allocator) (es : List Envelope) (items : List ItemHandle)
    (b : Allocator) : Prop where
  wellFormed : b.WellFormed
  /-- Each item is given back once, in the order of the envelopes. -/
  nodup : items.Nodup
  sublist : items.Sublist (es.filterMap Envelope.handle?)
  mem_items : ∀ h, h ∈ items ↔ a.Live h ∧ ∃ e ∈ es, e.handle? = some h
  live_iff : ∀ h, b.Live h ↔ a.Live h ∧ h ∉ items
  /-- Their slots lie on top of the free stacks, the one that was given back last in front. -/
  pools : ∀ i p, a.pools[i]? = some p → ∃ q, b.pools[i]? = some q ∧
    q.free = (slotsIn i items).reverse ++ p.free ∧ q.inUse + (slotsIn i items).length = p.inUse
  slots : ∀ place, place ∉ items.map (·.place) → b.slot? place = a.slot? place

namespace Refunds

/-- Envelopes that own no live item give nothing back. -/
theorem nothing (wf : a.WellFormed)
    (hdead : ∀ h, a.Live h → ¬ ∃ e ∈ es, e.handle? = some h) : Refunds a es [] a where
  wellFormed := wf
  nodup := List.nodup_nil
  sublist := List.nil_sublist _
  mem_items h := iff_of_false List.not_mem_nil fun ⟨hl, he⟩ ↦ hdead h hl he
  live_iff _ := (and_iff_left List.not_mem_nil).symm
  pools _ p hp := ⟨p, hp, rfl, rfl⟩
  slots _ _ := rfl

/-- An envelope that owns a live item gives it back. -/
theorem of_free (wf : a.WellFormed) (hs : e.handle? = some h) {releaseTag : UInt16}
    (hf : a.free h releaseTag = .ok b) : Refunds a [e] [h] b := by
  have hloss := loses_of_free wf hf
  have hinUse := hloss.inUse
  obtain ⟨r, s, hv, rfl⟩ := free_eq_ok hf
  have hr := (validate_eq_ok_iff.mp hv).1
  constructor
  case wellFormed => exact hloss.wellFormed
  case nodup => exact List.nodup_singleton h
  case sublist =>
    rw [filterMap_handle?_singleton, hs]
    exact List.Sublist.refl [h]
  case mem_items =>
    intro g
    simp only [List.mem_singleton, exists_eq_left, hs, Option.some.injEq]
    constructor
    · rintro rfl
      exact ⟨hloss.live, rfl⟩
    · exact fun hg ↦ hg.2.symm
  case live_iff =>
    intro g
    rw [hloss.live_iff, List.mem_singleton, and_comm]
  case pools =>
    intro i p hp
    have hcount := hinUse i
    rw [Allocator.inUse, Allocator.inUse, pool_setPool hr, hp] at hcount
    rw [slotsIn_singleton, pool_setPool hr]
    by_cases hi : i = h.pool.toNat
    · subst hi
      obtain rfl := Option.some.inj (hp.symm.trans hr)
      rw [if_pos rfl, if_pos rfl] at hcount
      rw [if_pos rfl, if_pos rfl]
      exact ⟨_, rfl, rfl, hcount⟩
    · rw [if_neg hi, hp, if_neg (Ne.symm hi)]
      exact ⟨p, rfl, rfl, rfl⟩
  case slots =>
    intro place hplace
    rw [List.map_singleton, List.mem_singleton] at hplace
    exact (slot?_setPool_modify hr rfl place).trans (if_neg hplace)

/-- What is given back first is not live any more, so it is not given back again. -/
theorem append (r : Refunds a es items b) (r' : Refunds b es' items' c) :
    Refunds a (es ++ es') (items ++ items') c where
  wellFormed := r'.wellFormed
  nodup := by
    refine List.nodup_append.mpr ⟨r.nodup, r'.nodup, ?_⟩
    rintro g hg _ hg' rfl
    exact ((r.live_iff g).mp ((r'.mem_items g).mp hg').1).2 hg
  sublist := by
    rw [List.filterMap_append]
    exact r.sublist.append r'.sublist
  mem_items g := by
    rw [List.mem_append, r'.mem_items, r.live_iff]
    constructor
    · rintro (hg | ⟨⟨hl, -⟩, e, he, hs⟩)
      · obtain ⟨hl, e, he, hs⟩ := (r.mem_items g).mp hg
        exact ⟨hl, e, List.mem_append_left _ he, hs⟩
      · exact ⟨hl, e, List.mem_append_right _ he, hs⟩
    · rintro ⟨hl, e, he, hs⟩
      by_cases hg : g ∈ items
      · exact Or.inl hg
      · -- No envelope of the first part owns the item, so one of the second part does.
        right
        rcases List.mem_append.mp he with hfirst | hsecond
        · exact absurd ((r.mem_items g).mpr ⟨hl, e, hfirst, hs⟩) hg
        · exact ⟨⟨hl, hg⟩, e, hsecond, hs⟩
  live_iff g := by
    rw [r'.live_iff, r.live_iff, List.mem_append, not_or, and_assoc]
  pools i p hp := by
    obtain ⟨q, hq, hfree, hcount⟩ := r.pools i p hp
    obtain ⟨q', hq', hfree', hcount'⟩ := r'.pools i q hq
    refine ⟨q', hq', ?_, ?_⟩
    · rw [hfree', hfree, slotsIn_append, List.reverse_append, List.append_assoc]
    · rw [slotsIn_append, List.length_append]
      omega
  slots place hplace := by
    rw [List.map_append, List.mem_append, not_or] at hplace
    rw [r'.slots place hplace.2, r.slots place hplace.1]

end Refunds

end Allocator

namespace TaskSystem

variable {s s' s'' : TaskSystem} {id : TaskId} {m : Mailbox} {e : Envelope}
  {es es' rest : List Envelope} {items items' : List ItemHandle} {errors errors' : List TaskError}

/-! ## One envelope -/

theorem tryReceive_of_queue (hm : s.mailbox? id = some m) (hq : m.queue = e :: rest) :
    ∃ m', m'.queue = rest ∧ s.tryReceive id =
      (.ok (some e), { s with registry := s.registry.setMailbox id m' }) := by
  obtain ⟨t, ht, rfl⟩ := Option.map_eq_some_iff.mp hm
  cases hd : t.mailbox.dequeue? with
  | none =>
    rw [Mailbox.dequeue?_eq_none.mp hd] at hq
    cases hq
  | some x =>
    obtain ⟨e', m'⟩ := x
    rw [(Mailbox.dequeue?_eq_some.mp hd).1, List.cons.injEq] at hq
    refine ⟨m', hq.2, ?_⟩
    rw [tryReceive, lookup, ht]
    dsimp only
    rw [hd, hq.1]

/-- The item that an envelope owns is given back, or its release fails. -/
theorem refunds_releaseEnvelope (wf : s.allocator.WellFormed) (e : Envelope) :
    ∃ items errors, s.allocator.Refunds [e] items (s.releaseEnvelope e).2.allocator ∧
      (s.releaseEnvelope e).2.escalated = s.escalated ++ errors ∧
      errors.length + items.length = ([e].filterMap Envelope.handle?).length := by
  rw [filterMap_handle?_singleton]
  cases hs : e.handle? with
  | none =>
    obtain ⟨-, ha, hescalated⟩ := releaseEnvelope_of_ok (Envelope.release_of_none hs s.allocator)
    refine ⟨[], [], ?_, ?_, rfl⟩
    · rw [ha]
      exact .nothing wf fun h _ ↦ by simp [hs]
    · rw [hescalated, List.append_nil]
  | some h =>
    have hrelease := Envelope.release_of_some hs s.allocator
    rcases hf : s.allocator.free h e.kind.number with err | a
    · rw [hf] at hrelease
      have hdead : ¬ s.allocator.Live h := by
        rw [← Allocator.exists_free_iff e.kind.number, hf]
        rintro ⟨b, hb⟩
        cases hb
      refine ⟨[], [.pool err], ?_, ?_, rfl⟩
      · rw [(releaseEnvelope_of_error hrelease).2]
        refine .nothing wf fun g hg ↦ ?_
        rintro ⟨e', he', hs'⟩
        rw [List.mem_singleton] at he'
        rw [he', hs, Option.some.injEq] at hs'
        exact hdead (hs' ▸ hg)
      · have hfatal : (TaskError.pool err).isFatal = true := Allocator.isFatal_of_free_error hf
        rw [releaseEnvelope, hrelease]
        dsimp only
        rw [escalate, if_pos hfatal]
        rfl
    · rw [hf] at hrelease
      obtain ⟨-, ha, hescalated⟩ := releaseEnvelope_of_ok hrelease
      refine ⟨[h], [], ?_, ?_, rfl⟩
      · rw [ha]
        exact .of_free wf hs hf
      · rw [hescalated, List.append_nil]

/-! ## Any number of envelopes -/

/-- What receiving and releasing some envelopes comes to for the system. -/
structure Clears (s : TaskSystem) (id : TaskId) (es : List Envelope) (items : List ItemHandle)
    (errors : List TaskError) (s' : TaskSystem) : Prop where
  /-- They leave the mailbox of the task, and nothing else does. -/
  passes : Passes s s' id es []
  others : ∀ j ≠ id, s'.registry.find? j = s.registry.find? j
  refunds : s.allocator.Refunds es items s'.allocator
  escalated : s'.escalated = s.escalated ++ errors
  /-- Each envelope that owns an item gives it back, or its release fails. -/
  failures : errors.length + items.length = (es.filterMap Envelope.handle?).length
  policy : s'.policy = s.policy

namespace Clears

theorem append (h : Clears s id es items errors s')
    (h' : Clears s' id es' items' errors' s'') :
    Clears s id (es ++ es') (items ++ items') (errors ++ errors') s'' where
  passes := h.passes.trans h'.passes
  others j hj := (h'.others j hj).trans (h.others j hj)
  refunds := h.refunds.append h'.refunds
  escalated := by rw [h'.escalated, h.escalated, List.append_assoc]
  failures := by
    have := h.failures
    have := h'.failures
    rw [List.length_append, List.length_append, List.filterMap_append, List.length_append]
    omega
  policy := h'.policy.trans h.policy

/-- Counters and journal do not matter. -/
theorem of_core (h : Clears s id es items errors s') (hc : s''.core = s'.core) :
    Clears s id es items errors s'' := by
  have hfield {α : Type} (f : TaskSystem → α) (hf : ∀ t, f t.core = f t) : f s'' = f s' := by
    rw [← hf s'', hc, hf s']
  have hregistry := hfield registry registry_core
  have hallocator := hfield allocator fun _ ↦ rfl
  have hescalated := hfield TaskSystem.escalated fun _ ↦ rfl
  have hpolicy := hfield TaskSystem.policy fun _ ↦ rfl
  constructor
  case passes => exact h.passes.congr rfl hregistry
  case others =>
    intro j hj
    rw [hregistry, h.others j hj]
  case refunds =>
    rw [hallocator]
    exact h.refunds
  case escalated => rw [hescalated, h.escalated]
  case failures => exact h.failures
  case policy => rw [hpolicy, h.policy]

/-- Where failures are only reported, or there are none, the process survives. -/
theorem isAborted (h : Clears s id es items errors s') (ha : s.isAborted = false)
    (hs : s.policy = .report ∨ errors = []) : s'.isAborted = false := by
  rw [TaskSystem.isAborted, h.policy, h.escalated]
  rcases hs with hreport | rfl
  · rw [hreport]
    rfl
  · rw [List.append_nil]
    exact ha

end Clears

theorem clears_nil (wf : s.allocator.WellFormed) (id : TaskId) : Clears s id [] [] [] s where
  passes := .of_registry rfl
  others _ _ := rfl
  refunds := .nothing wf fun _ _ ⟨_, he, _⟩ ↦ List.not_mem_nil he
  escalated := (List.append_nil _).symm
  failures := rfl
  policy := rfl

theorem clears_one (wf : s.allocator.WellFormed) (hm : s.mailbox? id = some m)
    (hq : m.queue = e :: rest) :
    ∃ items errors, Clears s id [e] items errors ((s.tryReceive id).2.releaseEnvelope e).2 := by
  have hpasses := passes_tryReceive s id id
  obtain ⟨m', -, hreceive⟩ := tryReceive_of_queue hm hq
  rw [receipts, hreceive] at hpasses
  dsimp only at hpasses
  rw [mailFor_self] at hpasses
  rw [hreceive]
  obtain ⟨items, errors, hrefunds, hescalated, hfailures⟩ := refunds_releaseEnvelope
    (s := { s with registry := s.registry.setMailbox id m' }) wf e
  refine ⟨items, errors, ?_, fun j hj ↦ ?_, hrefunds, hescalated, hfailures,
    (oblivious_releaseEnvelope _ e).policy⟩
  · refine hpasses.congr rfl ?_
    exact registry_releaseEnvelope _ e
  · rw [registry_releaseEnvelope]
    exact Registry.find?_setMailbox_of_ne hj m'

/-- Receiving some envelopes, each of which is released before the next one is received. -/
def clearing (id : TaskId) (es : List Envelope) : List Operation :=
  es.flatMap fun e ↦ [.tryReceive id, .releaseEnvelope e]

/-- **A task that receives what waits for it and releases it** is handed exactly these envelopes,
and clears them. -/
theorem run_clearing (wf : s.WellFormed) (hm : s.mailbox? id = some m)
    (hq : m.queue = es ++ rest) :
    s.received (clearing id es) = es.map (id, ·) ∧
      ∃ items errors, Clears s id es items errors (s.run (clearing id es)) := by
  induction es generalizing s m with
  | nil => exact ⟨rfl, [], [], clears_nil wf.allocator id⟩
  | cons e es ih =>
    obtain ⟨items, errors, hone⟩ := clears_one wf.allocator hm hq
    obtain ⟨m', hm', -, hq'⟩ := hone.passes m hm
    rw [hq, List.append_nil, List.cons_append, List.singleton_append, List.cons.injEq] at hq'
    obtain ⟨hreceived, items', errors', hrest⟩ :=
      ih ((wf.tryReceive id).releaseEnvelope e) hm' hq'.2.symm
    refine ⟨?_, items ++ items', errors ++ errors', hone.append hrest⟩
    have hreceipt : s.receipts (.tryReceive id) = [(id, e)] := by
      obtain ⟨m'', -, hreceive⟩ := tryReceive_of_queue hm hq
      rw [receipts, hreceive]
    calc s.received (clearing id (e :: es))
        = s.receipts (.tryReceive id) ++
            ((s.tryReceive id).2.releaseEnvelope e).2.received (clearing id es) := rfl
      _ = (e :: es).map (id, ·) := by rw [hreceipt, hreceived, List.singleton_append, List.map_cons]

end TaskSystem

end TaskMessaging
