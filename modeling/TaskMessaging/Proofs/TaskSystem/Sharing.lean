import TaskMessaging.Proofs.Pool.Item
import TaskMessaging.Proofs.TaskSystem.Escalation

/-!
# What the recipients of a broadcast hold

The recipients of an envelope that owns an item get an item each: copies of it, made one after the
other, and the last of them the item itself. A copy that meets a full mailbox goes back to its pool,
and the next copy may be made in the very same slot, in another generation. So the items that were
delivered are distinct although their slots were not when they were made, and each of them is equal
to the original.

From then on they have nothing to do with each other. Whatever is done to the system, an item stays
as it is until somebody uses its own handle.

## The invariant

Pools are seen through `Allocator.item?` alone. A fork adds copies to what is accessible, which is
`Multiplies`, and the last recipient disposes of the original. `Shares` says what comes of a walk
over the recipients, and the forks before a walk compose with it.
-/

namespace TaskMessaging

namespace Allocator

variable {a b c : Allocator} {g h : ItemHandle} {copies items : List ItemHandle}

/-- Some copies of an item were made. -/
structure Multiplies (a b : Allocator) (h : ItemHandle) (copies : List ItemHandle) : Prop where
  nodup : copies.Nodup
  pool : ∀ g ∈ copies, g.pool = h.pool
  unused : ∀ g ∈ copies, a.item? g = none
  items : ∀ k, b.item? k = if k ∈ copies then a.item? h else a.item? k

/-- Some handles give access to what one handle did, which is no longer accessible unless it is one
of them. -/
structure Shares (a b : Allocator) (h : ItemHandle) (items : List ItemHandle) : Prop where
  nodup : items.Nodup
  pool : ∀ g ∈ items, g.pool = h.pool
  unused : ∀ g ∈ items, g = h ∨ a.item? g = none
  equal : ∀ g ∈ items, b.item? g = a.item? h
  others : ∀ k, k ∉ items → b.item? k = if k = h then none else a.item? k

theorem multiplies_nil (hb : b.item? = a.item?) : Multiplies a b h [] where
  nodup := List.nodup_nil
  pool g hg := absurd hg List.not_mem_nil
  unused g hg := absurd hg List.not_mem_nil
  items k := by rw [hb, if_neg List.not_mem_nil]

theorem multiplies_duplicate (wf : a.WellFormed) (hd : a.duplicate h = (.ok g, b)) :
    Multiplies a b h [g] := by
  obtain ⟨-, hgain, hpool⟩ := gains_of_duplicate wf hd
  refine ⟨List.nodup_singleton g, ?_, ?_, ?_⟩
  · intro k hk
    rw [List.mem_singleton.mp hk, hpool]
  · intro k hk
    rw [List.mem_singleton.mp hk, item?_eq_none_iff]
    exact fun hl ↦ hgain.ne_of_live hl rfl
  · intro k
    rw [item?_duplicate wf hd, Function.update_apply]
    simp only [List.mem_singleton]

/-- The original is handed on. -/
theorem shares_self (a : Allocator) (h : ItemHandle) : Shares a a h [h] where
  nodup := List.nodup_singleton h
  pool g hg := by rw [List.mem_singleton.mp hg]
  unused g hg := Or.inl (List.mem_singleton.mp hg)
  equal g hg := by rw [List.mem_singleton.mp hg]
  others k hk := (if_neg fun he ↦ hk (List.mem_singleton.mpr he)).symm

/-- The original is given up. -/
theorem shares_nil (hb : b.item? = Function.update a.item? h none) : Shares a b h [] where
  nodup := List.nodup_nil
  pool g hg := absurd hg List.not_mem_nil
  unused g hg := absurd hg List.not_mem_nil
  equal g hg := absurd hg List.not_mem_nil
  others k _ := by rw [hb, Function.update_apply]

/-- **Copies that were made before** are among what the original is spread over. -/
theorem Multiplies.trans_shares (hm : Multiplies a b h copies) (hs : Shares b c h items)
    (hl : a.item? h ≠ none) : Shares a c h (copies ++ items) := by
  have hnot : h ∉ copies := fun hmem ↦ hl (hm.unused h hmem)
  have hkeep : b.item? h = a.item? h := by rw [hm.items, if_neg hnot]
  have hused (g : ItemHandle) (hg : g ∈ copies) : b.item? g ≠ none := by
    rw [hm.items, if_pos hg]
    exact hl
  refine ⟨?_, ?_, ?_, ?_, ?_⟩
  · refine List.nodup_append'.mpr ⟨hm.nodup, hs.nodup, ?_⟩
    -- A copy is accessible before the next ones are made, so it is none of them.
    intro g hg hg'
    rcases hs.unused g hg' with rfl | hnone
    · exact hnot hg
    · exact hused g hg hnone
  · intro g hg
    rcases List.mem_append.mp hg with hc | hi
    · exact hm.pool g hc
    · exact hs.pool g hi
  · intro g hg
    rcases List.mem_append.mp hg with hc | hi
    · exact Or.inr (hm.unused g hc)
    · refine (hs.unused g hi).imp_right fun hnone ↦ ?_
      have hnew : g ∉ copies := fun hc ↦ hused g hc hnone
      rwa [hm.items, if_neg hnew] at hnone
  · intro g hg
    by_cases hi : g ∈ items
    · rw [hs.equal g hi, hkeep]
    · have hc := (List.mem_append.mp hg).resolve_right hi
      have hne : g ≠ h := fun he ↦ hnot (he ▸ hc)
      rw [hs.others g hi, if_neg hne, hm.items, if_pos hc]
  · intro k hk
    rw [List.mem_append, not_or] at hk
    rw [hs.others k hk.2, hm.items, if_neg hk.1]

end Allocator

namespace Operation

/-- What an operation asks of the pools, if it is not a broadcast. -/
def poolOperation? : Operation → Option PoolOperation
  | .allocate size tags => some (.allocate size tags)
  | .free h releaseTag => some (.free h releaseTag)
  | .duplicate h => some (.duplicate h)
  | .write h offset bytes => some (.write h offset bytes)
  | .update h change => some (.update h change)
  | .setInfo h index value => some (.setInfo h index value)
  | .releasePayload kind p => p.handle?.map fun h ↦ .free h kind.number
  | .releaseEnvelope e => e.handle?.map fun h ↦ .free h e.kind.number
  | _ => none

/-- The handle whose item an operation may change or take back. A broadcast takes back what nobody
accepts. -/
def uses? : Operation → Option ItemHandle
  | .free h _ | .write h .. | .update h _ | .setInfo h .. => some h
  | .releasePayload _ p => p.handle?
  | .releaseEnvelope e | .broadcast e => e.handle?
  | _ => none

theorem uses?_of_poolOperation {op : Operation} {p : PoolOperation} {h : ItemHandle}
    (hp : op.poolOperation? = some p) (hu : p.uses? = some h) : op.uses? = some h := by
  cases op with
  | releasePayload kind payload =>
    obtain ⟨g, hg, rfl⟩ := Option.map_eq_some_iff.mp hp
    exact hg.trans hu
  | releaseEnvelope e =>
    obtain ⟨g, hg, rfl⟩ := Option.map_eq_some_iff.mp hp
    exact hg.trans hu
  | allocate | free | duplicate | write | update | setInfo =>
    obtain rfl := Option.some.inj hp
    exact hu
  | _ => cases hp

end Operation

/-! ## Broadcasts -/

namespace TaskSystem

variable {s : TaskSystem} {e : Envelope} {g h : ItemHandle} {x : Item} {target : TaskId}
  {targets : List TaskId} {op : Operation} {ops : List Operation}

/-- Releasing an envelope puts an end to the item that it owns. -/
theorem item?_discard (wf : s.allocator.WellFormed) (hs : e.handle? = some h)
    (hl : s.allocator.Live h) :
    (s.discard e).allocator.item? = Function.update s.allocator.item? h none := by
  obtain ⟨a, ha⟩ := (Allocator.exists_free_iff e.kind.number).mpr hl
  have hr := (Envelope.release_of_some hs s.allocator).trans ha
  rw [allocator_discard, (releaseEnvelope_of_ok hr).2.1]
  exact Allocator.item?_free wf ha

/-- The items that some deliveries hand over, if each of them hands one over. -/
def HandsOver (mail : List (TaskId × Envelope)) (items : List ItemHandle) : Prop :=
  mail.map (fun y ↦ y.2.handle?) = items.map some

/-- One fork is a copy that stays with its recipient, or none at all. -/
theorem multiplies_deliverFork (wf : s.WellFormed) (hs : e.handle? = some h) (target : TaskId) :
    ∃ copies, HandsOver (s.forkDelivery e target) copies ∧
      s.allocator.Multiplies (s.deliverFork e target).2.allocator h copies := by
  rw [deliverFork, forkDelivery, Envelope.fork_of_some hs]
  rcases hdup : s.allocator.duplicate h with ⟨err | copy, b⟩
  · exact ⟨[], rfl, Allocator.multiplies_nil (Allocator.item?_duplicate_of_error wf.allocator hdup)⟩
  · obtain ⟨-, hgain, -⟩ := Allocator.gains_of_duplicate wf.allocator hdup
    have hcopy := Envelope.handle?_copy hs (.task target) copy
    dsimp only
    set e' : Envelope := { e with destination := .task target, payload := .pooled copy }
    set s₀ : TaskSystem := { s with allocator := b }.note (e.forkNotes s.allocator)
    have hb : s₀.allocator = b := rfl
    cases ha : s₀.accepts target with
    | true =>
      refine ⟨[copy], ?_, ?_⟩
      · rw [HandsOver, delivery_of_accepts ha]
        exact congrArg (fun o ↦ [o]) hcopy
      · rw [allocator_deliverOrDiscard_of_accepts ha]
        exact Allocator.multiplies_duplicate wf.allocator hdup
    | false =>
      obtain ⟨-, -, s₁, hs₁, hd⟩ := deliverOrDiscard_of_not_accepts ha e'
      refine ⟨[], by rw [delivery_of_not_accepts ha]; rfl, Allocator.multiplies_nil ?_⟩
      -- What was made for this recipient is accessible no more.
      have hnone : s.allocator.item? copy = none :=
        Allocator.item?_eq_none_iff.mpr fun hl ↦ hgain.ne_of_live hl rfl
      have hlive : s₁.allocator.Live copy := by
        rw [hs₁, hb]
        exact (hgain.live_iff copy).mpr (Or.inl rfl)
      rw [hd, item?_discard (by rw [hs₁]; exact hgain.wellFormed) hcopy hlive, hs₁, hb,
        Allocator.item?_duplicate wf.allocator hdup, Function.update_idem, ← hnone,
        Function.update_eq_self]

/-- The last recipient gets the original, or it is given up. -/
theorem shares_deliverOrDiscard (wf : s.WellFormed) (hs : e.handle? = some h)
    (hl : s.allocator.Live h) (target : TaskId) :
    ∃ items, HandsOver (s.delivery target e) items ∧
      s.allocator.Shares (s.deliverOrDiscard target e).2.allocator h items := by
  cases ha : s.accepts target with
  | true =>
    refine ⟨[h], ?_, ?_⟩
    · rw [HandsOver, delivery_of_accepts ha]
      exact congrArg (fun o ↦ [o]) hs
    · rw [allocator_deliverOrDiscard_of_accepts ha]
      exact Allocator.shares_self _ _
  | false =>
    obtain ⟨-, -, s₁, hs₁, hd⟩ := deliverOrDiscard_of_not_accepts ha e
    refine ⟨[], by rw [delivery_of_not_accepts ha]; rfl, Allocator.shares_nil ?_⟩
    rw [hd, item?_discard (by rw [hs₁]; exact wf.allocator) hs (by rwa [hs₁]), hs₁]

/-- The whole walk, by induction on the recipients. -/
theorem shares_deliverAll (wf : s.WellFormed) (hs : e.handle? = some h) (hl : s.allocator.Live h)
    (hne : targets ≠ []) :
    ∃ items, HandsOver (s.deliveriesTo e targets) items ∧
      s.allocator.Shares (s.deliverAll e targets).2.allocator h items := by
  induction targets generalizing s with
  | nil => exact absurd rfl hne
  | cons target rest ih =>
    cases rest with
    | nil => exact shares_deliverOrDiscard (e := e.readdress target) wf hs hl target
    | cons next rest =>
      obtain ⟨copies, hmail, hm⟩ := multiplies_deliverFork wf hs target
      have hsome : s.allocator.item? h ≠ none := fun hn ↦ Allocator.item?_eq_none_iff.mp hn hl
      have hl' : (s.deliverFork e target).2.allocator.Live h := by
        obtain ⟨x, hx⟩ := hl.exists_item?
        apply Allocator.live_of_item? (x := x)
        rw [hm.items, if_neg fun hmem ↦ hsome (hm.unused h hmem), hx]
      obtain ⟨items, hrest, hshare⟩ := ih (wf.deliverFork e target) hl' (List.cons_ne_nil _ _)
      refine ⟨copies ++ items, ?_, hm.trans_shares hshare hsome⟩
      rw [HandsOver] at hmail hrest ⊢
      rw [deliveriesTo, List.map_append, hmail, hrest, List.map_append]

theorem shares_broadcast (wf : s.WellFormed) (hs : e.handle? = some h) (hl : s.allocator.Live h) :
    ∃ items, HandsOver (s.broadcastDeliveries e) items ∧
      s.allocator.Shares (s.broadcast e).2.allocator h items := by
  by_cases hn : s.recipients e.origin = []
  · refine ⟨[], by rw [broadcastDeliveries, hn]; rfl, Allocator.shares_nil ?_⟩
    rw [(broadcast_of_no_recipients hn).2.2]
    exact item?_discard (s := s.note [noteNoRecipients e]) wf.allocator hs hl
  · rw [(broadcast_of_recipients hn).2.2]
    exact shares_deliverAll wf hs hl hn

/-! ## The pools under an operation -/

theorem allocator_joinThreads (s : TaskSystem) (current : Option TaskId) (tasks : List Task) :
    (s.joinThreads current tasks).2.allocator = s.allocator := by
  induction tasks generalizing s with
  | nil => rfl
  | cons t ts ih =>
    rw [joinThreads]
    split
    · exact ih s
    · split
      · exact ih _
      · split
        · exact ih _
        · exact ih _

theorem allocator_access (s : TaskSystem) (h : ItemHandle) (r : Except PoolError Allocator) :
    (s.access h r).2.allocator = (s.allocator.change r).2 := by
  cases r <;> rfl

theorem allocator_free (s : TaskSystem) (h : ItemHandle) (releaseTag : UInt16) :
    (s.free h releaseTag).2.allocator = (s.allocator.perform (.free h releaseTag)).2 := by
  rw [free, Allocator.perform]
  cases s.allocator.free h releaseTag with
  | ok a => rfl
  | error err => exact allocator_escalate _ _

/-- **An operation does to the pools what it asks of them**, and nothing else. -/
theorem allocator_perform (s : TaskSystem) (op : Operation) (hop : ∀ e, op ≠ .broadcast e) :
    (s.perform op).2.allocator =
      (op.poolOperation?.map fun p ↦ (s.allocator.perform p).2).getD s.allocator := by
  cases op with
  | register id name => exact allocator_registerTask s id name
  | spawn id name =>
    exact (escalated_spawnTask s id name).2.trans (allocator_registerTask s id name)
  | unregister id =>
    rw [perform, unregisterTask]
    split <;> rfl
  | lookup id =>
    rw [perform, lookup]
    split <;> rfl
  | waitTasksEnd current => exact allocator_joinThreads s current _
  | allocate size tags =>
    rw [perform, allocate]
    split
    · next hr => simp [Operation.poolOperation?, Allocator.perform, hr]
    · next hr => simp [Operation.poolOperation?, Allocator.perform, hr]
  | free h releaseTag => exact allocator_free s h releaseTag
  | write h offset bytes => exact allocator_access s h _
  | update h change => exact allocator_access s h _
  | setInfo h index value => exact allocator_access s h _
  | releasePayload kind p =>
    rw [perform, releasePayload]
    cases p with
    | pooled h =>
      simp only [Operation.poolOperation?, Payload.handle?, Option.map_some, Option.getD_some,
        Allocator.perform, Payload.release]
      cases s.allocator.free h kind.number <;> rfl
    | _ => rfl
  | releaseEnvelope e =>
    rw [perform, releaseEnvelope, Operation.poolOperation?]
    cases hs : e.handle? with
    | none =>
      rw [Envelope.release_of_none hs]
      rfl
    | some h =>
      rw [Envelope.release_of_some hs, Option.map_some, Option.map_some, Option.getD_some,
        Allocator.perform]
      cases s.allocator.free h e.kind.number with
      | ok a => rfl
      | error err => exact allocator_escalate _ _
  | send e =>
    rw [perform, send]
    split
    · exact allocator_deliver s _ e
    · rfl
  | broadcast e => exact absurd rfl (hop e)
  | terminateTasks origin =>
    exact allocator_broadcast_of_not_live
      (s := { s with terminating := true }.note [noteTerminating origin])
      (e := .owning .terminate origin .broadcast .empty) (by rintro _ ⟨⟩)
  | tryReceive id =>
    rw [perform, tryReceive, lookup]
    cases s.registry.find? id with
    | none => rfl
    | some t =>
      dsimp only
      cases t.mailbox.dequeue? <;> rfl
  | requestShutdown =>
    rw [perform, requestShutdown]
    split <;> rfl
  | recordPanic | duplicate | read | drainTap | report => rfl

/-- **A live item stays as it is** under any operation that does not use it. -/
theorem WellFormed.item?_perform (wf : s.WellFormed) (hx : s.allocator.item? g = some x)
    (hu : op.uses? ≠ some g) : (s.perform op).2.allocator.item? g = some x := by
  by_cases hop : ∀ e, op ≠ .broadcast e
  · rw [allocator_perform s op hop]
    cases hp : op.poolOperation? with
    | none => exact hx
    | some p =>
      refine Allocator.item?_perform_of_uses wf.allocator hx p fun hpu ↦ hu ?_
      exact Operation.uses?_of_poolOperation hp hpu
  · obtain ⟨e, rfl⟩ : ∃ e, op = .broadcast e := by simpa using hop
    change e.handle? ≠ some g at hu
    change (s.broadcast e).2.allocator.item? g = some x
    by_cases hlive : ∃ h, e.handle? = some h ∧ s.allocator.Live h
    · obtain ⟨h, hs, hl⟩ := hlive
      obtain ⟨items, -, hshare⟩ := shares_broadcast wf hs hl
      have hne : g ≠ h := fun he ↦ hu (he ▸ hs)
      -- What was handed out for the recipients was not accessible before.
      have hnot : g ∉ items := by
        intro hmem
        rcases hshare.unused g hmem with he | hnone
        · exact hne he
        · rw [hnone] at hx
          cases hx
      rw [hshare.others g hnot, if_neg hne, hx]
    · rw [allocator_broadcast_of_not_live fun h hs hl ↦ hlive ⟨h, hs, hl⟩, hx]

theorem WellFormed.item?_run (wf : s.WellFormed) (hx : s.allocator.item? g = some x)
    (hu : ∀ op ∈ ops, op.uses? ≠ some g) : (s.run ops).allocator.item? g = some x := by
  induction ops generalizing s with
  | nil => exact hx
  | cons op ops ih =>
    refine ih (wf.perform op) (wf.item?_perform hx (hu op List.mem_cons_self)) ?_
    exact fun op' hop' ↦ hu op' (List.mem_cons_of_mem op hop')

/-! ## Borrowed envelopes -/

theorem payload_of_mem_forkDelivery (hb : e.ownsPayload = false) {y : TaskId × Envelope}
    (hy : y ∈ s.forkDelivery e target) : y.2.payload = e.payload := by
  rw [forkDelivery, Envelope.fork, hb, if_neg Bool.false_ne_true] at hy
  rw [eq_of_mem_delivery hy]
  rfl

/-- All recipients of a borrowed envelope are pointed to the same payload. -/
theorem payload_of_mem_deliveriesTo (hb : e.ownsPayload = false) {y : TaskId × Envelope}
    (hy : y ∈ s.deliveriesTo e targets) : y.2.payload = e.payload := by
  induction targets generalizing s with
  | nil => exact absurd hy List.not_mem_nil
  | cons target rest ih =>
    cases rest with
    | nil =>
      rw [eq_of_mem_delivery hy]
      rfl
    | cons next rest =>
      rw [deliveriesTo, List.mem_append] at hy
      exact hy.elim (payload_of_mem_forkDelivery hb) ih

/-- Envelopes that own no item may be released anywhere. -/
theorem allocator_run_releaseEnvelope (s : TaskSystem) {received : List Envelope}
    (hn : ∀ e ∈ received, e.handle? = none) :
    (s.run (received.map .releaseEnvelope)).allocator = s.allocator := by
  induction received generalizing s with
  | nil => rfl
  | cons e rest ih =>
    have hstep := allocator_perform s (.releaseEnvelope e) (by rintro _ ⟨⟩)
    rw [Operation.poolOperation?, hn e List.mem_cons_self] at hstep
    exact (ih _ fun e' he' ↦ hn e' (List.mem_cons_of_mem e he')).trans hstep

/-! ## The law -/

/-- What the recipients of an envelope hold that owned the item `x` under the handle `h`. -/
structure OwnItems (s : TaskSystem) (e : Envelope) (h : ItemHandle) (x : Item) (s' : TaskSystem)
    (items : List ItemHandle) : Prop where
  /-- Each envelope that was delivered owns an item, and waits for its recipient. -/
  handsOver : HandsOver (s.broadcastDeliveries e) items
  passes : ∀ id, Passes s s' id [] (mailFor id (s.broadcastDeliveries e))
  nodup : items.Nodup
  pool : ∀ g ∈ items, g.pool = h.pool
  /-- One of the items may be the original, and the others are new. -/
  unused : ∀ g ∈ items, g = h ∨ ¬ s.allocator.Live g
  equal : ∀ g ∈ items, s'.allocator.item? g = some x
  /-- The original is gone if nobody got it, and everything else is accessible as before. -/
  others : ∀ k, k ∉ items →
    s'.allocator.item? k = if k = h then none else s.allocator.item? k
  /-- Whatever is done by way of other handles, an item stays live and as it is. -/
  independent : ∀ g ∈ items, ∀ ops : List Operation, (∀ op ∈ ops, op.uses? ≠ some g) →
    (s'.run ops).allocator.item? g = some x

/-- What the recipients of an envelope hold that owned nothing. -/
structure Borrow (s : TaskSystem) (e : Envelope) (s' : TaskSystem) : Prop where
  shared : ∀ y ∈ s.broadcastDeliveries e, y.2.payload = e.payload ∧ y.2.ownsPayload = false
  passes : ∀ id, Passes s s' id [] (mailFor id (s.broadcastDeliveries e))
  allocator : s'.allocator = s.allocator
  /-- Recipients may release what they received, at any time and as often as they want. -/
  released : ∀ (t : TaskSystem) (received : List Envelope),
    (∀ e' ∈ received, ∃ id, (id, e') ∈ s.broadcastDeliveries e) →
    (t.run (received.map .releaseEnvelope)).allocator = t.allocator

/-- What broadcasts come to for their recipients. -/
structure SharingLaw (s : TaskSystem) : Prop where
  owning : ∀ e h x, e.handle? = some h → s.allocator.item? h = some x →
    ∃ items, OwnItems s e h x (s.broadcast e).2 items
  borrowed : ∀ e, e.ownsPayload = false → Borrow s e (s.broadcast e).2

/-- **The law of sharing.** In every reachable state, the recipients of a broadcast own equal items
that have nothing to do with each other, or borrow one item together. -/
theorem Reachable.sharing_law (r : s.Reachable) : SharingLaw s := by
  have wf := r.wellFormed
  constructor
  · intro e h x hs hx
    obtain ⟨items, hmail, hshare⟩ := shares_broadcast wf hs (Allocator.live_of_item? hx)
    have hequal (g : ItemHandle) (hg : g ∈ items) :
        (s.broadcast e).2.allocator.item? g = some x := (hshare.equal g hg).trans hx
    refine ⟨items, hmail, passes_broadcast s e, hshare.nodup, hshare.pool, ?_, hequal,
      hshare.others, ?_⟩
    · intro g hg
      exact (hshare.unused g hg).imp_right Allocator.item?_eq_none_iff.mp
    · intro g hg ops hu
      exact (wf.broadcast e).item?_run (hequal g hg) hu
  · intro e hb
    have howns (y : TaskId × Envelope) (hy : y ∈ s.broadcastDeliveries e) :
        y.2.ownsPayload = false := (copyFor_of_mem_deliveriesTo hy).ownsPayload.trans hb
    refine ⟨fun y hy ↦ ⟨payload_of_mem_deliveriesTo hb hy, howns y hy⟩, passes_broadcast s e,
      ?_, ?_⟩
    · refine allocator_broadcast_of_not_live fun h hs ↦ ?_
      rw [Envelope.handle?_of_borrowed hb] at hs
      cases hs
    · intro t received hall
      refine allocator_run_releaseEnvelope t fun e' he' ↦ ?_
      obtain ⟨id, hmem⟩ := hall e' he'
      exact Envelope.handle?_of_borrowed (howns _ hmem)

/-- Three tasks beside a pool of two items, one of which is in use, and an envelope that waits in
the mailbox of the first task. -/
def waitingRun : List Operation :=
  [.register ⟨1⟩ "first", .register ⟨2⟩ "second", .register ⟨3⟩ "third", .allocate 2 ⟨4, 5⟩,
    .write ⟨7, 0, 0, 1⟩ 0 [8, 9], .send (.owning ⟨9⟩ ⟨2⟩ (.task ⟨1⟩) .empty)]

/-- The copy for the full mailbox makes way for the next one, which comes from the same slot. -/
theorem sharing_law_waitingRun :
    ∃ s : TaskSystem, build ((Allocator.create 7 1).declareAll [(2, 2)])
        ⟨1, .report, .builtin, false, false⟩ = .ok s ∧
      let t := s.run waitingRun
      let e : Envelope := .owning ⟨9⟩ ⟨4⟩ .broadcast (.pooled ⟨7, 0, 0, 1⟩)
      SharingLaw t ∧ t.allocator.item? ⟨7, 0, 0, 1⟩ = some ⟨[8, 9], ⟨4, 5⟩⟩ ∧
        HandsOver (t.broadcastDeliveries e) [⟨7, 0, 1, 2⟩, ⟨7, 0, 0, 1⟩] ∧
        (t.broadcast e).2.allocator.item? ⟨7, 0, 1, 2⟩ = some ⟨[8, 9], ⟨4, 5⟩⟩ := by
  have hpools := (Allocator.Reachable.create 7 1).declareAll [(2, 2)]
  refine ⟨_, rfl, Reachable.sharing_law (.run (@Reachable.build _
    ⟨1, .report, .builtin, false, false⟩ _ hpools rfl) waitingRun), ?_, ?_, ?_⟩
  · decide
  · unfold HandsOver
    decide
  · decide

end TaskSystem

end TaskMessaging
