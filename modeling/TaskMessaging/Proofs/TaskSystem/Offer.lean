import TaskMessaging.Proofs.TaskSystem.Broadcast

/-!
# Offering envelopes

A mailbox that is offered envelopes takes as many as it has room for, and what it refuses is no
concern of the other mailboxes. For envelopes that carry no item this is all there is to sending and
broadcasting them: `Registry.offered` says for all tasks at once what becomes of their mailboxes,
given what each task is offered, and the pools are not involved, neither by the copies for the
recipients nor by what could not be delivered.

Such operations are *plain*. Offers add up, so a run of plain operations offers every task what its
operations offer it, one after the other.
-/

namespace TaskMessaging

namespace Mailbox

/-- The mailbox behind an attempt to enqueue an envelope. -/
def offered (m : Mailbox) (e : Envelope) : Mailbox := (m.enqueue? e).getD m

/-- The mailbox behind attempts to enqueue envelopes, one after the other. -/
def offerAll (m : Mailbox) (es : List Envelope) : Mailbox := es.foldl offered m

theorem offered_spec (m : Mailbox) (e : Envelope) :
    (m.offered e).capacity = m.capacity ∧ (m.offered e).room = m.room - 1 ∧
      (m.offered e).queue = m.queue ++ [e].take m.room := by
  rw [offered, enqueue?]
  split
  · next h => simp [h]
  · next room h => simp [h, queue]

/-- **A mailbox takes the first envelopes**, as many as it has room for. -/
theorem offerAll_spec (m : Mailbox) (es : List Envelope) :
    (m.offerAll es).capacity = m.capacity ∧ (m.offerAll es).queue = m.queue ++ es.take m.room := by
  induction es generalizing m with
  | nil => exact ⟨rfl, by rw [List.take_nil, List.append_nil]; rfl⟩
  | cons e es ih =>
    obtain ⟨hcap, hroom, hqueue⟩ := m.offered_spec e
    obtain ⟨hcaps, hqueues⟩ := ih (m.offered e)
    refine ⟨hcaps.trans hcap, ?_⟩
    change ((m.offered e).offerAll es).queue = _
    rw [hqueues, hqueue, hroom, List.append_assoc]
    cases m.room with
    | zero => rfl
    | succ room => simp

theorem offerAll_append (m : Mailbox) (es fs : List Envelope) :
    m.offerAll (es ++ fs) = (m.offerAll es).offerAll fs :=
  List.foldl_append

end Mailbox

namespace Registry

variable {r : Registry} {id : TaskId} {mail others : TaskId → List Envelope}

/-- All mailboxes behind attempts to enqueue what the tasks are offered. -/
def offered (r : Registry) (mail : TaskId → List Envelope) : Registry :=
  { r with tasks := r.tasks.map fun t ↦ { t with mailbox := t.mailbox.offerAll (mail t.id) } }

theorem ids_offered (r : Registry) (mail : TaskId → List Envelope) :
    (r.offered mail).ids = r.ids := by
  rw [ids, offered, List.map_map]
  rfl

theorem find?_offered (r : Registry) (mail : TaskId → List Envelope) (id : TaskId) :
    (r.offered mail).find? id =
      (r.find? id).map fun t ↦ { t with mailbox := t.mailbox.offerAll (mail t.id) } := by
  rw [find?, offered, List.find?_map]
  rfl

/-- Only what is offered to the registered tasks matters. -/
theorem offered_congr (h : ∀ id ∈ r.ids, mail id = others id) :
    r.offered mail = r.offered others := by
  rw [offered, offered]
  refine congrArg (Registry.mk · r.mailboxCapacity) (List.map_congr_left fun t ht ↦ ?_)
  rw [h t.id (List.mem_map_of_mem ht)]

theorem offered_nothing (r : Registry) : r.offered (fun _ ↦ []) = r := by
  rw [offered]
  exact congrArg (Registry.mk · r.mailboxCapacity) (List.map_id r.tasks)

theorem offered_offered (r : Registry) (mail others : TaskId → List Envelope) :
    (r.offered mail).offered others = r.offered fun id ↦ mail id ++ others id := by
  rw [offered, offered, offered, List.map_map]
  refine congrArg (Registry.mk · r.mailboxCapacity) (List.map_congr_left fun t _ ↦ ?_)
  rw [Mailbox.offerAll_append]
  rfl

/-- Enqueueing an envelope for one task, or failing to, is offering it to that task. -/
theorem WellFormed.setMailbox_offered (wf : r.WellFormed) {t : Task} (h : r.find? id = some t)
    (e : Envelope) :
    r.setMailbox id (t.mailbox.offered e) = r.offered fun j ↦ if j = id then [e] else [] := by
  obtain ⟨ht, hid⟩ := find?_eq_some h
  rw [setMailbox, update, offered]
  refine congrArg (Registry.mk · r.mailboxCapacity) (List.map_congr_left fun u hu ↦ ?_)
  by_cases hj : u.id = id
  · obtain rfl : u = t := List.inj_on_of_nodup_map wf.nodup_ids hu ht (hj.trans hid.symm)
    rw [if_pos hj, if_pos hj]
    rfl
  · rw [if_neg hj, if_neg hj]
    rfl

theorem WellFormed.setMailbox_self (wf : r.WellFormed) {t : Task} (h : r.find? id = some t) :
    r.setMailbox id t.mailbox = r := by
  obtain ⟨before, after, htasks, hset⟩ := wf.exists_split h
  exact congrArg (Registry.mk · r.mailboxCapacity) ((hset t.mailbox).trans htasks.symm)

end Registry

/-- What an operation offers a task. -/
def Operation.offers : Operation → TaskId → List Envelope
  | .send e, id => if e.destination = .task id then [e] else []
  | .broadcast e, id => if id = e.origin then [] else [e.readdress id]
  | .terminateTasks origin, id =>
    if id = origin then [] else [.owning .terminate origin (.task id) .empty]
  | _, _ => []

/-- No item is involved: the pools are left alone by the operation and by everything that can go
wrong with it. -/
def Operation.IsPlain : Operation → Prop
  | .send e | .broadcast e | .releaseEnvelope e => e.handle? = none
  | .terminateTasks _ | .requestShutdown | .report _ => True
  | _ => False

namespace TaskSystem

variable {s s' s'' : TaskSystem} {e : Envelope} {target : TaskId}
  {mail others : TaskId → List Envelope}

/-- The tasks were offered envelopes, and the pools are as they were. -/
structure Offers (s s' : TaskSystem) (mail : TaskId → List Envelope) : Prop where
  allocator : s'.allocator = s.allocator
  registry : s'.registry = s.registry.offered mail

namespace Offers

theorem nothing (ha : s'.allocator = s.allocator) (hr : s'.registry = s.registry) :
    Offers s s' fun _ ↦ [] :=
  ⟨ha, hr.trans s.registry.offered_nothing.symm⟩

theorem trans (h : Offers s s' mail) (h' : Offers s' s'' others) :
    Offers s s'' fun id ↦ mail id ++ others id :=
  ⟨h'.allocator.trans h.allocator, by rw [h'.registry, h.registry, Registry.offered_offered]⟩

/-- Only what is offered to the registered tasks matters. -/
theorem congr (h : Offers s s' mail) (hmail : ∀ id ∈ s.registry.ids, mail id = others id) :
    Offers s s' others :=
  ⟨h.allocator, h.registry.trans (Registry.offered_congr hmail)⟩

/-- Only pools and registry matter, before and after. -/
theorem of_same {t t' : TaskSystem} (h : Offers s s' mail) (ha : t.allocator = s.allocator)
    (hr : t.registry = s.registry) (ha' : t'.allocator = s'.allocator)
    (hr' : t'.registry = s'.registry) : Offers t t' mail :=
  ⟨by rw [ha', ha, h.allocator], by rw [hr', hr, h.registry]⟩

theorem wellFormed (h : Offers s s' mail) (wf : s.WellFormed) : s'.WellFormed :=
  wf.of_ids (h.allocator ▸ wf.allocator) (by rw [h.registry, Registry.ids_offered])

end Offers

/-! ## One operation -/

theorem registry_deliver (wf : s.registry.WellFormed) (target : TaskId) (e : Envelope) :
    (s.deliver target e).2.registry =
      s.registry.offered fun id ↦ if id = target then [e] else [] := by
  rw [deliver]
  dsimp only
  cases hf : s.registry.find? target with
  | none =>
    -- Nobody is called like the target, so nobody is offered anything.
    refine s.registry.offered_nothing.symm.trans (Registry.offered_congr fun id hid ↦ ?_)
    refine (if_neg ?_).symm
    rintro rfl
    obtain ⟨t, ht⟩ := Registry.exists_find?_of_mem_ids hid
    rw [hf] at ht
    cases ht
  | some t =>
    rw [← wf.setMailbox_offered hf, Mailbox.offered]
    dsimp only
    cases hm : t.mailbox.enqueue? e with
    | some m => exact registry_tapDelivery _ target e
    | none => exact (wf.setMailbox_self hf).symm

theorem offers_deliverOrDiscard (wf : s.WellFormed) (hn : e.handle? = none) (target : TaskId) :
    Offers s (s.deliverOrDiscard target (e.readdress target)).2 fun id ↦
      if id = target then [e.readdress id] else [] := by
  have hcopy : ∀ h, (e.readdress target).handle? = some h → ¬ s.allocator.Live h := by simp [hn]
  have hr : (s.deliverOrDiscard target (e.readdress target)).2.registry =
      (s.deliver target (e.readdress target)).2.registry := by
    rw [deliverOrDiscard]
    rcases s.deliver target (e.readdress target) with ⟨err | _, s₁⟩
    · exact registry_discard s₁ err.envelope
    · rfl
  refine ⟨allocator_deliverOrDiscard_of_not_live hcopy target, ?_⟩
  rw [hr, registry_deliver wf.registry]
  refine Registry.offered_congr fun id _ ↦ ?_
  by_cases hid : id = target
  · rw [if_pos hid, if_pos hid, hid]
  · rw [if_neg hid, if_neg hid]

theorem offers_deliverFork (wf : s.WellFormed) (hn : e.handle? = none) (target : TaskId) :
    Offers s (s.deliverFork e target).2 fun id ↦ if id = target then [e.readdress id] else [] := by
  have wf' : ({ s with allocator := s.allocator }.note (e.forkNotes s.allocator)).WellFormed :=
    ⟨wf.allocator, wf.registry⟩
  rw [deliverFork, Envelope.fork_of_none hn]
  exact (offers_deliverOrDiscard wf' hn target).of_same rfl rfl rfl rfl

/-- The recipients are all different, so each of them is offered the envelope once. -/
theorem offers_deliverAll (wf : s.WellFormed) (hn : e.handle? = none) {targets : List TaskId}
    (hnodup : targets.Nodup) :
    Offers s (s.deliverAll e targets).2 fun id ↦ if id ∈ targets then [e.readdress id] else [] := by
  induction targets generalizing s with
  | nil => exact .nothing rfl rfl
  | cons target rest ih =>
    obtain ⟨hnew, hrest⟩ := List.nodup_cons.mp hnodup
    cases rest with
    | nil =>
      refine (offers_deliverOrDiscard wf hn target).congr fun id _ ↦ ?_
      simp only [List.mem_singleton]
    | cons next rest =>
      have hfirst := offers_deliverFork wf hn target
      refine (hfirst.trans (ih (hfirst.wellFormed wf) hrest)).congr fun id _ ↦ ?_
      by_cases hid : id = target
      · rw [if_pos hid, if_neg (hid ▸ hnew), if_pos (hid ▸ List.mem_cons_self), List.append_nil]
      · simp only [hid, if_false, List.nil_append, List.mem_cons (b := target), false_or]

theorem offers_broadcast (wf : s.WellFormed) (hn : e.handle? = none) :
    Offers s (s.broadcast e).2 (Operation.broadcast e).offers := by
  have hwalk : (s.broadcast e).2.registry =
      (s.deliverAll e (s.recipients e.origin)).2.registry := by
    by_cases hnone : s.recipients e.origin = []
    · rw [(broadcast_of_no_recipients hnone).2.1, hnone]
      rfl
    · exact (broadcast_of_recipients hnone).2.1
  have hnodup : (s.recipients e.origin).Nodup := wf.registry.nodup_ids.filter _
  refine ⟨allocator_broadcast_of_not_live (by simp [hn]), ?_⟩
  rw [hwalk, (offers_deliverAll wf hn hnodup).registry]
  refine Registry.offered_congr fun id hid ↦ ?_
  rw [Operation.offers, recipients]
  by_cases horigin : id = e.origin
  · rw [if_pos horigin, if_neg (by simp [horigin])]
  · rw [if_neg horigin, if_pos (List.mem_filter.mpr ⟨hid, decide_eq_true horigin⟩)]

/-- **A plain operation offers envelopes to tasks**, and that is all. -/
theorem offers_perform (wf : s.WellFormed) {op : Operation} (h : op.IsPlain) :
    Offers s (s.perform op).2 op.offers := by
  cases op with
  | send e =>
    change Offers s (s.send e).2 fun id ↦ if e.destination = .task id then [e] else []
    rw [send]
    cases e.destination with
    | broadcast => exact .nothing rfl rfl
    | task target =>
      refine ⟨allocator_deliver s target e, (registry_deliver wf.registry target e).trans ?_⟩
      refine Registry.offered_congr fun id _ ↦ ?_
      simp only [Destination.task.injEq, eq_comm]
  | broadcast e => exact offers_broadcast wf h
  | terminateTasks origin =>
    have wf' : ({ s with terminating := true }.note [noteTerminating origin]).WellFormed :=
      ⟨wf.allocator, wf.registry⟩
    exact (offers_broadcast (e := .owning .terminate origin .broadcast .empty) wf' rfl).of_same
      rfl rfl rfl rfl
  | releaseEnvelope e =>
    have hr := releaseEnvelope_of_ok (Envelope.release_of_none h s.allocator)
    exact .nothing hr.2.1 (registry_releaseEnvelope s e)
  | requestShutdown =>
    change Offers s s.requestShutdown _
    rw [requestShutdown]
    split
    · exact .nothing rfl rfl
    · exact .nothing rfl rfl
  | report entries => exact .nothing rfl rfl
  | _ => exact h.elim

/-- **A run of plain operations** offers every task what its operations offer it. -/
theorem offers_run (wf : s.WellFormed) {ops : List Operation} (h : ∀ op ∈ ops, op.IsPlain) :
    Offers s (s.run ops) fun id ↦ ops.flatMap (·.offers id) := by
  induction ops generalizing s with
  | nil => exact .nothing rfl rfl
  | cons op ops ih =>
    obtain ⟨hop, hops⟩ := List.forall_mem_cons.mp h
    have hfirst := offers_perform wf hop
    exact hfirst.trans (ih (hfirst.wellFormed wf) hops)

end TaskSystem

end TaskMessaging
