import TaskMessaging.Proofs.TaskSystem.Operation

/-!
# Balanced systems

Every item that is handed out is either held outside the system or waits in a mailbox, inside an
envelope that owns it. A system is *balanced* for a list of items held outside if that list and the
items that wait are together an account of its pools.

Each operation turns a balanced system into a balanced one: what its caller gives up is struck from
the list, and what its answer hands out is added to it. The branches of a broadcast are no
exception. A copy that cannot be made takes nothing, a copy that meets a full mailbox is released,
and the envelope itself ends in the mailbox of the last recipient or is released as well.
-/

namespace TaskMessaging

/-- The items that wait in a mailbox. -/
def Mailbox.items (m : Mailbox) : List ItemHandle := m.queue.filterMap Envelope.handle?

theorem filterMap_handle?_singleton (e : Envelope) :
    [e].filterMap Envelope.handle? = e.handle?.toList := by
  cases h : e.handle? with
  | none => simp [h]
  | some g => simp [h]

/-- The items that wait in the mailboxes of a registry. -/
def Registry.items (r : Registry) : List ItemHandle := r.tasks.flatMap fun t ↦ t.mailbox.items

namespace Registry

variable {r q : Registry} {id : TaskId} {t : Task}

theorem WellFormed.items_setMailbox (wf : r.WellFormed) (h : r.find? id = some t) :
    ∃ rest : List ItemHandle, r.items.Perm (t.mailbox.items ++ rest) ∧
      ∀ m : Mailbox, (r.setMailbox id m).items.Perm (m.items ++ rest) := by
  obtain ⟨before, after, hsplit, hset⟩ := wf.exists_split h
  refine ⟨before.flatMap (fun t ↦ t.mailbox.items) ++ after.flatMap fun t ↦ t.mailbox.items,
    ?_, ?_⟩
  · rw [items, hsplit, List.flatMap_append, List.flatMap_cons]
    exact List.perm_append_comm_assoc _ _ _
  · intro m
    rw [items, hset, List.flatMap_append, List.flatMap_cons]
    exact List.perm_append_comm_assoc _ _ _

/-- An envelope that is enqueued brings its item along. -/
theorem WellFormed.items_enqueue (wf : r.WellFormed) (h : r.find? id = some t) {e : Envelope}
    {m : Mailbox} (hm : t.mailbox.enqueue? e = some m) :
    (r.setMailbox id m).items.Perm (e.handle?.toList ++ r.items) := by
  obtain ⟨rest, hold, hnew⟩ := wf.items_setMailbox h
  obtain ⟨-, -, hqueue⟩ := Mailbox.enqueue?_eq_some.mp hm
  refine (hnew m).trans ?_
  rw [Mailbox.items, hqueue, List.filterMap_append, filterMap_handle?_singleton]
  refine (List.perm_append_comm.append_right rest).trans ?_
  rw [List.append_assoc]
  exact hold.symm.append_left _

/-- An envelope that is dequeued takes its item along. -/
theorem WellFormed.items_dequeue (wf : r.WellFormed) (h : r.find? id = some t) {e : Envelope}
    {m : Mailbox} (hm : t.mailbox.dequeue? = some (e, m)) :
    r.items.Perm (e.handle?.toList ++ (r.setMailbox id m).items) := by
  obtain ⟨rest, hold, hnew⟩ := wf.items_setMailbox h
  obtain ⟨hqueue, -⟩ := Mailbox.dequeue?_eq_some.mp hm
  refine hold.trans ?_
  rw [Mailbox.items, hqueue, ← List.singleton_append, List.filterMap_append,
    filterMap_handle?_singleton, List.append_assoc]
  exact (hnew m).symm.append_left _

/-- A change that leaves the mailboxes alone. -/
theorem items_update {f : Task → Task} (hf : ∀ t, (f t).mailbox = t.mailbox) :
    (r.update id f).items = r.items := by
  rw [items, update, items, List.flatMap_map]
  congr 1
  funext t
  by_cases ht : t.id = id
  · rw [if_pos ht, hf]
  · rw [if_neg ht]

theorem perm_insertTask (t : Task) (ts : List Task) : (insertTask t ts).Perm (t :: ts) := by
  induction ts with
  | nil => exact List.Perm.refl _
  | cons u us ih =>
    rw [insertTask]
    split
    · exact List.Perm.refl _
    · exact (ih.cons u).trans (List.Perm.swap t u us)

/-- Registering is refused for the sake of the registry, never for that of the pools. -/
theorem ne_pool_of_register {name : String} {err : TaskError}
    (h : r.register id name = .error err) (e : PoolError) : err ≠ .pool e := by
  rw [register] at h
  split at h
  · obtain rfl := Except.error.inj h
    intro he
    cases he
  · split at h
    · obtain rfl := Except.error.inj h
      intro he
      cases he
    · cases h

theorem items_register {name : String} (h : r.register id name = .ok (t, q)) :
    q.items.Perm r.items := by
  obtain ⟨-, -, rfl, rfl⟩ := register_eq_ok h
  refine ((perm_insertTask _ r.tasks).flatMap_right _).trans ?_
  rw [List.flatMap_cons]
  exact List.Perm.refl _

end Registry

namespace TaskSystem

variable {s s' : TaskSystem} {e : Envelope} {target id : TaskId} {h : ItemHandle}
  {held : List ItemHandle}

/-- The items held outside and those that wait in mailboxes account for the pools, and no error of
the pools was ever escalated. -/
structure Balanced (s : TaskSystem) (held : List ItemHandle) : Prop where
  wellFormed : s.WellFormed
  accounts : s.allocator.Accounts (held ++ s.registry.items)
  sound : ∀ err, TaskError.pool err ∉ s.escalated

theorem mem_of_mem_escalate {err other : TaskError} (hm : err ∈ (s.escalate other).escalated)
    (hne : other ≠ err) : err ∈ s.escalated := by
  rw [escalate] at hm
  split at hm
  · rcases List.mem_append.mp hm with hold | hnew
    · exact hold
    · exact absurd (List.mem_singleton.mp hnew).symm hne
  · exact hm

namespace Balanced

theorem perm (hb : Balanced s held) {others : List ItemHandle} (hp : held.Perm others) :
    Balanced s others :=
  ⟨hb.wellFormed, hb.accounts.perm (hp.append_right _), hb.sound⟩

/-- What is held is live. -/
theorem live (hb : Balanced s held) (hh : h ∈ held) : s.allocator.Live h :=
  hb.accounts.live (List.mem_append_left _ hh)

theorem live_of_handle? (hb : Balanced s (e.handle?.toList ++ held)) (hs : e.handle? = some h) :
    s.allocator.Live h :=
  hb.live (List.mem_append_left _ (by rw [hs]; exact List.mem_singleton.mpr rfl))

/-- A step that hands out nothing and moves nothing into a mailbox or out of one. -/
theorem of_keeps (hb : Balanced s held) (wf : s'.WellFormed)
    (hk : s.allocator.Keeps s'.allocator) (hi : s'.registry.items.Perm s.registry.items)
    (hs : ∀ err, TaskError.pool err ∈ s'.escalated → TaskError.pool err ∈ s.escalated) :
    Balanced s' held :=
  ⟨wf, (hb.accounts.keep hk).perm (hi.symm.append_left held), fun err hmem ↦
    hb.sound err (hs err hmem)⟩

/-- A step that the pools do not notice. -/
theorem of_same (hb : Balanced s held) (wf : s'.WellFormed) (ha : s'.allocator = s.allocator)
    (hi : s'.registry.items.Perm s.registry.items)
    (hs : ∀ err, TaskError.pool err ∈ s'.escalated → TaskError.pool err ∈ s.escalated) :
    Balanced s' held :=
  hb.of_keeps wf (by rw [ha]; exact .refl hb.wellFormed.allocator) hi hs

theorem note (hb : Balanced s held) (entries : Journal) : Balanced (s.note entries) held :=
  ⟨⟨hb.wellFormed.allocator, hb.wellFormed.registry⟩, hb.accounts, hb.sound⟩

/-! ### Deliveries -/

theorem deliver_of_accepts (hb : Balanced s (e.handle?.toList ++ held))
    (ha : s.accepts target = true) : Balanced (s.deliver target e).2 held := by
  obtain ⟨t, m, hf, hm, -, hr⟩ := TaskSystem.deliver_of_accepts ha e
  refine ⟨hb.wellFormed.deliver target e, ?_, ?_⟩
  · rw [allocator_deliver, hr]
    refine hb.accounts.perm ?_
    refine (List.perm_append_comm.append_right _).trans ?_
    rw [List.append_assoc]
    exact (hb.wellFormed.registry.items_enqueue hf hm).symm.append_left held
  · rw [escalated_deliver]
    exact hb.sound

theorem deliver_of_not_accepts (hb : Balanced s held) (ha : s.accepts target = false)
    (e : Envelope) : Balanced (s.deliver target e).2 held := by
  obtain ⟨reason, -, hr⟩ := TaskSystem.deliver_of_not_accepts ha e
  exact hb.of_same (hb.wellFormed.deliver target e) (allocator_deliver s target e)
    (by rw [hr]) fun err hmem ↦ by rw [escalated_deliver] at hmem; exact hmem

/-- An envelope that is sent ends in a mailbox or comes back. -/
theorem send (hb : Balanced s (e.handle?.toList ++ held)) :
    ((s.send e).1 = .ok () ∧ Balanced (s.send e).2 held) ∨
      ∃ reason, (s.send e).1 = .error ⟨reason, e⟩ ∧
        Balanced (s.send e).2 (e.handle?.toList ++ held) := by
  rw [TaskSystem.send]
  cases e.destination with
  | broadcast =>
    exact Or.inr ⟨.broadcastAddress, rfl,
      hb.of_same ⟨hb.wellFormed.allocator, hb.wellFormed.registry⟩ rfl (.refl _) fun _ hm ↦ hm⟩
  | task target =>
    cases ha : s.accepts target with
    | true =>
      obtain ⟨-, -, -, -, hok, -⟩ := TaskSystem.deliver_of_accepts ha e
      exact Or.inl ⟨hok, hb.deliver_of_accepts ha⟩
    | false =>
      obtain ⟨reason, herr, -⟩ := TaskSystem.deliver_of_not_accepts ha e
      exact Or.inr ⟨reason, herr, hb.deliver_of_not_accepts ha e⟩

/-- An envelope that is held can be released. -/
theorem releaseEnvelope (hb : Balanced s (e.handle?.toList ++ held)) :
    (s.releaseEnvelope e).1 = .ok () ∧ Balanced (s.releaseEnvelope e).2 held := by
  have wf := hb.wellFormed.releaseEnvelope e
  cases hs : e.handle? with
  | none =>
    obtain ⟨hok, ha, hesc⟩ := releaseEnvelope_of_ok (Envelope.release_of_none hs s.allocator)
    rw [hs] at hb
    refine ⟨hok, of_same hb wf ha (by rw [registry_releaseEnvelope]) ?_⟩
    rw [hesc]
    exact fun _ hm ↦ hm
  | some h =>
    obtain ⟨a, hfree⟩ := (Allocator.exists_free_iff e.kind.number).mpr (hb.live_of_handle? hs)
    obtain ⟨hok, ha, hesc⟩ :=
      releaseEnvelope_of_ok ((Envelope.release_of_some hs s.allocator).trans hfree)
    rw [hs] at hb
    refine ⟨hok, wf, ?_, by rw [hesc]; exact hb.sound⟩
    rw [ha, registry_releaseEnvelope]
    exact Allocator.Accounts.lose hb.accounts
      (Allocator.loses_of_free hb.wellFormed.allocator hfree)

theorem discard (hb : Balanced s (e.handle?.toList ++ held)) : Balanced (s.discard e) held := by
  obtain ⟨-, hr⟩ := hb.releaseEnvelope
  refine ⟨hb.wellFormed.discard e, ?_, ?_⟩
  · rw [allocator_discard, registry_discard, ← registry_releaseEnvelope s e]
    exact hr.accounts
  · rw [escalated_discard]
    exact hr.sound

theorem deliverOrDiscard (hb : Balanced s (e.handle?.toList ++ held)) (target : TaskId) :
    Balanced (s.deliverOrDiscard target e).2 held := by
  rw [TaskSystem.deliverOrDiscard]
  cases ha : s.accepts target with
  | true =>
    have hd := hb.deliver_of_accepts ha
    obtain ⟨-, -, -, -, hok, -⟩ := TaskSystem.deliver_of_accepts ha e
    rcases hr : s.deliver target e with ⟨err | _, s₁⟩
    · rw [hr] at hok
      cases hok
    · rw [hr] at hd
      exact hd
  | false =>
    have hd := hb.deliver_of_not_accepts ha e
    obtain ⟨reason, herr, -⟩ := TaskSystem.deliver_of_not_accepts ha e
    rcases hr : s.deliver target e with ⟨err | _, s₁⟩
    · rw [hr] at hd herr
      obtain rfl : err = ⟨reason, e⟩ := Except.error.inj herr
      exact hd.discard
    · rw [hr] at herr
      cases herr

/-- A step that hands out an item and moves nothing. -/
theorem of_gains (hb : Balanced s held) (hg : s.allocator.Gains s'.allocator h)
    (hr : s'.registry = s.registry) (hs : s'.escalated = s.escalated) :
    Balanced s' (h :: held) :=
  ⟨⟨hg.wellFormed, hr ▸ hb.wellFormed.registry⟩, by rw [hr]; exact hb.accounts.gain hg,
    by rw [hs]; exact hb.sound⟩

/-! ### Broadcasts -/

/-- A fork leaves the envelope with its holder. The only error it meets is that no slot is free. -/
theorem deliverFork (hb : Balanced s (e.handle?.toList ++ held)) (target : TaskId) :
    Balanced (s.deliverFork e target).2 (e.handle?.toList ++ held) ∧
      ∀ err, (e.fork target s.allocator).1 = .error err → err.isFatal = false := by
  rw [TaskSystem.deliverFork]
  cases hs : e.handle? with
  | none =>
    rw [hs] at hb
    rw [Envelope.fork_of_none hs]
    refine ⟨?_, fun _ he ↦ by cases he⟩
    have hn := hb.note (e.forkNotes s.allocator)
    rw [← hs, ← Envelope.handle?_readdress e target] at hn
    exact hn.deliverOrDiscard target
  | some h =>
    have hl := hb.live_of_handle? hs
    rw [hs] at hb
    rw [Envelope.fork_of_some hs]
    rcases hdup : s.allocator.duplicate h with ⟨err | copy, b⟩
    · obtain ⟨hkeep, hfatal⟩ := Allocator.keeps_of_duplicate_error hb.wellFormed.allocator hdup
      refine ⟨hb.of_keeps ⟨hkeep.wellFormed, hb.wellFormed.registry⟩ hkeep (.refl _)
        fun _ hm ↦ hm, ?_⟩
      intro err' he
      rw [← Except.error.inj he]
      exact (hfatal hl).1
    · obtain ⟨-, hgain, -⟩ := Allocator.gains_of_duplicate hb.wellFormed.allocator hdup
      refine ⟨?_, fun _ he ↦ by cases he⟩
      -- The copy is owned by the fork, and the original by the envelope that is still to be forked.
      have hc : Balanced ({ s with allocator := b }.note (e.forkNotes s.allocator))
          ((some copy).toList ++ ([h] ++ held)) := hb.of_gains hgain rfl rfl
      rw [← Envelope.handle?_copy hs (.task target) copy] at hc
      exact hc.deliverOrDiscard target

end Balanced

/-- The errors that a walk through some recipients meets while it makes copies. None of them stops
the walk. -/
def copyErrors (s : TaskSystem) (e : Envelope) : List TaskId → List PoolError
  | [] => []
  | [_] => []
  | target :: next :: rest =>
    (match (e.fork target s.allocator).1 with
      | .error err => [err]
      | .ok _ => []) ++ (s.deliverFork e target).2.copyErrors e (next :: rest)

namespace Balanced

/-- **A walk through the recipients uses the envelope up**, and no copy fails for a fatal reason. -/
theorem deliverAll (hb : Balanced s (e.handle?.toList ++ held)) {targets : List TaskId}
    (hne : targets ≠ []) :
    Balanced (s.deliverAll e targets).2 held ∧
      ∀ err ∈ s.copyErrors e targets, err.isFatal = false := by
  induction targets generalizing s with
  | nil => exact absurd rfl hne
  | cons target rest ih =>
    cases rest with
    | nil => exact ⟨deliverOrDiscard (e := e.readdress target) hb target, fun _ he ↦ by cases he⟩
    | cons next rest =>
      obtain ⟨hf, hfatal⟩ := hb.deliverFork target
      obtain ⟨hd, hrest⟩ := ih hf (List.cons_ne_nil next rest)
      refine ⟨hd, ?_⟩
      intro err hmem
      rcases List.mem_append.mp hmem with hfirst | hlater
      · split at hfirst
        · next err' he =>
          rw [List.mem_singleton.mp hfirst]
          exact hfatal err' he
        · cases hfirst
      · exact hrest err hlater

theorem broadcast (hb : Balanced s (e.handle?.toList ++ held)) :
    Balanced (s.broadcast e).2 held ∧
      ∀ err ∈ s.copyErrors e (s.recipients e.origin), err.isFatal = false := by
  rw [TaskSystem.broadcast]
  split
  · next hn =>
    rw [hn]
    have hd := (hb.note [noteNoRecipients e]).discard
    exact ⟨⟨⟨hd.wellFormed.allocator, hd.wellFormed.registry⟩, hd.accounts, hd.sound⟩,
      fun _ he ↦ by cases he⟩
  · next hn =>
    obtain ⟨hd, hfatal⟩ := hb.deliverAll hn
    exact ⟨⟨⟨hd.wellFormed.allocator, hd.wellFormed.registry⟩, hd.accounts, hd.sound⟩, hfatal⟩

theorem terminateTasks (hb : Balanced s held) (origin : TaskId) :
    Balanced (s.terminateTasks origin).2 held := by
  have ht : Balanced ({ s with terminating := true }.note [noteTerminating origin]) held :=
    ⟨⟨hb.wellFormed.allocator, hb.wellFormed.registry⟩, hb.accounts, hb.sound⟩
  exact (broadcast (e := .owning .terminate origin .broadcast .empty) ht).1

/-! ### Receiving -/

/-- The receiver of an envelope holds what the envelope owns. -/
theorem tryReceive (hb : Balanced s held) (id : TaskId) :
    (∃ e, (s.tryReceive id).1 = .ok (some e) ∧
        Balanced (s.tryReceive id).2 (e.handle?.toList ++ held)) ∨
      ((s.tryReceive id).1 = .ok none ∨ (s.tryReceive id).1 = .error (.unknownTask id)) ∧
        Balanced (s.tryReceive id).2 held := by
  have wf := hb.wellFormed.tryReceive id
  rw [TaskSystem.tryReceive, TaskSystem.lookup] at wf ⊢
  cases hf : s.registry.find? id with
  | none => exact Or.inr ⟨Or.inr rfl, hb.note [Registry.noteUnknown id]⟩
  | some t =>
    rw [hf] at wf
    dsimp only at wf ⊢
    cases hd : t.mailbox.dequeue? with
    | none => exact Or.inr ⟨Or.inl rfl, hb⟩
    | some r =>
      obtain ⟨e, m⟩ := r
      rw [hd] at wf
      refine Or.inl ⟨e, rfl, wf, ?_, hb.sound⟩
      refine hb.accounts.perm ?_
      refine ((hb.wellFormed.registry.items_dequeue hf hd).append_left held).trans ?_
      rw [← List.append_assoc]
      exact List.perm_append_comm.append_right _

/-! ### Items -/

theorem allocate (hb : Balanced s held) (size : Nat) (tags : Tags) :
    (∃ h, (s.allocate size tags).1 = .ok h ∧ Balanced (s.allocate size tags).2 (h :: held)) ∨
      ∃ err : PoolError, (s.allocate size tags).1 = .error (.pool err) ∧ err.isFatal = false ∧
        Balanced (s.allocate size tags).2 held := by
  rw [TaskSystem.allocate]
  rcases ha : s.allocator.allocate size tags with ⟨err | g, b⟩
  · obtain ⟨hkeep, hfatal, -⟩ := Allocator.keeps_of_allocate_error hb.wellFormed.allocator ha
    exact Or.inr ⟨err, rfl, hfatal,
      hb.of_keeps ⟨hkeep.wellFormed, hb.wellFormed.registry⟩ hkeep (.refl _) fun _ hm ↦ hm⟩
  · obtain ⟨hgain, -⟩ := Allocator.gains_of_allocate hb.wellFormed.allocator ha
    exact Or.inl ⟨g, rfl, hb.of_gains hgain rfl rfl⟩

theorem duplicateItem (hb : Balanced s held) (h : ItemHandle) :
    (∃ g, (s.duplicateItem h).1 = .item g ∧ Balanced (s.duplicateItem h).2 (g :: held)) ∨
      ∃ err : PoolError, (s.duplicateItem h).1 = .refused (.pool err) ∧
        (s.allocator.Live h → err.isFatal = false) ∧ Balanced (s.duplicateItem h).2 held := by
  rw [TaskSystem.duplicateItem]
  rcases hdup : s.allocator.duplicate h with ⟨err | copy, b⟩
  · obtain ⟨hkeep, hfatal⟩ := Allocator.keeps_of_duplicate_error hb.wellFormed.allocator hdup
    exact Or.inr ⟨err, rfl, fun hl ↦ (hfatal hl).1,
      hb.of_keeps ⟨hkeep.wellFormed, hb.wellFormed.registry⟩ hkeep (.refl _) fun _ hm ↦ hm⟩
  · obtain ⟨-, hgain, -⟩ := Allocator.gains_of_duplicate hb.wellFormed.allocator hdup
    exact Or.inl ⟨copy, rfl, hb.of_gains hgain rfl rfl⟩

/-- An item that is held can be freed. -/
theorem free (hb : Balanced s (h :: held)) (releaseTag : UInt16) :
    (s.free h releaseTag).1 = .ok () ∧ Balanced (s.free h releaseTag).2 held := by
  obtain ⟨a, ha⟩ := (Allocator.exists_free_iff releaseTag).mpr (hb.live List.mem_cons_self)
  have hlose := Allocator.loses_of_free hb.wellFormed.allocator ha
  rw [TaskSystem.free, ha]
  exact ⟨rfl, ⟨hlose.wellFormed, hb.wellFormed.registry⟩, hb.accounts.lose hlose, hb.sound⟩

/-- A payload that is held can be released. -/
theorem releasePayload {p : Payload} (hb : Balanced s (p.handle?.toList ++ held))
    (kind : MessageKind) :
    (s.releasePayload kind p).1 = .done ∧ Balanced (s.releasePayload kind p).2 held := by
  rw [TaskSystem.releasePayload]
  cases p
  case pooled h =>
    obtain ⟨a, ha⟩ := (Allocator.exists_free_iff kind.number).mpr
      (hb.live (h := h) List.mem_cons_self)
    have hlose := Allocator.loses_of_free hb.wellFormed.allocator ha
    rw [Payload.release, ha]
    exact ⟨rfl, ⟨hlose.wellFormed, hb.wellFormed.registry⟩,
      Allocator.Accounts.lose hb.accounts hlose, hb.sound⟩
  all_goals exact ⟨rfl, hb.note _⟩

theorem access (hb : Balanced s held) (h : ItemHandle) {result : Except PoolError Allocator}
    (hr : ∀ a, result = .ok a → s.allocator.Keeps a) : Balanced (s.access h result).2 held := by
  have wf := hb.wellFormed.access h hr
  cases result with
  | error e => exact hb.note _
  | ok a => exact hb.of_keeps wf (hr a rfl) (.refl _) fun _ hm ↦ hm

/-! ### Tasks -/

theorem registerTask (hb : Balanced s held) (id : TaskId) (name : String) :
    Balanced (s.registerTask id name).2 held := by
  have wf := hb.wellFormed.registerTask id name
  rw [TaskSystem.registerTask] at wf ⊢
  cases hr : s.registry.register id name with
  | ok r =>
    rw [hr] at wf
    exact hb.of_same wf rfl (Registry.items_register hr) fun _ hm ↦ hm
  | error err =>
    rw [hr] at wf
    exact hb.of_same wf (by rw [allocator_escalate]) (by rw [registry_escalate]) fun err' hm ↦
      mem_of_mem_escalate hm (Registry.ne_pool_of_register hr err')

theorem spawnTask (hb : Balanced s held) (id : TaskId) (name : String) :
    Balanced (s.spawnTask id name).2 held := by
  have hr := hb.registerTask id name
  have wf := hb.wellFormed.spawnTask id name
  rw [TaskSystem.spawnTask] at wf ⊢
  rcases hs : s.registerTask id name with ⟨err | t, s₁⟩
  · rw [hs] at hr
    exact hr
  · rw [hs] at hr wf
    refine hr.of_same wf rfl ?_ fun _ hm ↦ hm
    exact .of_eq (Registry.items_update fun _ ↦ rfl)

theorem joinThreads (hb : Balanced s held) (current : Option TaskId) (tasks : List Task) :
    Balanced (s.joinThreads current tasks).2 held := by
  induction tasks generalizing s with
  | nil => exact hb
  | cons t ts ih =>
    have hset : Balanced { s with registry := s.registry.setThread t.id none } held :=
      hb.of_same (hb.wellFormed.of_ids hb.wellFormed.allocator (Registry.ids_setThread none)) rfl
        (.of_eq (Registry.items_update fun _ ↦ rfl)) fun _ hm ↦ hm
    rw [TaskSystem.joinThreads]
    split
    · exact ih hb
    · split
      · exact ih (hb.note _)
      · split
        · exact ih (hset.note _)
        · exact ih hset

end Balanced

end TaskSystem

end TaskMessaging
