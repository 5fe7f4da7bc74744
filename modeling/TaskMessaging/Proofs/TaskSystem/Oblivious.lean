import TaskMessaging.Proofs.TaskSystem.Operation

/-!
# Operations and the policy

What an operation does to the system does not depend on the policy. The policy is looked at in one
place, where a fatal error is escalated, and all that it decides there is the wording of an entry in
the journal. So two systems that differ in their policies take the same course until one of them
escalates, and the journals that they write on the way are the same.

## Oblivious steps

`under` gives a system another policy and puts entries in front of its journal. A step is
*oblivious* in a state if it commutes with this, provided that it escalates nothing or that the
policy is not changed after all, and *silent* if it escalates nothing in that state.

The proviso has to survive composition: a sequence of steps escalates nothing only if each of them
does so, because the list of escalated errors never shrinks, and this is what `Oblivious.grows` is
for.
-/

namespace TaskMessaging

/-- The operations that can go wrong in a way that is escalated. -/
def Operation.isGuarded : Operation → Bool
  | .register .. | .spawn .. | .free .. | .releaseEnvelope _ | .broadcast _ | .terminateTasks _ =>
    true
  | _ => false

namespace TaskSystem

variable {s t : TaskSystem} {α β : Type}

/-! ## Changing the policy -/

/-- The system under another policy, with some entries in front of its journal. -/
def under (s : TaskSystem) (p : FatalPolicy) (j : Journal) : TaskSystem :=
  { s with policy := p, journal := j ++ s.journal }

section under

variable (s : TaskSystem) (p : FatalPolicy) (j : Journal)

@[simp] theorem allocator_under : (s.under p j).allocator = s.allocator := rfl

@[simp] theorem registry_under : (s.under p j).registry = s.registry := rfl

@[simp] theorem tap_under : (s.under p j).tap = s.tap := rfl

@[simp] theorem terminating_under : (s.under p j).terminating = s.terminating := rfl

theorem under_self : s.under s.policy [] = s := rfl

theorem note_under (entries : Journal) :
    (s.under p j).note entries = (s.note entries).under p j := by
  rw [note, note, under, under, List.append_assoc]

end under

/-- From a state on, a step takes the same course under every policy and behind every journal,
unless it escalates an error. -/
structure Oblivious (f : TaskSystem → α × TaskSystem) (s : TaskSystem) : Prop where
  grows : s.escalated <+: (f s).2.escalated
  policy : (f s).2.policy = s.policy
  under : ∀ p j, p = s.policy ∨ (f s).2.escalated = s.escalated →
    f (s.under p j) = ((f s).1, (f s).2.under p j)

/-- An oblivious step that escalates nothing. -/
structure Silent (f : TaskSystem → α × TaskSystem) (s : TaskSystem) : Prop
    extends Oblivious f s where
  escalated : (f s).2.escalated = s.escalated

variable {f : TaskSystem → α × TaskSystem} {g : α → TaskSystem → β × TaskSystem}
  {k : TaskSystem → β × TaskSystem} {x : α}

/-- One step after the other. Where the two together escalate nothing, neither of them does. -/
theorem Oblivious.bind (hf : Oblivious f s) (hg : Oblivious (g (f s).1) (f s).2)
    (hk : ∀ p j, k (s.under p j) = g (f (s.under p j)).1 (f (s.under p j)).2) :
    Oblivious k s := by
  have hs : k s = g (f s).1 (f s).2 := hk s.policy []
  refine ⟨?_, ?_, fun p j h ↦ ?_⟩
  · rw [hs]
    exact hf.grows.trans hg.grows
  · rw [hs, hg.policy, hf.policy]
  · rw [hs] at h ⊢
    rw [hk]
    rcases h with hp | he
    · rw [hf.under p j (.inl hp)]
      exact hg.under p j (.inl (hp.trans hf.policy.symm))
    · -- The list is as long as before behind both steps, so it was in between.
      have hmid : (f s).2.escalated = s.escalated :=
        (hf.grows.eq_of_length_le (he ▸ hg.grows.length_le)).symm
      rw [hf.under p j (.inr hmid)]
      exact hg.under p j (.inr (he.trans hmid.symm))

namespace Silent

/-- A step that adds nothing to the journal either. -/
theorem of_under (ht : t.escalated = s.escalated ∧ t.policy = s.policy)
    (hf : ∀ p j, f (s.under p j) = (x, t.under p j)) : Silent f s := by
  have hs : f s = (x, t) := by
    have := hf s.policy []
    rwa [under_self, ← ht.2, under_self] at this
  refine ⟨⟨?_, ?_, fun p j _ ↦ ?_⟩, ?_⟩
  · rw [hs]
    exact ht.1 ▸ List.prefix_refl _
  · rw [hs, ht.2]
  · rw [hs, hf]
  · rw [hs, ht.1]

/-- A step that adds some entries to the journal. -/
theorem of_note {entries : Journal} (ht : t.escalated = s.escalated ∧ t.policy = s.policy)
    (hf : ∀ p j, f (s.under p j) = (x, (t.under p j).note entries)) : Silent f s :=
  of_under (t := t.note entries) ht fun p j ↦ by rw [hf, note_under]

/-- A step that leaves the system alone. -/
theorem pure (s : TaskSystem) (x : α) : Silent (fun s ↦ (x, s)) s :=
  of_under ⟨rfl, rfl⟩ fun _ _ ↦ rfl

theorem bind (hf : Silent f s) (hg : Silent (g (f s).1) (f s).2)
    (hk : ∀ p j, k (s.under p j) = g (f (s.under p j)).1 (f (s.under p j)).2) : Silent k s where
  toOblivious := hf.toOblivious.bind hg.toOblivious hk
  escalated := by
    have hs : k s = g (f s).1 (f s).2 := hk s.policy []
    rw [hs, hg.escalated, hf.escalated]

/-- What is answered may be looked at in another way. -/
theorem map (hf : Silent f s) (g : α → β) : Silent (fun s ↦ (g (f s).1, (f s).2)) s :=
  hf.bind (g := fun x s ↦ (g x, s)) (.pure _ _) fun _ _ ↦ rfl

/-- A silent step takes the same course under every policy. -/
theorem under_eq (hf : Silent f s) (p : FatalPolicy) (j : Journal) :
    f (s.under p j) = ((f s).1, (f s).2.under p j) := hf.under p j (.inr hf.escalated)

end Silent

theorem Oblivious.map (hf : Oblivious f s) (g : α → β) :
    Oblivious (fun s ↦ (g (f s).1, (f s).2)) s :=
  hf.bind (g := fun x s ↦ (g x, s)) (Silent.pure _ _).toOblivious fun _ _ ↦ rfl

/-! ## Reports and failures -/

section

variable (s : TaskSystem)

theorem silent_note (entries : Journal) : Silent (fun s ↦ ((), s.note entries)) s :=
  .of_note (t := s) ⟨rfl, rfl⟩ fun _ _ ↦ rfl

theorem oblivious_escalate (err : TaskError) : Oblivious (fun s ↦ ((), s.escalate err)) s := by
  by_cases hf : err.isFatal = true
  · refine ⟨?_, ?_, ?_⟩
    · rw [escalate, if_pos hf]
      exact List.prefix_append _ _
    · rw [escalate, if_pos hf]
    · -- The entry depends on the policy, so this is where the proviso is used.
      rintro p j (rfl | he)
      · rw [escalate, escalate, if_pos hf, if_pos hf, under, under]
        exact Prod.ext rfl (by rw [List.append_assoc])
      · rw [escalate, if_pos hf] at he
        simp at he
  · exact Silent.toOblivious (.of_under (t := s) ⟨rfl, rfl⟩ fun p j ↦ by
      rw [escalate, if_neg hf])

/-- An operation that fails: the failure is noted, escalated and answered. -/
theorem oblivious_fail (entries : Journal) (err : TaskError) :
    Oblivious (fun s ↦ (Except.error (α := α) err, (s.note entries).escalate err)) s :=
  (silent_note s entries).toOblivious.bind (g := fun _ s ↦ (.error err, s.escalate err))
    ((oblivious_escalate (s.note entries) err).map fun _ ↦ Except.error err) fun _ _ ↦ rfl

/-! ## Tasks -/

theorem oblivious_registerTask (id : TaskId) (name : String) :
    Oblivious (·.registerTask id name) s := by
  rcases h : s.registry.register id name with err | ⟨t, r⟩
  · refine ((oblivious_escalate s err).map fun _ ↦ Except.error err).bind
      (g := fun x s ↦ (x, s)) (Silent.pure _ _).toOblivious fun p j ↦ ?_
    rw [registerTask, registry_under, h]
  · exact Silent.toOblivious (.of_note (t := { s with registry := r }) ⟨rfl, rfl⟩ fun p j ↦ by
      rw [registerTask, registry_under, h]
      rfl)

theorem silent_unregisterTask (id : TaskId) : Silent (·.unregisterTask id) s := by
  rcases h : s.registry.unregister id with ⟨_ | t, r⟩
  · exact .of_under (t := s) ⟨rfl, rfl⟩ fun p j ↦ by rw [unregisterTask, registry_under, h]
  · exact .of_note (t := { s with registry := r }) ⟨rfl, rfl⟩ fun p j ↦ by
      rw [unregisterTask, registry_under, h]
      rfl

theorem silent_lookup (id : TaskId) : Silent (·.lookup id) s := by
  cases h : s.registry.find? id with
  | none => exact .of_note (t := s) ⟨rfl, rfl⟩ fun p j ↦ by rw [lookup, registry_under, h]
  | some t => exact .of_under (t := s) ⟨rfl, rfl⟩ fun p j ↦ by rw [lookup, registry_under, h]

/-- What is left to do for a task that was registered together with its thread. -/
def started (s : TaskSystem) (id : TaskId) (name : String) : TaskSystem :=
  { s with
    registry := s.registry.setThread id (some ⟨false⟩)
    metrics := s.metrics.recordTaskSpawned }.note [noteStarted id name]

theorem silent_started (id : TaskId) (name : String) :
    Silent (fun s ↦ ((), s.started id name)) s :=
  .of_note (t := { s with
    registry := s.registry.setThread id (some ⟨false⟩)
    metrics := s.metrics.recordTaskSpawned }) ⟨rfl, rfl⟩ fun _ _ ↦ rfl

theorem oblivious_spawnTask (id : TaskId) (name : String) : Oblivious (·.spawnTask id name) s := by
  refine (oblivious_registerTask s id name).bind (g := fun r s ↦
    r.casesOn (fun err ↦ (.error err, s)) fun _ ↦ (.ok (), s.started id name)) ?_ fun p j ↦ ?_
  · rcases (s.registerTask id name).1 with err | t
    · exact (Silent.pure _ _).toOblivious
    · exact ((silent_started _ id name).map Except.ok).toOblivious
  · rw [spawnTask]
    rcases (s.under p j).registerTask id name with ⟨err | t, s₁⟩ <;> rfl

theorem silent_recordPanic (id : TaskId) : Silent (fun s ↦ ((), s.recordPanic id)) s :=
  .of_under (t := s.recordPanic id) ⟨rfl, rfl⟩ fun _ _ ↦ rfl

theorem silent_joinThreads (current : Option TaskId) (tasks : List Task) :
    Silent (·.joinThreads current tasks) s := by
  induction tasks generalizing s with
  | nil => exact .pure s 0
  | cons t ts ih =>
    have hdetach : Silent (fun s : TaskSystem ↦
        ((), { s with registry := s.registry.setThread t.id none })) s :=
      .of_under (t := { s with registry := s.registry.setThread t.id none }) ⟨rfl, rfl⟩
        fun _ _ ↦ rfl
    cases ht : t.thread with
    | none =>
      refine (ih s).bind (g := fun n s ↦ (n, s)) (.pure _ _) fun p j ↦ ?_
      rw [joinThreads, ht]
    | some thread =>
      by_cases hc : current = some t.id
      · refine (silent_note s [noteSelfWait t.id]).bind
          (g := fun _ s ↦ s.joinThreads current ts) (ih _) fun p j ↦ ?_
        rw [joinThreads, ht]
        exact if_pos hc
      · cases hp : thread.panicked with
        | false =>
          refine hdetach.bind (g := fun _ s ↦ s.joinThreads current ts) (ih _) fun p j ↦ ?_
          rw [joinThreads, ht]
          dsimp only
          rw [if_neg hc, hp]
          rfl
        | true =>
          refine hdetach.bind (g := fun _ s ↦
            (((s.note [notePanicked t]).joinThreads current ts).1 + 1,
              ((s.note [notePanicked t]).joinThreads current ts).2)) ?_ fun p j ↦ ?_
          · exact (silent_note _ [notePanicked t]).bind
              (g := fun _ s ↦ ((s.joinThreads current ts).1 + 1, (s.joinThreads current ts).2))
              ((ih _).map (· + 1)) fun _ _ ↦ rfl
          · rw [joinThreads, ht]
            dsimp only
            rw [if_neg hc, hp]
            rfl

theorem silent_waitTasksEnd (current : Option TaskId) : Silent (·.waitTasksEnd current) s :=
  (silent_joinThreads s current s.registry.tasks).bind (g := fun n s ↦ (n, s.note [noteEnded n]))
    (.of_note ⟨rfl, rfl⟩ fun _ _ ↦ rfl) fun _ _ ↦ rfl

/-! ## Items -/

theorem silent_allocate (size : Nat) (tags : Tags) : Silent (·.allocate size tags) s := by
  rcases h : s.allocator.allocate size tags with ⟨err | g, a⟩
  all_goals
    exact .of_note (t := { s with allocator := a }) ⟨rfl, rfl⟩ fun p j ↦ by
      rw [allocate, allocator_under, h]
      rfl

theorem oblivious_free (h : ItemHandle) (releaseTag : UInt16) :
    Oblivious (·.free h releaseTag) s := by
  rcases hf : s.allocator.free h releaseTag with err | a
  · refine (oblivious_fail s (s.allocator.freeNotes h releaseTag) (.pool err)).bind
      (g := fun x s ↦ (x, s)) (Silent.pure _ _).toOblivious fun p j ↦ ?_
    rw [free, allocator_under, hf]
  · exact Silent.toOblivious (.of_note (t := { s with allocator := a }) ⟨rfl, rfl⟩ fun p j ↦ by
      rw [free, allocator_under, hf]
      rfl)

theorem oblivious_releaseEnvelope (e : Envelope) : Oblivious (·.releaseEnvelope e) s := by
  rcases hf : e.release s.allocator with err | a
  · refine (oblivious_fail s (e.releaseNotes s.allocator) (.pool err)).bind
      (g := fun x s ↦ (x, s)) (Silent.pure _ _).toOblivious fun p j ↦ ?_
    rw [releaseEnvelope, allocator_under, hf]
  · exact Silent.toOblivious (.of_note (t := { s with allocator := a }) ⟨rfl, rfl⟩ fun p j ↦ by
      rw [releaseEnvelope, allocator_under, hf]
      rfl)

theorem silent_releasePayload (kind : MessageKind) (y : Payload) :
    Silent (·.releasePayload kind y) s := by
  rcases hf : y.release s.allocator kind with err | a
  · exact .of_note (t := s) ⟨rfl, rfl⟩ fun p j ↦ by
      rw [releasePayload, allocator_under, hf]
  · exact .of_note (t := { s with allocator := a }) ⟨rfl, rfl⟩ fun p j ↦ by
      rw [releasePayload, allocator_under, hf]
      rfl

theorem silent_access (h : ItemHandle) (r : Allocator → Except PoolError Allocator) :
    Silent (fun s ↦ s.access h (r s.allocator)) s := by
  rcases hr : r s.allocator with err | a
  · exact .of_note (t := s) ⟨rfl, rfl⟩ fun p j ↦ by
      rw [allocator_under, hr, access, allocator_under]
  · exact .of_note (t := { s with allocator := a }) ⟨rfl, rfl⟩ fun p j ↦ by
      rw [allocator_under, hr, access, allocator_under]
      rfl

theorem silent_readItem (h : ItemHandle) : Silent (·.readItem h) s :=
  .of_note (t := s) ⟨rfl, rfl⟩ fun p j ↦ by rw [readItem, allocator_under]

theorem silent_duplicateItem (h : ItemHandle) : Silent (·.duplicateItem h) s :=
  .of_note (t := { s with allocator := (s.allocator.duplicate h).2 }) ⟨rfl, rfl⟩ fun p j ↦ by
    rw [duplicateItem, allocator_under]
    rfl

/-! ## Deliveries -/

theorem tapDelivery_under (p : FatalPolicy) (j : Journal) (target : TaskId) (e : Envelope) :
    (s.under p j).tapDelivery target e = (s.tapDelivery target e).under p j := by
  rw [tapDelivery, tapDelivery, tap_under]
  cases s.tap with
  | none => rfl
  | some records => rfl

@[simp] theorem policy_tapDelivery (target : TaskId) (e : Envelope) :
    (s.tapDelivery target e).policy = s.policy := by
  rw [tapDelivery]
  split <;> rfl

theorem deliver_under (p : FatalPolicy) (j : Journal) (target : TaskId) (e : Envelope) :
    (s.under p j).deliver target e =
      ((s.deliver target e).1, (s.deliver target e).2.under p j) := by
  rw [deliver, deliver]
  dsimp only [registry_under]
  cases s.registry.find? target with
  | none =>
    exact Prod.ext rfl (note_under
      { s with metrics := s.metrics.recordSendAttempt.recordUnknownDestination } p j _)
  | some t =>
    dsimp only
    cases t.mailbox.enqueue? e with
    | none =>
      refine Prod.ext rfl ?_
      simp only [note, under, List.append_assoc]
      rfl
    | some m =>
      refine Prod.ext rfl ?_
      dsimp only
      rw [← tapDelivery_under]
      simp only [note, under, List.append_assoc]
      rfl

theorem policy_deliver (target : TaskId) (e : Envelope) :
    (s.deliver target e).2.policy = s.policy := by
  rw [deliver]
  dsimp only
  split
  · rfl
  · split
    · rw [policy_tapDelivery]
      rfl
    · rfl

theorem silent_deliver (target : TaskId) (e : Envelope) : Silent (·.deliver target e) s :=
  .of_under ⟨escalated_deliver s target e, s.policy_deliver target e⟩ fun p j ↦
    s.deliver_under p j target e

theorem silent_send (e : Envelope) : Silent (·.send e) s := by
  cases hd : e.destination with
  | task target =>
    refine (silent_deliver s target e).bind (g := fun x s ↦ (x, s)) (.pure _ _) fun p j ↦ ?_
    rw [send, hd]
  | broadcast =>
    exact .of_under (t := { s with metrics := s.metrics.recordSendAttempt }) ⟨rfl, rfl⟩
      fun p j ↦ by
        rw [send, hd]
        rfl

theorem oblivious_discard (e : Envelope) : Oblivious (fun s ↦ ((), s.discard e)) s := by
  refine (oblivious_releaseEnvelope s e).bind (g := fun r s ↦
    r.casesOn (fun err ↦ ((), s.note [noteNotReleased err])) fun _ ↦ ((), s)) ?_ fun p j ↦ ?_
  · rcases (s.releaseEnvelope e).1 with err | _
    · exact (silent_note _ _).toOblivious
    · exact (Silent.pure _ _).toOblivious
  · rw [discard]
    rcases (s.under p j).releaseEnvelope e with ⟨err | _, s₁⟩ <;> rfl

theorem oblivious_deliverOrDiscard (target : TaskId) (e : Envelope) :
    Oblivious (·.deliverOrDiscard target e) s := by
  refine (silent_deliver s target e).toOblivious.bind (g := fun r s ↦
    r.casesOn (fun err ↦ (⟨0, 1⟩, s.discard err.envelope)) fun _ ↦ (⟨1, 0⟩, s)) ?_ fun p j ↦ ?_
  · rcases (s.deliver target e).1 with err | _
    · exact (oblivious_discard _ err.envelope).map fun _ ↦ (⟨0, 1⟩ : BroadcastReport)
    · exact (Silent.pure _ _).toOblivious
  · rw [deliverOrDiscard]
    rcases (s.under p j).deliver target e with ⟨err | _, s₁⟩ <;> rfl

theorem oblivious_deliverFork (e : Envelope) (target : TaskId) :
    Oblivious (·.deliverFork e target) s := by
  rcases hf : e.fork target s.allocator with ⟨err | copy, a⟩
  · exact Silent.toOblivious (.of_note (t := { s with allocator := a }) ⟨rfl, rfl⟩ fun p j ↦ by
      rw [deliverFork, allocator_under, hf]
      rfl)
  · have hcopied : Silent (fun t : TaskSystem ↦
        ((), { t with allocator := a }.note (e.forkNotes s.allocator))) s :=
      .of_note (t := { s with allocator := a }) ⟨rfl, rfl⟩ fun _ _ ↦ rfl
    refine hcopied.toOblivious.bind (g := fun _ s ↦ s.deliverOrDiscard target copy)
      (oblivious_deliverOrDiscard _ target copy) fun p j ↦ ?_
    rw [deliverFork, allocator_under, hf]

theorem oblivious_deliverAll (e : Envelope) (targets : List TaskId) :
    Oblivious (·.deliverAll e targets) s := by
  induction targets generalizing s with
  | nil => exact (Silent.pure s _).toOblivious
  | cons target rest ih =>
    cases rest with
    | nil => exact oblivious_deliverOrDiscard s target (e.readdress target)
    | cons next rest =>
      exact (oblivious_deliverFork s e target).bind
        (g := fun r s ↦ (r.add (s.deliverAll e (next :: rest)).1,
          (s.deliverAll e (next :: rest)).2)) ((ih _).map _) fun _ _ ↦ rfl

theorem oblivious_broadcast (e : Envelope) : Oblivious (·.broadcast e) s := by
  have hcount (s : TaskSystem) (n : Nat) : Silent (fun s : TaskSystem ↦
      ((), { s with metrics := s.metrics.recordBroadcast n })) s :=
    .of_under (t := { s with metrics := s.metrics.recordBroadcast n }) ⟨rfl, rfl⟩ fun _ _ ↦ rfl
  cases hr : s.recipients e.origin with
  | nil =>
    have hdrop : Oblivious (fun s ↦ ((), (s.note [noteNoRecipients e]).discard e)) s :=
      (silent_note s [noteNoRecipients e]).toOblivious.bind (g := fun _ s ↦ ((), s.discard e))
        (oblivious_discard _ e) fun _ _ ↦ rfl
    refine hdrop.bind (g := fun _ s ↦
      (BroadcastReport.none, { s with metrics := s.metrics.recordBroadcast 0 }))
      ((hcount _ 0).map fun _ ↦ BroadcastReport.none).toOblivious fun p j ↦ ?_
    have hr' : (s.under p j).recipients e.origin = [] := hr
    rw [broadcast, hr']
  | cons target rest =>
    refine (oblivious_deliverAll s e (target :: rest)).bind (g := fun r s ↦
      (r, { s with metrics := s.metrics.recordBroadcast r.failed }.note [noteBroadcast e r]))
      ?_ fun p j ↦ ?_
    · exact ((hcount _ _).bind (g := fun _ s ↦ (_, s.note [noteBroadcast e _]))
        ((silent_note _ _).map fun _ ↦ _) fun _ _ ↦ rfl).toOblivious
    · have hr' : (s.under p j).recipients e.origin = target :: rest := hr
      rw [broadcast, hr']

theorem oblivious_terminateTasks (origin : TaskId) : Oblivious (·.terminateTasks origin) s := by
  have hraise : Silent (fun s : TaskSystem ↦
      ((), { s with terminating := true }.note [noteTerminating origin])) s :=
    .of_note (t := { s with terminating := true }) ⟨rfl, rfl⟩ fun _ _ ↦ rfl
  exact hraise.toOblivious.bind
    (g := fun _ s ↦ s.broadcast (.owning .terminate origin .broadcast .empty))
    (oblivious_broadcast _ _) fun _ _ ↦ rfl

theorem silent_tryReceive (id : TaskId) : Silent (·.tryReceive id) s := by
  refine (silent_lookup s id).bind (g := fun r s ↦
    r.casesOn (fun err ↦ (.error err, s)) fun t ↦ t.mailbox.dequeue?.elim (.ok none, s) fun r ↦
      (.ok (some r.1), { s with registry := s.registry.setMailbox id r.2 })) ?_ fun p j ↦ ?_
  · rcases (s.lookup id).1 with err | t
    · exact .pure _ _
    · dsimp only
      cases t.mailbox.dequeue? with
      | none => exact .pure _ _
      | some r =>
        exact .of_under (t := { (s.lookup id).2 with
          registry := (s.lookup id).2.registry.setMailbox id r.2 }) ⟨rfl, rfl⟩ fun _ _ ↦ rfl
  · rw [tryReceive]
    rcases (s.under p j).lookup id with ⟨err | t, s₁⟩
    · rfl
    · dsimp only
      cases t.mailbox.dequeue? <;> rfl

theorem silent_requestShutdown : Silent (fun s ↦ ((), s.requestShutdown)) s := by
  cases ht : s.terminating with
  | true =>
    exact .of_under (t := s) ⟨rfl, rfl⟩ fun p j ↦ by
      rw [requestShutdown, terminating_under, ht]
      rfl
  | false =>
    exact .of_note (t := { s with terminating := true }) ⟨rfl, rfl⟩ fun p j ↦ by
      rw [requestShutdown, terminating_under, ht]
      rfl

theorem silent_drainTap : Silent (·.drainTap) s :=
  .of_under (x := s.tap) (t := s.drainTap.2) ⟨rfl, rfl⟩ fun _ _ ↦ rfl

end

/-! ## Operations -/

/-- An operation that is not guarded escalates nothing. -/
theorem silent_perform (s : TaskSystem) (op : Operation) (hop : op.isGuarded = false) :
    Silent (·.perform op) s := by
  cases op with
  | unregister id => exact (silent_unregisterTask s id).map Answer.unregistered
  | lookup id => exact (silent_lookup s id).map (Answer.ofResult .task)
  | recordPanic id => exact (silent_recordPanic s id).map fun _ ↦ Answer.done
  | waitTasksEnd current => exact (silent_waitTasksEnd s current).map Answer.panicked
  | allocate size tags => exact (silent_allocate s size tags).map (Answer.ofResult .item)
  | duplicate h => exact silent_duplicateItem s h
  | read h => exact silent_readItem s h
  | write h offset bytes => exact silent_access s h (·.write h offset bytes)
  | update h change => exact silent_access s h (·.update h change)
  | setInfo h index value => exact silent_access s h (·.setInfo h index value)
  | releasePayload kind p => exact silent_releasePayload s kind p
  | send e => exact (silent_send s e).map Answer.ofSend
  | tryReceive id => exact (silent_tryReceive s id).map (Answer.ofResult .received)
  | requestShutdown => exact (silent_requestShutdown s).map fun _ ↦ Answer.done
  | drainTap => exact (silent_drainTap s).map Answer.records
  | report entries => exact (silent_note s entries).map fun _ ↦ Answer.done
  | register | spawn | free | releaseEnvelope | broadcast | terminateTasks => cases hop

/-- **Every operation is oblivious** of the policy and of the journal so far. -/
theorem oblivious_perform (s : TaskSystem) (op : Operation) : Oblivious (·.perform op) s := by
  cases op with
  | register id name => exact (oblivious_registerTask s id name).map (Answer.ofResult .task)
  | spawn id name => exact (oblivious_spawnTask s id name).map (Answer.ofResult fun _ ↦ .done)
  | free h releaseTag =>
    exact (oblivious_free s h releaseTag).map (Answer.ofResult fun _ ↦ .done)
  | releaseEnvelope e =>
    exact (oblivious_releaseEnvelope s e).map (Answer.ofResult fun _ ↦ .done)
  | broadcast e => exact (oblivious_broadcast s e).map Answer.delivered
  | terminateTasks origin => exact (oblivious_terminateTasks s origin).map Answer.delivered
  | _ => exact (silent_perform s _ rfl).toOblivious

end TaskSystem

end TaskMessaging
