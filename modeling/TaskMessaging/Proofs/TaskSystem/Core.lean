import TaskMessaging.Proofs.TaskSystem.Counters
import TaskMessaging.Proofs.TaskSystem.Oblivious

/-!
# The core of a system

The delivery counters and the journal are written to and never read by an operation. So two systems
that agree in everything else, which is their *core*, cannot be told apart: they give the same
answers and stay in agreement, however long they are used.

A step is *blind* if it does the same to systems of one core. Blind steps compose, a step may choose
its course by what is in the core, and there is one lemma for each operation.
-/

namespace TaskMessaging.TaskSystem

variable {s t : TaskSystem} {α β γ : Type} {f : TaskSystem → α × TaskSystem}
  {k : TaskSystem → β × TaskSystem}

/-- The system without its counters and its journal. -/
def core (s : TaskSystem) : TaskSystem := { s with metrics := .zero, journal := [] }

/-- A step that does not look at the counters or at the journal. -/
def Blind (f : TaskSystem → α × TaskSystem) : Prop :=
  ∀ s t, s.core = t.core → (f s).1 = (f t).1 ∧ (f s).2.core = (f t).2.core

namespace Blind

theorem pure (x : α) : Blind fun s ↦ (x, s) := fun _ _ h ↦ ⟨rfl, h⟩

/-- One step after the other. -/
theorem bind (hf : Blind f) {g : α → TaskSystem → β × TaskSystem} (hg : ∀ x, Blind (g x))
    (hk : ∀ s, k s = g (f s).1 (f s).2) : Blind k := by
  intro s t h
  obtain ⟨hanswer, hcore⟩ := hf s t h
  rw [hk, hk, hanswer]
  exact hg (f t).1 _ _ hcore

/-- What is answered may be looked at in another way. -/
theorem map (hf : Blind f) (g : α → β) : Blind fun s ↦ (g (f s).1, (f s).2) :=
  hf.bind (fun x ↦ .pure (g x)) fun _ ↦ rfl

/-- A step that chooses its course by a look at the core. -/
theorem of_view (view : TaskSystem → γ) (hview : ∀ s, view s.core = view s)
    {g : γ → TaskSystem → β × TaskSystem} (hg : ∀ x, Blind (g x)) (hk : ∀ s, k s = g (view s) s) :
    Blind k := by
  intro s t h
  have hsame : view s = view t := by rw [← hview s, ← hview t, h]
  rw [hk, hk, hsame]
  exact hg (view t) s t h

/-- A step that does to a system what it does to its core. -/
theorem of_core (hk : ∀ s, (k s).1 = (k s.core).1 ∧ (k s).2.core = (k s.core).2.core) :
    Blind k := by
  intro s t h
  rw [(hk s).1, (hk s).2, (hk t).1, (hk t).2, h]
  exact ⟨rfl, rfl⟩

end Blind

/-! ## Steps -/

theorem blind_note (x : α) (entries : Journal) : Blind fun s ↦ (x, s.note entries) :=
  .of_core fun _ ↦ ⟨rfl, rfl⟩

theorem blind_setAllocator (x : α) (a : Allocator) (entries : Journal) :
    Blind fun s ↦ (x, { s with allocator := a }.note entries) :=
  .of_core fun _ ↦ ⟨rfl, rfl⟩

theorem blind_escalate (x : α) (err : TaskError) : Blind fun s ↦ (x, s.escalate err) := by
  refine .of_core fun s ↦ ⟨rfl, ?_⟩
  dsimp only
  rw [escalate, escalate]
  split
  · rfl
  · rfl

/-- An operation that fails: the failure is noted, escalated and answered. -/
theorem blind_fail (x : α) (entries : Journal) (err : TaskError) :
    Blind fun s ↦ (x, (s.note entries).escalate err) :=
  (blind_note x entries).bind (fun x ↦ blind_escalate x err) fun _ ↦ rfl

/-! ## Tasks -/

theorem blind_registerTask (id : TaskId) (name : String) : Blind (·.registerTask id name) := by
  refine .of_view (·.registry.register id name) (fun _ ↦ rfl) (g := fun r s ↦
    r.casesOn (fun err ↦ (.error err, s.escalate err)) fun x ↦
      (.ok x.1, { s with registry := x.2 }.note [Registry.noteRegistered x.1])) ?_ ?_
  · rintro (err | x)
    · exact blind_escalate _ err
    · exact .of_core fun _ ↦ ⟨rfl, rfl⟩
  · intro s
    dsimp only
    rw [registerTask]
    cases s.registry.register id name <;> rfl

theorem blind_unregisterTask (id : TaskId) : Blind (·.unregisterTask id) := by
  refine .of_view (·.registry.unregister id) (fun _ ↦ rfl) (g := fun r s ↦
    r.1.casesOn (none, s) fun t ↦
      (some t, { s with registry := r.2 }.note [Registry.noteUnregistered t])) ?_ ?_
  · rintro ⟨_ | t, r⟩
    · exact .pure none
    · exact .of_core fun _ ↦ ⟨rfl, rfl⟩
  · intro s
    dsimp only
    rw [unregisterTask]
    rcases s.registry.unregister id with ⟨_ | t, r⟩ <;> rfl

theorem blind_lookup (id : TaskId) : Blind (·.lookup id) := by
  refine .of_view (·.registry.find? id) (fun _ ↦ rfl) (g := fun r s ↦
    r.casesOn (.error (.unknownTask id), s.note [Registry.noteUnknown id]) fun t ↦ (.ok t, s)) ?_ ?_
  · rintro (_ | t)
    · exact blind_note _ _
    · exact .pure _
  · intro s
    dsimp only
    rw [lookup]
    cases s.registry.find? id <;> rfl

theorem blind_spawnTask (id : TaskId) (name : String) : Blind (·.spawnTask id name) := by
  refine (blind_registerTask id name).bind (g := fun r s ↦
    r.casesOn (fun err ↦ (.error err, s)) fun _ ↦ (.ok (), s.started id name)) ?_ ?_
  · rintro (err | t)
    · exact .pure _
    · exact .of_core fun _ ↦ ⟨rfl, rfl⟩
  · intro s
    rw [spawnTask]
    rcases s.registerTask id name with ⟨err | t, s₁⟩ <;> rfl

theorem blind_joinThreads (current : Option TaskId) (tasks : List Task) :
    Blind (·.joinThreads current tasks) := by
  induction tasks with
  | nil => exact .pure 0
  | cons t ts ih =>
    have hdetach : Blind fun s : TaskSystem ↦
        ((), { s with registry := s.registry.setThread t.id none }) :=
      .of_core fun _ ↦ ⟨rfl, rfl⟩
    cases ht : t.thread with
    | none =>
      refine ih.bind (g := fun n s ↦ (n, s)) Blind.pure fun s ↦ ?_
      rw [joinThreads, ht]
    | some thread =>
      by_cases hc : current = some t.id
      · refine (blind_note () [noteSelfWait t.id]).bind (fun _ ↦ ih) fun s ↦ ?_
        rw [joinThreads, ht]
        exact if_pos hc
      · cases hp : thread.panicked with
        | false =>
          refine hdetach.bind (fun _ ↦ ih) fun s ↦ ?_
          rw [joinThreads, ht]
          dsimp only
          rw [if_neg hc, hp]
          rfl
        | true =>
          have hpanicked := (blind_note () [notePanicked t]).bind (fun _ ↦ ih.map (· + 1))
            fun _ ↦ rfl
          refine hdetach.bind (fun _ ↦ hpanicked) fun s ↦ ?_
          rw [joinThreads, ht]
          dsimp only
          rw [if_neg hc, hp]
          rfl

theorem blind_waitTasksEnd (current : Option TaskId) : Blind (·.waitTasksEnd current) :=
  .of_view (·.registry.tasks) (fun _ ↦ rfl) (g := fun tasks s ↦
    ((s.joinThreads current tasks).1, (s.joinThreads current tasks).2.note
      [noteEnded (s.joinThreads current tasks).1]))
    (fun tasks ↦ (blind_joinThreads current tasks).bind
      (fun n ↦ blind_note n [noteEnded n]) fun _ ↦ rfl) fun _ ↦ rfl

/-! ## Items -/

theorem blind_allocate (size : Nat) (tags : Tags) : Blind (·.allocate size tags) := by
  refine .of_view (·.allocator) (fun _ ↦ rfl) (g := fun a s ↦
    ((a.allocate size tags).1.mapError .pool,
      { s with allocator := (a.allocate size tags).2 }.note (a.allocateNotes size tags))) ?_ ?_
  · exact fun a ↦ blind_setAllocator _ _ _
  · intro s
    rw [allocate]
    rcases s.allocator.allocate size tags with ⟨err | h, a⟩ <;> rfl

theorem blind_free (h : ItemHandle) (releaseTag : UInt16) : Blind (·.free h releaseTag) := by
  refine .of_view (·.allocator) (fun _ ↦ rfl) (g := fun a s ↦
    (a.free h releaseTag).casesOn
      (fun err ↦ (.error (.pool err), (s.note (a.freeNotes h releaseTag)).escalate (.pool err)))
      fun b ↦ (.ok (), { s with allocator := b }.note (a.freeNotes h releaseTag))) ?_ ?_
  · intro a
    rcases a.free h releaseTag with err | b
    · exact blind_fail _ _ _
    · exact blind_setAllocator _ b _
  · intro s
    rw [free]
    cases s.allocator.free h releaseTag <;> rfl

theorem blind_releaseEnvelope (e : Envelope) : Blind (·.releaseEnvelope e) := by
  refine .of_view (·.allocator) (fun _ ↦ rfl) (g := fun a s ↦
    (e.release a).casesOn
      (fun err ↦ (.error (.pool err), (s.note (e.releaseNotes a)).escalate (.pool err)))
      fun b ↦ (.ok (), { s with allocator := b }.note (e.releaseNotes a))) ?_ ?_
  · intro a
    rcases e.release a with err | b
    · exact blind_fail _ _ _
    · exact blind_setAllocator _ b _
  · intro s
    rw [releaseEnvelope]
    cases e.release s.allocator <;> rfl

theorem blind_releasePayload (kind : MessageKind) (p : Payload) :
    Blind (·.releasePayload kind p) := by
  refine .of_view (·.allocator) (fun _ ↦ rfl) (g := fun a s ↦
    (p.release a kind).casesOn
      (fun err ↦ (.refused (.pool err), s.note (p.releaseNotes a kind)))
      fun b ↦ (.done, { s with allocator := b }.note (p.releaseNotes a kind))) ?_ ?_
  · intro a
    rcases p.release a kind with err | b
    · exact blind_note _ _
    · exact blind_setAllocator _ b _
  · intro s
    rw [releasePayload]
    cases p.release s.allocator kind <;> rfl

theorem blind_access (h : ItemHandle) (r : Allocator → Except PoolError Allocator) :
    Blind fun s ↦ s.access h (r s.allocator) := by
  refine .of_view (·.allocator) (fun _ ↦ rfl) (g := fun a s ↦
    (r a).casesOn (fun err ↦ (.refused (.pool err), s.note (a.accessNotes h)))
      fun b ↦ (.done, { s with allocator := b }.note (a.accessNotes h))) ?_ ?_
  · intro a
    rcases r a with err | b
    · exact blind_note _ _
    · exact blind_setAllocator _ b _
  · intro s
    dsimp only
    cases r s.allocator <;> rfl

theorem blind_readItem (h : ItemHandle) : Blind (·.readItem h) :=
  .of_view (·.allocator) (fun _ ↦ rfl)
    (fun a ↦ blind_note (Answer.ofResult .bytes ((a.read h).mapError .pool)) (a.accessNotes h))
    fun _ ↦ rfl

theorem blind_duplicateItem (h : ItemHandle) : Blind (·.duplicateItem h) :=
  .of_view (·.allocator) (fun _ ↦ rfl)
    (fun a ↦ blind_setAllocator (Answer.ofResult .item ((a.duplicate h).1.mapError .pool))
      (a.duplicate h).2 (a.duplicateNotes h)) fun _ ↦ rfl

/-! ## Deliveries -/

@[simp] theorem registry_core (s : TaskSystem) : s.core.registry = s.registry := rfl

@[simp] theorem tap_core (s : TaskSystem) : s.core.tap = s.tap := rfl

theorem core_tapDelivery (s : TaskSystem) (target : TaskId) (e : Envelope) :
    (s.tapDelivery target e).core = s.core.tapDelivery target e := by
  rw [tapDelivery, tapDelivery, tap_core]
  cases s.tap with
  | none => rfl
  | some records => rfl

theorem blind_deliver (target : TaskId) (e : Envelope) : Blind (·.deliver target e) := by
  refine .of_core fun s ↦ ?_
  rw [deliver, deliver]
  dsimp only [registry_core]
  cases s.registry.find? target with
  | none => exact ⟨rfl, rfl⟩
  | some t =>
    dsimp only
    cases t.mailbox.enqueue? e with
    | none => exact ⟨rfl, rfl⟩
    | some m =>
      refine ⟨rfl, ?_⟩
      dsimp only
      rw [core_tapDelivery, core_tapDelivery]
      rfl

theorem blind_send (e : Envelope) : Blind (·.send e) := by
  cases hd : e.destination with
  | task target =>
    refine (blind_deliver target e).bind (g := fun x s ↦ (x, s)) Blind.pure fun s ↦ ?_
    rw [send, hd]
  | broadcast =>
    refine .of_core fun s ↦ ?_
    rw [send, send, hd]
    exact ⟨rfl, rfl⟩

theorem blind_discard (e : Envelope) : Blind fun s ↦ ((), s.discard e) := by
  refine (blind_releaseEnvelope e).bind (g := fun r s ↦
    r.casesOn (fun err ↦ ((), s.note [noteNotReleased err])) fun _ ↦ ((), s)) ?_ fun s ↦ ?_
  · rintro (err | _)
    · exact blind_note _ _
    · exact .pure _
  · dsimp only
    rw [discard]
    rcases s.releaseEnvelope e with ⟨err | _, s₁⟩ <;> rfl

theorem blind_deliverOrDiscard (target : TaskId) (e : Envelope) :
    Blind (·.deliverOrDiscard target e) := by
  refine (blind_deliver target e).bind (g := fun r s ↦
    r.casesOn (fun err ↦ (⟨0, 1⟩, s.discard err.envelope)) fun _ ↦ (⟨1, 0⟩, s)) ?_ fun s ↦ ?_
  · rintro (err | _)
    · exact (blind_discard err.envelope).map fun _ ↦ (⟨0, 1⟩ : BroadcastReport)
    · exact .pure _
  · dsimp only
    rw [deliverOrDiscard]
    rcases s.deliver target e with ⟨err | _, s₁⟩ <;> rfl

theorem blind_deliverFork (e : Envelope) (target : TaskId) : Blind (·.deliverFork e target) := by
  refine .of_view (·.allocator) (fun _ ↦ rfl) (g := fun a s ↦
    (e.fork target a).1.casesOn
      (fun err ↦ (⟨0, 1⟩, { s with allocator := (e.fork target a).2 }.note
        (e.forkNotes a ++ [noteCopyFailed e target err])))
      fun copy ↦ ({ s with allocator := (e.fork target a).2 }.note
        (e.forkNotes a)).deliverOrDiscard target copy) ?_ ?_
  · intro a
    rcases e.fork target a with ⟨err | copy, b⟩
    · exact blind_setAllocator _ b _
    · exact (blind_setAllocator () b (e.forkNotes a)).bind
        (fun _ ↦ blind_deliverOrDiscard target copy) fun _ ↦ rfl
  · intro s
    dsimp only
    rw [deliverFork]
    rcases e.fork target s.allocator with ⟨err | copy, b⟩ <;> rfl

theorem blind_deliverAll (e : Envelope) (targets : List TaskId) :
    Blind (·.deliverAll e targets) := by
  induction targets with
  | nil => exact .pure BroadcastReport.none
  | cons target rest ih =>
    cases rest with
    | nil => exact blind_deliverOrDiscard target (e.readdress target)
    | cons next rest => exact (blind_deliverFork e target).bind (fun r ↦ ih.map r.add) fun _ ↦ rfl

theorem blind_broadcast (e : Envelope) : Blind (·.broadcast e) := by
  have hcount (r : BroadcastReport) (n : Nat) : Blind fun s : TaskSystem ↦
      (r, { s with metrics := s.metrics.recordBroadcast n }) :=
    .of_core fun _ ↦ ⟨rfl, rfl⟩
  refine .of_view (·.recipients e.origin) (fun _ ↦ rfl) (g := fun targets s ↦
    targets.casesOn
      (BroadcastReport.none, { (s.note [noteNoRecipients e]).discard e with
        metrics := ((s.note [noteNoRecipients e]).discard e).metrics.recordBroadcast 0 })
      fun target rest ↦ ((s.deliverAll e (target :: rest)).1,
        { (s.deliverAll e (target :: rest)).2 with
          metrics := (s.deliverAll e (target :: rest)).2.metrics.recordBroadcast
            (s.deliverAll e (target :: rest)).1.failed }.note
          [noteBroadcast e (s.deliverAll e (target :: rest)).1])) ?_ ?_
  · rintro (_ | ⟨target, rest⟩)
    · have hdrop : Blind fun s ↦ ((), (s.note [noteNoRecipients e]).discard e) :=
        (blind_note () [noteNoRecipients e]).bind (fun _ ↦ blind_discard e) fun _ ↦ rfl
      exact hdrop.bind (fun _ ↦ hcount BroadcastReport.none 0) fun _ ↦ rfl
    · have hreport (r : BroadcastReport) : Blind fun s : TaskSystem ↦
          (r, { s with metrics := s.metrics.recordBroadcast r.failed }.note [noteBroadcast e r]) :=
        (hcount r r.failed).bind (fun r ↦ blind_note r [noteBroadcast e r]) fun _ ↦ rfl
      exact (blind_deliverAll e (target :: rest)).bind hreport fun _ ↦ rfl
  · intro s
    dsimp only
    rw [broadcast]
    cases s.recipients e.origin <;> rfl

theorem blind_terminateTasks (origin : TaskId) : Blind (·.terminateTasks origin) := by
  have hraise : Blind fun s : TaskSystem ↦
      ((), { s with terminating := true }.note [noteTerminating origin]) :=
    .of_core fun _ ↦ ⟨rfl, rfl⟩
  exact hraise.bind (fun _ ↦ blind_broadcast (.owning .terminate origin .broadcast .empty))
    fun _ ↦ rfl

theorem blind_tryReceive (id : TaskId) : Blind (·.tryReceive id) := by
  refine (blind_lookup id).bind (g := fun r s ↦
    r.casesOn (fun err ↦ (.error err, s)) fun t ↦ t.mailbox.dequeue?.elim (.ok none, s) fun r ↦
      (.ok (some r.1), { s with registry := s.registry.setMailbox id r.2 })) ?_ fun s ↦ ?_
  · rintro (err | t)
    · exact .pure _
    · dsimp only
      cases t.mailbox.dequeue? with
      | none => exact .pure _
      | some r => exact .of_core fun _ ↦ ⟨rfl, rfl⟩
  · dsimp only
    rw [tryReceive]
    rcases s.lookup id with ⟨err | t, s₁⟩
    · rfl
    · dsimp only
      cases t.mailbox.dequeue? <;> rfl

theorem blind_requestShutdown (x : α) : Blind fun s ↦ (x, s.requestShutdown) := by
  refine .of_view (·.terminating) (fun _ ↦ rfl) (g := fun b s ↦
    b.casesOn (x, { s with terminating := true }.note [⟨.info, speaker, "Shutdown requested", []⟩])
      (x, s)) ?_ ?_
  · rintro (_ | _)
    · exact .of_core fun _ ↦ ⟨rfl, rfl⟩
    · exact .pure x
  · intro s
    dsimp only
    rw [requestShutdown]
    cases s.terminating <;> rfl

/-! ## Operations -/

/-- **Every operation is blind** to the counters and to the journal. -/
theorem blind_perform (op : Operation) : Blind (·.perform op) := by
  cases op with
  | register id name => exact (blind_registerTask id name).map (Answer.ofResult .task)
  | spawn id name => exact (blind_spawnTask id name).map (Answer.ofResult fun _ ↦ .done)
  | unregister id => exact (blind_unregisterTask id).map Answer.unregistered
  | lookup id => exact (blind_lookup id).map (Answer.ofResult .task)
  | recordPanic id => exact .of_core fun _ ↦ ⟨rfl, rfl⟩
  | waitTasksEnd current => exact (blind_waitTasksEnd current).map Answer.panicked
  | allocate size tags => exact (blind_allocate size tags).map (Answer.ofResult .item)
  | free h releaseTag => exact (blind_free h releaseTag).map (Answer.ofResult fun _ ↦ .done)
  | duplicate h => exact blind_duplicateItem h
  | read h => exact blind_readItem h
  | write h offset bytes => exact blind_access h (·.write h offset bytes)
  | update h change => exact blind_access h (·.update h change)
  | setInfo h index value => exact blind_access h (·.setInfo h index value)
  | releasePayload kind p => exact blind_releasePayload kind p
  | releaseEnvelope e => exact (blind_releaseEnvelope e).map (Answer.ofResult fun _ ↦ .done)
  | send e => exact (blind_send e).map Answer.ofSend
  | broadcast e => exact (blind_broadcast e).map Answer.delivered
  | terminateTasks origin => exact (blind_terminateTasks origin).map Answer.delivered
  | tryReceive id => exact (blind_tryReceive id).map (Answer.ofResult .received)
  | requestShutdown => exact blind_requestShutdown Answer.done
  | drainTap => exact .of_core fun _ ↦ ⟨rfl, rfl⟩
  | report entries => exact blind_note Answer.done entries

/-- **Systems of one core cannot be told apart**: the same operations are answered in the same way,
and lead to systems of one core again. -/
theorem run_of_core (h : s.core = t.core) (ops : List Operation) :
    s.answers ops = t.answers ops ∧ (s.run ops).core = (t.run ops).core := by
  induction ops generalizing s t with
  | nil => exact ⟨rfl, h⟩
  | cons op ops ih =>
    obtain ⟨hanswer, hcore⟩ := blind_perform op s t h
    obtain ⟨hanswers, hrun⟩ := ih hcore
    exact ⟨congrArg₂ List.cons hanswer hanswers, hrun⟩

end TaskMessaging.TaskSystem
