import TaskMessaging.Proofs.TaskSystem.Broadcast

/-!
# First in, first out

What a task receives is what was delivered to it, in the order of the deliveries and with nothing
lost, repeated or changed. The law is about a *registration*: it starts with an empty mailbox and
lasts until the task is unregistered, whatever the other tasks do meanwhile.

## Deliveries

A delivery is an envelope that `deliver` puts into a mailbox. One operation makes any number of
them, so `deliveries` follows a broadcast step by step, through the forks that could not be made and
the mailboxes that were full, and collects the envelopes that were accepted. A receipt is an
envelope that a task was answered. Neither is part of the system; they are what happened to it.

## The invariant

`Passes` says of one mailbox that what was in it, followed by what was delivered, is what was
received, followed by what is in it now. Steps of this kind compose, so it is enough to know it of
a single delivery and of a single receipt.
-/

namespace TaskMessaging

/-- The envelopes for one task. -/
def mailFor (id : TaskId) (mail : List (TaskId × Envelope)) : List Envelope :=
  (mail.filter fun x ↦ x.1 = id).map (·.2)

section mailFor

variable {id target : TaskId} {e : Envelope}

@[simp] theorem mailFor_nil (id : TaskId) : mailFor id [] = [] := rfl

@[simp] theorem mailFor_append (id : TaskId) (l k : List (TaskId × Envelope)) :
    mailFor id (l ++ k) = mailFor id l ++ mailFor id k := by
  rw [mailFor, List.filter_append, List.map_append]
  rfl

@[simp] theorem mailFor_self (id : TaskId) (e : Envelope) : mailFor id [(id, e)] = [e] := by
  simp [mailFor]

theorem mailFor_of_ne (h : target ≠ id) (e : Envelope) : mailFor id [(target, e)] = [] := by
  simp [mailFor, h]

theorem mem_of_mem_mailFor {mail : List (TaskId × Envelope)} (h : e ∈ mailFor id mail) :
    (id, e) ∈ mail := by
  obtain ⟨⟨target, e'⟩, hx, rfl⟩ := List.mem_map.mp h
  obtain ⟨hmem, hid⟩ := List.mem_filter.mp hx
  obtain rfl : target = id := by simpa using hid
  exact hmem

end mailFor

/-- The task that an operation registers. -/
def Operation.registers? : Operation → Option TaskId
  | .register id _ | .spawn id _ => some id
  | _ => none

namespace TaskSystem

variable {s s' s'' : TaskSystem} {id j target : TaskId} {e : Envelope}

/-- The mailbox of a registered task. -/
def mailbox? (s : TaskSystem) (id : TaskId) : Option Mailbox :=
  (s.registry.find? id).map (·.mailbox)

theorem mailbox?_of_registry (h : s'.registry = s.registry) (id : TaskId) :
    s'.mailbox? id = s.mailbox? id := by
  rw [mailbox?, mailbox?, h]

/-! ## Deliveries and receipts -/

/-- The delivery of an envelope, if the mailbox of the target accepts it. -/
def delivery (s : TaskSystem) (target : TaskId) (e : Envelope) : List (TaskId × Envelope) :=
  match (s.deliver target e).1 with
  | .ok _ => [(target, e)]
  | .error _ => []

/-- The delivery of a fork, if it can be made. -/
def forkDelivery (s : TaskSystem) (e : Envelope) (target : TaskId) : List (TaskId × Envelope) :=
  match e.fork target s.allocator with
  | (.ok copy, a) => ({ s with allocator := a }.note (e.forkNotes s.allocator)).delivery target copy
  | (.error _, _) => []

/-- The deliveries of an envelope to several tasks. -/
def deliveriesTo (s : TaskSystem) (e : Envelope) : List TaskId → List (TaskId × Envelope)
  | [] => []
  | [last] => s.delivery last (e.readdress last)
  | target :: next :: rest =>
    s.forkDelivery e target ++ (s.deliverFork e target).2.deliveriesTo e (next :: rest)

/-- The deliveries of a broadcast. -/
def broadcastDeliveries (s : TaskSystem) (e : Envelope) : List (TaskId × Envelope) :=
  s.deliveriesTo e (s.recipients e.origin)

/-- The deliveries that an operation makes, in their order. -/
def deliveries (s : TaskSystem) : Operation → List (TaskId × Envelope)
  | .send e =>
    match e.destination with
    | .task target => s.delivery target e
    | .broadcast => []
  | .broadcast e => s.broadcastDeliveries e
  | .terminateTasks origin =>
    ({ s with terminating := true }.note [noteTerminating origin]).broadcastDeliveries
      (.owning .terminate origin .broadcast .empty)
  | _ => []

/-- What a task is handed by an operation. A task that waits for an envelope tries again until there
is one. -/
def receipts (s : TaskSystem) : Operation → List (TaskId × Envelope)
  | .tryReceive id =>
    match (s.tryReceive id).1 with
    | .ok (some e) => [(id, e)]
    | _ => []
  | _ => []

/-- The deliveries of a run. -/
def delivered (s : TaskSystem) : List Operation → List (TaskId × Envelope)
  | [] => []
  | op :: ops => s.deliveries op ++ (s.perform op).2.delivered ops

/-- The receipts of a run. -/
def received (s : TaskSystem) : List Operation → List (TaskId × Envelope)
  | [] => []
  | op :: ops => s.receipts op ++ (s.perform op).2.received ops

/-! ## Passing through a mailbox -/

/-- What leaves the mailbox of a task and what enters it. -/
def Passes (s s' : TaskSystem) (id : TaskId) (out into : List Envelope) : Prop :=
  ∀ m, s.mailbox? id = some m → ∃ m', s'.mailbox? id = some m' ∧ m'.capacity = m.capacity ∧
    m.queue ++ into = out ++ m'.queue

namespace Passes

variable {out out' into into' : List Envelope}

theorem of_mailbox? (h : s'.mailbox? id = s.mailbox? id) : Passes s s' id [] [] := by
  intro m hm
  exact ⟨m, h.trans hm, rfl, List.append_nil _⟩

theorem of_registry (h : s'.registry = s.registry) : Passes s s' id [] [] :=
  of_mailbox? (mailbox?_of_registry h id)

theorem trans (h : Passes s s' id out into) (h' : Passes s' s'' id out' into') :
    Passes s s'' id (out ++ out') (into ++ into') := by
  intro m hm
  obtain ⟨m', hm', hcap, hq⟩ := h m hm
  obtain ⟨m'', hm'', hcap', hq'⟩ := h' m' hm'
  refine ⟨m'', hm'', hcap'.trans hcap, ?_⟩
  calc m.queue ++ (into ++ into') = (m.queue ++ into) ++ into' := (List.append_assoc ..).symm
    _ = out ++ (m'.queue ++ into') := by rw [hq, List.append_assoc]
    _ = (out ++ out') ++ m''.queue := by rw [hq', List.append_assoc]

/-- Only the registry matters, before and after. -/
theorem congr {t t' : TaskSystem} (h : Passes s s' id out into) (ht : t.registry = s.registry)
    (ht' : t'.registry = s'.registry) : Passes t t' id out into := by
  intro m hm
  rw [mailbox?_of_registry ht] at hm
  obtain ⟨m', hm', hrest⟩ := h m hm
  exact ⟨m', (mailbox?_of_registry ht' id).trans hm', hrest⟩

end Passes

theorem mailbox?_setMailbox_of_ne (h : j ≠ id) {m : Mailbox}
    (hr : s'.registry = s.registry.setMailbox id m) : s'.mailbox? j = s.mailbox? j := by
  rw [mailbox?, mailbox?, hr, Registry.find?_setMailbox_of_ne h]

theorem mailbox?_setMailbox_self {t : Task} {m : Mailbox} (hf : s.registry.find? id = some t)
    (hr : s'.registry = s.registry.setMailbox id m) : s'.mailbox? id = some m := by
  rw [mailbox?, hr, Registry.find?_setMailbox_self hf]
  rfl

/-! ## Deliveries pass through mailboxes -/

theorem delivery_of_accepts (ha : s.accepts target = true) (e : Envelope) :
    s.delivery target e = [(target, e)] := by
  obtain ⟨t, m, -, -, hok, -⟩ := deliver_of_accepts ha e
  rw [delivery, hok]

theorem delivery_of_not_accepts (ha : s.accepts target = false) (e : Envelope) :
    s.delivery target e = [] := by
  obtain ⟨reason, herr, -⟩ := deliver_of_not_accepts ha e
  rw [delivery, herr]

theorem passes_deliver (s : TaskSystem) (target : TaskId) (e : Envelope) (id : TaskId) :
    Passes s (s.deliver target e).2 id [] (mailFor id (s.delivery target e)) := by
  cases ha : s.accepts target with
  | false =>
    obtain ⟨reason, -, hr⟩ := deliver_of_not_accepts ha e
    rw [delivery_of_not_accepts ha]
    exact .of_registry hr
  | true =>
    obtain ⟨t, m', hf, henq, -, hr⟩ := deliver_of_accepts ha e
    rw [delivery_of_accepts ha]
    by_cases hid : target = id
    · subst hid
      intro m hm
      obtain ⟨-, hcap, hq⟩ := Mailbox.enqueue?_eq_some.mp henq
      rw [mailbox?, hf, Option.map_some, Option.some.injEq] at hm
      subst hm
      refine ⟨m', mailbox?_setMailbox_self hf hr, hcap, ?_⟩
      rw [mailFor_self, hq, List.nil_append]
    · rw [mailFor_of_ne hid]
      exact .of_mailbox? (mailbox?_setMailbox_of_ne (Ne.symm hid) hr)

theorem passes_deliverOrDiscard (s : TaskSystem) (target : TaskId) (e : Envelope) (id : TaskId) :
    Passes s (s.deliverOrDiscard target e).2 id [] (mailFor id (s.delivery target e)) := by
  refine (passes_deliver s target e id).congr rfl ?_
  rw [deliverOrDiscard]
  rcases s.deliver target e with ⟨err | _, s₁⟩
  · exact registry_discard s₁ err.envelope
  · rfl

theorem passes_deliverFork (s : TaskSystem) (e : Envelope) (target id : TaskId) :
    Passes s (s.deliverFork e target).2 id [] (mailFor id (s.forkDelivery e target)) := by
  rw [deliverFork, forkDelivery]
  rcases e.fork target s.allocator with ⟨err | copy, a⟩
  · exact .of_registry rfl
  · exact (passes_deliverOrDiscard ({ s with allocator := a }.note (e.forkNotes s.allocator)) target
      copy id).congr rfl rfl

theorem passes_deliverAll (s : TaskSystem) (e : Envelope) (targets : List TaskId) (id : TaskId) :
    Passes s (s.deliverAll e targets).2 id [] (mailFor id (s.deliveriesTo e targets)) := by
  -- A recipient may be reached or not; either way the step passes on what it delivered.
  induction targets generalizing s with
  | nil => exact .of_registry rfl
  | cons target rest ih =>
    cases rest with
    | nil => exact passes_deliverOrDiscard s target (e.readdress target) id
    | cons next rest =>
      rw [deliveriesTo, mailFor_append]
      exact (passes_deliverFork s e target id).trans (ih (s.deliverFork e target).2)

theorem passes_broadcast (s : TaskSystem) (e : Envelope) (id : TaskId) :
    Passes s (s.broadcast e).2 id [] (mailFor id (s.broadcastDeliveries e)) := by
  rw [broadcastDeliveries]
  by_cases hn : s.recipients e.origin = []
  · obtain ⟨-, hr, -⟩ := broadcast_of_no_recipients hn
    rw [hn]
    exact .of_registry hr
  · obtain ⟨-, hr, -⟩ := broadcast_of_recipients hn
    exact (passes_deliverAll s e _ id).congr rfl hr

theorem passes_send (s : TaskSystem) (e : Envelope) (id : TaskId) :
    Passes s (s.send e).2 id [] (mailFor id (s.deliveries (.send e))) := by
  rw [send, deliveries]
  cases e.destination with
  | broadcast => exact .of_registry rfl
  | task target => exact passes_deliver s target e id

/-! ## Receipts -/

theorem passes_tryReceive (s : TaskSystem) (j id : TaskId) :
    Passes s (s.tryReceive j).2 id (mailFor id (s.receipts (.tryReceive j))) [] := by
  rw [receipts, tryReceive, lookup]
  cases hf : s.registry.find? j with
  | none => exact .of_registry rfl
  | some t =>
    dsimp only
    cases hd : t.mailbox.dequeue? with
    | none => exact .of_registry rfl
    | some r =>
      obtain ⟨e, m'⟩ := r
      obtain ⟨hq, hcap⟩ := Mailbox.dequeue?_eq_some.mp hd
      by_cases hid : j = id
      · subst hid
        intro m hm
        rw [mailbox?, hf, Option.map_some, Option.some.injEq] at hm
        subst hm
        refine ⟨m', mailbox?_setMailbox_self hf rfl, hcap, ?_⟩
        rw [mailFor_self, hq, List.append_nil]
        rfl
      · dsimp only
        rw [mailFor_of_ne hid]
        exact .of_mailbox? (mailbox?_setMailbox_of_ne (Ne.symm hid) rfl)

/-! ## Operations that leave the mailboxes alone -/

/-- A change of tasks that spares their mailboxes. -/
theorem mailbox?_update {f : Task → Task} (hid : ∀ t, (f t).id = t.id)
    (hm : ∀ t, (f t).mailbox = t.mailbox) (hr : s'.registry = s.registry.update j f)
    (id : TaskId) : s'.mailbox? id = s.mailbox? id := by
  rw [mailbox?, mailbox?, hr, Registry.find?_update hid, Option.map_map]
  congr 1
  funext t
  by_cases ht : t.id = j
  · simp [ht, hm]
  · simp [ht]

theorem mailbox?_joinThreads (s : TaskSystem) (current : Option TaskId) (tasks : List Task)
    (id : TaskId) : (s.joinThreads current tasks).2.mailbox? id = s.mailbox? id := by
  induction tasks generalizing s with
  | nil => rfl
  | cons t ts ih =>
    rw [joinThreads]
    split
    · exact ih s
    · split
      · exact ih _
      · have hset : mailbox? { s with registry := s.registry.setThread t.id none } id =
            s.mailbox? id :=
          mailbox?_update (f := fun t ↦ { t with thread := none }) (fun _ ↦ rfl) (fun _ ↦ rfl) rfl
            id
        split
        · exact (ih _).trans hset
        · exact (ih _).trans hset

theorem registry_allocate (s : TaskSystem) (size : Nat) (tags : Tags) :
    (s.allocate size tags).2.registry = s.registry := by
  rw [allocate]
  split <;> rfl

theorem registry_free (s : TaskSystem) (h : ItemHandle) (releaseTag : UInt16) :
    (s.free h releaseTag).2.registry = s.registry := by
  rw [free]
  split
  · rfl
  · exact registry_escalate _ _

theorem registry_access (s : TaskSystem) (h : ItemHandle) (r : Except PoolError Allocator) :
    (s.access h r).2.registry = s.registry := by
  cases r <;> rfl

theorem registry_releasePayload (s : TaskSystem) (kind : MessageKind) (p : Payload) :
    (s.releasePayload kind p).2.registry = s.registry := by
  rw [releasePayload]
  split <;> rfl

theorem registry_requestShutdown (s : TaskSystem) : s.requestShutdown.registry = s.registry := by
  rw [requestShutdown]
  split <;> rfl

theorem registry_lookup (s : TaskSystem) (id : TaskId) : (s.lookup id).2.registry = s.registry := by
  rw [lookup]
  split <;> rfl

/-! ## Registrations -/

theorem registerTask_of_error {name : String} {err : TaskError}
    (h : s.registry.register id name = .error err) :
    s.registerTask id name = (.error err, s.escalate err) := by
  rw [registerTask, h]

theorem registerTask_of_ok {name : String} {t : Task} {r : Registry}
    (h : s.registry.register id name = .ok (t, r)) :
    s.registerTask id name =
      (.ok t, { s with registry := r }.note [Registry.noteRegistered t]) := by
  rw [registerTask, h]

/-- The outcome of an operation that registers a task. -/
inductive Registers (s : TaskSystem) (id : TaskId) : Answer → TaskSystem → Prop where
  | refused {s' : TaskSystem} {err : TaskError} : id = .core ∨ (s.mailbox? id).isSome →
      s'.registry = s.registry → Registers s id (.refused err) s'
  | registered {s' : TaskSystem} {answer : Answer} : id ≠ .core → s.mailbox? id = none →
      (∀ err, answer ≠ .refused err) → s'.mailbox? id = some (.create s.registry.mailboxCapacity) →
      (∀ j, j ≠ id → s'.mailbox? j = s.mailbox? j) → Registers s id answer s'

theorem registers_registerTask (s : TaskSystem) (id : TaskId) (name : String) :
    Registers s id (.ofResult .task (s.registerTask id name).1) (s.registerTask id name).2 := by
  cases hr : s.registry.register id name with
  | error err =>
    rw [registerTask_of_error hr]
    refine .refused ?_ (registry_escalate s err)
    refine (Registry.register_eq_error hr).imp_right fun hc ↦ ?_
    rw [mailbox?, Option.isSome_map]
    exact hc
  | ok x =>
    obtain ⟨t, r⟩ := x
    rw [registerTask_of_ok hr]
    obtain ⟨hcore, hnew, ht, -⟩ := Registry.register_eq_ok hr
    refine .registered hcore ?_ ?_ ?_ fun j hj ↦ ?_
    · rw [mailbox?, Option.map_eq_none_iff, ← Option.not_isSome_iff_eq_none]
      exact fun hs ↦ hnew (Registry.contains_iff.mp hs)
    · intro err he
      cases he
    · change (r.find? id).map (·.mailbox) = _
      rw [Registry.find?_register_self hr, ht]
      rfl
    · change (r.find? j).map (·.mailbox) = _
      rw [Registry.find?_register_of_ne hr hj]
      rfl

theorem registers_spawnTask (s : TaskSystem) (id : TaskId) (name : String) :
    Registers s id (.ofResult (fun _ ↦ .done) (s.spawnTask id name).1) (s.spawnTask id name).2 := by
  have h := registers_registerTask s id name
  rw [spawnTask]
  rcases hr : s.registerTask id name with ⟨err | t, s₁⟩
  · rw [hr] at h
    cases h with
    | refused hwhy hsame => exact .refused hwhy hsame
    | registered _ _ hok => exact absurd rfl (hok err)
  · rw [hr] at h
    cases h with
    | registered hcore hnew _ hself hothers =>
      have hthread (k : TaskId) : ({ s₁ with
          registry := s₁.registry.setThread id (some ⟨false⟩)
          metrics := s₁.metrics.recordTaskSpawned }.note [noteStarted id name]).mailbox? k =
            s₁.mailbox? k :=
        mailbox?_update (f := fun t ↦ { t with thread := some ⟨false⟩ }) (fun _ ↦ rfl)
          (fun _ ↦ rfl) rfl k
      refine .registered hcore hnew ?_ ((hthread id).trans hself) fun j hj ↦
        (hthread j).trans (hothers j hj)
      intro err he
      cases he

theorem registers_perform {op : Operation} (h : op.registers? = some id) :
    Registers s id (s.perform op).1 (s.perform op).2 := by
  cases op with
  | register j name =>
    cases h
    exact registers_registerTask s id name
  | spawn j name =>
    cases h
    exact registers_spawnTask s id name
  | _ => cases h

/-- A registration does not touch the mailboxes that there are. -/
theorem Registers.passes {answer : Answer} (h : Registers s j answer s') :
    Passes s s' id [] [] := by
  cases h with
  | refused _ hsame => exact .of_registry hsame
  | registered _ hnew _ _ hothers =>
    by_cases hid : id = j
    · -- There was no mailbox to pass anything through.
      intro m hm
      rw [hid, hnew] at hm
      cases hm
    · exact .of_mailbox? (hothers id hid)

theorem mailbox?_unregisterTask_of_ne (s : TaskSystem) (h : j ≠ id) :
    (s.unregisterTask id).2.mailbox? j = s.mailbox? j := by
  have hf := Registry.find?_unregister_of_ne s.registry h
  rw [unregisterTask]
  split
  · next t r hr =>
    rw [hr] at hf
    change (r.find? j).map (·.mailbox) = _
    rw [hf]
    rfl
  · rfl

/-! ## Runs -/

/-- **One operation** passes on the mail of a task, unless it ends the registration. -/
theorem passes_perform (s : TaskSystem) {op : Operation} (hop : op ≠ .unregister id) :
    Passes s (s.perform op).2 id (mailFor id (s.receipts op)) (mailFor id (s.deliveries op)) := by
  cases op with
  | register j name => exact (registers_registerTask s j name).passes
  | spawn j name => exact (registers_spawnTask s j name).passes
  | unregister j =>
    exact .of_mailbox? (mailbox?_unregisterTask_of_ne s fun he ↦ hop (congrArg _ he.symm))
  | lookup j => exact .of_registry (registry_lookup s j)
  | recordPanic j =>
    exact .of_mailbox? (mailbox?_update (f := fun t ↦ { t with
      thread := t.thread.map fun _ ↦ ⟨true⟩ }) (fun _ ↦ rfl) (fun _ ↦ rfl) rfl id)
  | waitTasksEnd current => exact .of_mailbox? (mailbox?_joinThreads s current _ id)
  | allocate size tags => exact .of_registry (registry_allocate s size tags)
  | free h releaseTag => exact .of_registry (registry_free s h releaseTag)
  | duplicate h => exact .of_registry rfl
  | read h => exact .of_registry rfl
  | write h offset bytes => exact .of_registry (registry_access s h _)
  | update h change => exact .of_registry (registry_access s h _)
  | setInfo h index value => exact .of_registry (registry_access s h _)
  | releasePayload kind p => exact .of_registry (registry_releasePayload s kind p)
  | releaseEnvelope e => exact .of_registry (registry_releaseEnvelope s e)
  | send e => exact passes_send s e id
  | broadcast e => exact passes_broadcast s e id
  | terminateTasks origin =>
    exact (passes_broadcast ({ s with terminating := true }.note [noteTerminating origin])
      (.owning .terminate origin .broadcast .empty) id).congr rfl rfl
  | tryReceive j => exact passes_tryReceive s j id
  | requestShutdown => exact .of_registry (registry_requestShutdown s)
  | drainTap => exact .of_registry rfl
  | report entries => exact .of_registry rfl

/-- A run passes on the mail of a task for as long as the task stays registered. -/
theorem passes_run (s : TaskSystem) {ops : List Operation} (h : .unregister id ∉ ops) :
    Passes s (s.run ops) id (mailFor id (s.received ops)) (mailFor id (s.delivered ops)) := by
  induction ops generalizing s with
  | nil => exact .of_registry rfl
  | cons op ops ih =>
    rw [List.mem_cons, not_or] at h
    rw [received, delivered, mailFor_append, mailFor_append]
    exact (passes_perform s (Ne.symm h.1)).trans (ih (s.perform op).2 h.2)

/-! ## What deliveries are -/

theorem eq_of_mem_delivery {x : TaskId × Envelope} (h : x ∈ s.delivery target e) :
    x = (target, e) := by
  rw [delivery] at h
  split at h
  · exact List.mem_singleton.mp h
  · exact absurd h List.not_mem_nil

theorem copyFor_of_mem_forkDelivery {x : TaskId × Envelope} (h : x ∈ s.forkDelivery e target) :
    x.2.CopyFor e x.1 := by
  rw [forkDelivery] at h
  split at h
  · next copy a hf =>
    obtain ⟨hkind, horigin, hdest, howns⟩ := Envelope.fork_header hf
    rw [eq_of_mem_delivery h]
    exact ⟨hkind, horigin, howns, hdest⟩
  · exact absurd h List.not_mem_nil

/-- All recipients get copies of one envelope. -/
theorem copyFor_of_mem_deliveriesTo {targets : List TaskId} {x : TaskId × Envelope}
    (h : x ∈ s.deliveriesTo e targets) : x.2.CopyFor e x.1 := by
  induction targets generalizing s with
  | nil => exact absurd h List.not_mem_nil
  | cons target rest ih =>
    cases rest with
    | nil =>
      rw [eq_of_mem_delivery h]
      exact ⟨rfl, rfl, rfl, rfl⟩
    | cons next rest =>
      rw [deliveriesTo, List.mem_append] at h
      rcases h with hfork | hrest
      · exact copyFor_of_mem_forkDelivery hfork
      · exact ih hrest

/-- Whatever is delivered is addressed to its recipient. -/
theorem destination_of_mem_deliveries {op : Operation} {x : TaskId × Envelope}
    (h : x ∈ s.deliveries op) : x.2.destination = .task x.1 := by
  cases op with
  | send e =>
    rw [deliveries] at h
    split at h
    · next target hd =>
      rw [eq_of_mem_delivery h]
      exact hd
    · exact absurd h List.not_mem_nil
  | broadcast e => exact (copyFor_of_mem_deliveriesTo h).destination
  | terminateTasks origin => exact (copyFor_of_mem_deliveriesTo h).destination
  | _ => exact absurd h List.not_mem_nil

theorem destination_of_mem_delivered {ops : List Operation} {x : TaskId × Envelope}
    (h : x ∈ s.delivered ops) : x.2.destination = .task x.1 := by
  induction ops generalizing s with
  | nil => exact absurd h List.not_mem_nil
  | cons op ops ih =>
    rw [delivered, List.mem_append] at h
    rcases h with hop | hops
    · exact destination_of_mem_deliveries hop
    · exact ih hops

theorem delivered_deliverOrDiscard (s : TaskSystem) (target : TaskId) (e : Envelope) :
    (s.deliverOrDiscard target e).1.delivered = (s.delivery target e).length := by
  rw [deliverOrDiscard, delivery]
  rcases s.deliver target e with ⟨err | _, s₁⟩
  · rfl
  · rfl

theorem delivered_deliverFork (s : TaskSystem) (e : Envelope) (target : TaskId) :
    (s.deliverFork e target).1.delivered = (s.forkDelivery e target).length := by
  rw [deliverFork, forkDelivery]
  rcases e.fork target s.allocator with ⟨err | copy, a⟩
  · rfl
  · exact delivered_deliverOrDiscard _ target copy

theorem delivered_deliverAll (s : TaskSystem) (e : Envelope) (targets : List TaskId) :
    (s.deliverAll e targets).1.delivered = (s.deliveriesTo e targets).length := by
  induction targets generalizing s with
  | nil => rfl
  | cons target rest ih =>
    cases rest with
    | nil => exact delivered_deliverOrDiscard s target _
    | cons next rest =>
      rw [deliveriesTo, List.length_append, ← delivered_deliverFork, ← ih]
      rfl

/-- A broadcast reports as many deliveries as it made. -/
theorem delivered_broadcast (s : TaskSystem) (e : Envelope) :
    (s.broadcast e).1.delivered = (s.deliveries (.broadcast e)).length := by
  rw [deliveries, broadcastDeliveries]
  by_cases hn : s.recipients e.origin = []
  · rw [(broadcast_of_no_recipients hn).1, hn]
    rfl
  · rw [(broadcast_of_recipients hn).1, delivered_deliverAll]

/-- A send that succeeds delivers the envelope that was sent, and one that fails delivers none. -/
theorem deliveries_send (hd : e.destination = .task target) :
    s.deliveries (.send e) = if (s.send e).1 = .ok () then [(target, e)] else [] := by
  rw [deliveries, send, hd]
  dsimp only
  rw [delivery]
  cases (s.deliver target e).1 with
  | error err => simp
  | ok u => simp

/-! ## The law -/

/-- What became of the mail of a task: it was received in the order of the deliveries, or waits. -/
structure Fifo (id : TaskId) (capacity : Nat) (received delivered : List Envelope)
    (m : Mailbox) : Prop where
  conserved : received ++ m.queue = delivered
  bounded : m.queue.length ≤ capacity
  addressed : ∀ e ∈ delivered, e.destination = .task id
  perSender : ∀ origin, received.filter (·.origin = origin) ++ m.queue.filter (·.origin = origin) =
    delivered.filter (·.origin = origin)

theorem Fifo.of_passes {m : Mailbox} {capacity : Nat} {received delivered : List Envelope}
    (hq : [] ++ delivered = received ++ m.queue) (hc : m.capacity = capacity)
    (ha : ∀ e ∈ delivered, e.destination = .task id) : Fifo id capacity received delivered m := by
  rw [List.nil_append] at hq
  refine ⟨hq.symm, ?_, ha, fun origin ↦ ?_⟩
  · rw [Mailbox.length_queue, ← hc]
    exact m.length_le_capacity
  · rw [hq, List.filter_append]

/-- What mailboxes guarantee from a state on. -/
structure MailboxLaw (s : TaskSystem) : Prop where
  core_unregistered : s.mailbox? .core = none
  registers : ∀ op id, op.registers? = some id → Registers s id (s.perform op).1 (s.perform op).2
  /-- From a registration on, until it ends. -/
  fifo : ∀ op id, op.registers? = some id → (∀ err, (s.perform op).1 ≠ .refused err) →
    ∀ ops, .unregister id ∉ ops → ∃ m, ((s.perform op).2.run ops).mailbox? id = some m ∧
      Fifo id s.registry.mailboxCapacity (mailFor id ((s.perform op).2.received ops))
        (mailFor id ((s.perform op).2.delivered ops)) m
  /-- The deliveries of an operation are those that it reports. -/
  deliveries_send : ∀ e target, e.destination = .task target →
    s.deliveries (.send e) = if (s.send e).1 = .ok () then [(target, e)] else []
  delivered_broadcast : ∀ e, (s.broadcast e).1.delivered = (s.deliveries (.broadcast e)).length
  copyFor_of_broadcast : ∀ e, ∀ x ∈ s.deliveries (.broadcast e), x.2.CopyFor e x.1

/-- **First in, first out.** Mailboxes neither lose, duplicate nor reorder envelopes. -/
theorem Reachable.mailbox_law (r : s.Reachable) : MailboxLaw s := by
  refine ⟨?_, fun op id ↦ registers_perform, ?_, fun e target ↦ deliveries_send,
    s.delivered_broadcast, fun e x ↦ copyFor_of_mem_deliveriesTo⟩
  · rw [mailbox?, Option.map_eq_none_iff, ← Option.not_isSome_iff_eq_none]
    exact fun hs ↦ r.wellFormed.registry.core_notMem (Registry.contains_iff.mp hs)
  · intro op id hop hok ops hops
    have hr := registers_perform (s := s) hop
    generalize (s.perform op).1 = answer at hok hr
    cases hr with
    | refused => exact absurd rfl (hok _)
    | registered hcore hnew _ hself =>
      obtain ⟨m, hm, hcap, hq⟩ := passes_run (s.perform op).2 hops _ hself
      exact ⟨m, hm, .of_passes hq hcap fun e he ↦
        destination_of_mem_delivered (mem_of_mem_mailFor he)⟩

/-- A second task gets mail from the first until its mailbox is full, receives, and gets the
envelope that came back when that is sent once more. -/
def busyMailbox : List Operation :=
  [.register ⟨1⟩ "first", .send (.owning ⟨7⟩ ⟨1⟩ (.task ⟨2⟩) .empty),
    .broadcast (.borrowed ⟨8⟩ ⟨1⟩ .broadcast .empty),
    .send (.owning ⟨9⟩ ⟨1⟩ (.task ⟨2⟩) .empty), .tryReceive ⟨2⟩,
    .send (.owning ⟨9⟩ ⟨1⟩ (.task ⟨2⟩) .empty)]

theorem mailbox_law_busyMailbox :
    ∃ s : TaskSystem, build (.create 7 0) ⟨2, .report, .builtin, false, false⟩ = .ok s ∧
      MailboxLaw s ∧
      let t := (s.perform (.register ⟨2⟩ "second")).2
      mailFor ⟨2⟩ (t.received busyMailbox) = [.owning ⟨7⟩ ⟨1⟩ (.task ⟨2⟩) .empty] ∧
        ∃ m, (t.run busyMailbox).mailbox? ⟨2⟩ = some m ∧
          m.queue = [.borrowed ⟨8⟩ ⟨1⟩ (.task ⟨2⟩) .empty, .owning ⟨9⟩ ⟨1⟩ (.task ⟨2⟩) .empty] := by
  refine ⟨_, rfl, Reachable.mailbox_law (@Reachable.build _
    ⟨2, .report, .builtin, false, false⟩ _ (Allocator.Reachable.create 7 0) rfl), ?_, _, rfl, ?_⟩
  · decide
  · decide

end TaskSystem

end TaskMessaging
