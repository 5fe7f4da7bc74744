import Mathlib.Algebra.GroupWithZero.Nat
import TaskMessaging.Proofs.TaskSystem.Unregister

/-!
# What the counters count

The counters of a system are a function of what happened to it since it was built. An *activity*
is what happened, as far as somebody can tell: the attempts to deliver an envelope, each with what
it came to, the reports of the broadcasts, the tasks that were spawned, the envelopes that left a
mailbox and whether the termination flag was raised. Activities are appended to each other, and
`counters` counts what is in them.

## Books

`Books s s' a` says that `a` is what happened between two systems: whatever the counters of the one
counted, those of the other count that and `a` on top, and what entered a mailbox and did not leave
one is waiting. The last is said by counting: of each sort of envelopes as many wait as should. So
it is linear arithmetic, and no envelope is traced through the mailboxes. Nothing has to be said
about the order in which the counters are written, and the wrap-around at 2^64 is dealt with once,
where a single attempt is counted.

A broadcast is where the books could go wrong. A copy that cannot be made is a failure of the
broadcast but no attempt, and a full mailbox is both.
-/

namespace TaskMessaging

/-- An attempt to deliver an envelope, and why it failed if it did. -/
structure Attempt where
  envelope : Envelope
  failure : Option SendFailure

namespace Attempt

/-- The attempt that had a result. -/
def of (e : Envelope) : Except SendError Unit → Attempt
  | .ok _ => ⟨e, none⟩
  | .error err => ⟨e, some err.reason⟩

def isDelivered (a : Attempt) : Bool := a.failure.isNone

def isRefused (a : Attempt) : Bool := a.failure.any SendFailure.isBackpressure

def isUnknown (a : Attempt) : Bool := a.failure == some .unknownDestination

/-- The envelope was addressed to all tasks and must not be sent to one. -/
def isMisaddressed (a : Attempt) : Bool := a.failure == some .broadcastAddress

/-- A task was told of the expiry of a timer. -/
def isExpiry (a : Attempt) : Bool := a.isDelivered && a.envelope.kind == MessageKind.timerExpired

/-- The envelopes that got into a mailbox. -/
def delivered (attempts : List Attempt) : List Envelope :=
  (attempts.filter (·.isDelivered)).map (·.envelope)

theorem delivered_append (attempts others : List Attempt) :
    delivered (attempts ++ others) = delivered attempts ++ delivered others := by
  rw [delivered, List.filter_append, List.map_append, delivered, delivered]

theorem length_delivered (attempts : List Attempt) :
    (delivered attempts).length = attempts.countP (·.isDelivered) := by
  rw [delivered, List.length_map, List.countP_eq_length_filter]

end Attempt

/-- What happened to a system. -/
structure Activity where
  spawned : Nat
  attempts : List Attempt
  reports : List BroadcastReport
  /-- The envelopes that left a mailbox. -/
  taken : List Envelope
  /-- The termination flag was raised. -/
  raised : Bool

namespace Activity

def none : Activity := ⟨0, [], [], [], false⟩

def attempted (attempts : List Attempt) : Activity := { none with attempts := attempts }

def reported (r : BroadcastReport) : Activity := { none with reports := [r] }

/-- One activity after the other. -/
def append (a b : Activity) : Activity where
  spawned := a.spawned + b.spawned
  attempts := a.attempts ++ b.attempts
  reports := a.reports ++ b.reports
  taken := a.taken ++ b.taken
  raised := a.raised || b.raised

theorem append_none (a : Activity) : a.append none = a := by
  simp [append, none]

theorem none_append (a : Activity) : none.append a = a := by
  simp [append, none]

theorem append_assoc (a b c : Activity) : (a.append b).append c = a.append (b.append c) := by
  simp [append, Nat.add_assoc, Bool.or_assoc]

/-- How many recipients the broadcasts missed. -/
def missed (a : Activity) : Nat := (a.reports.map (·.failed)).sum

/-- **The counters of an activity.** -/
def counters (a : Activity) : Metrics where
  tasksSpawned := .ofNat a.spawned
  messagesSent := .ofNat a.attempts.length
  messagesDelivered := .ofNat (a.attempts.countP (·.isDelivered))
  mailboxFullEvents := .ofNat (a.attempts.countP (·.isRefused))
  unknownDestinations := .ofNat (a.attempts.countP (·.isUnknown))
  broadcasts := .ofNat a.reports.length
  broadcastFailures := .ofNat a.missed
  timerEnvelopes := .ofNat (a.attempts.countP (·.isExpiry))

variable {e : Envelope}

theorem counters_delivered (a : Activity) (e : Envelope) :
    (a.append (attempted [⟨e, Option.none⟩])).counters =
      a.counters.recordSendAttempt.recordDelivered (e.kind == MessageKind.timerExpired) := by
  cases hk : e.kind == MessageKind.timerExpired
  all_goals
    simp [counters, append, attempted, none, missed, Metrics.recordSendAttempt,
      Metrics.recordDelivered, Attempt.isDelivered, Attempt.isRefused, Attempt.isUnknown,
      Attempt.isExpiry, hk, UInt64.ofNat_add]

theorem counters_refused (a : Activity) (e : Envelope) (capacity : Nat) :
    (a.append (attempted [⟨e, some (.mailboxFull capacity)⟩])).counters =
      a.counters.recordSendAttempt.recordMailboxFull := by
  simp [counters, append, attempted, none, missed, Metrics.recordSendAttempt,
    Metrics.recordMailboxFull, Attempt.isDelivered, Attempt.isRefused, Attempt.isUnknown,
    Attempt.isExpiry, SendFailure.isBackpressure, UInt64.ofNat_add]

theorem counters_unknown (a : Activity) (e : Envelope) :
    (a.append (attempted [⟨e, some .unknownDestination⟩])).counters =
      a.counters.recordSendAttempt.recordUnknownDestination := by
  simp [counters, append, attempted, none, missed, Metrics.recordSendAttempt,
    Metrics.recordUnknownDestination, Attempt.isDelivered, Attempt.isRefused, Attempt.isUnknown,
    Attempt.isExpiry, SendFailure.isBackpressure, UInt64.ofNat_add]

theorem counters_misaddressed (a : Activity) (e : Envelope) :
    (a.append (attempted [⟨e, some .broadcastAddress⟩])).counters =
      a.counters.recordSendAttempt := by
  simp [counters, append, attempted, none, missed, Metrics.recordSendAttempt, Attempt.isDelivered,
    Attempt.isRefused, Attempt.isUnknown, Attempt.isExpiry, SendFailure.isBackpressure,
    UInt64.ofNat_add]

theorem counters_report (a : Activity) (r : BroadcastReport) :
    (a.append (reported r)).counters = a.counters.recordBroadcast r.failed := by
  simp [counters, append, reported, none, missed, Metrics.recordBroadcast, UInt64.ofNat_add]

theorem counters_spawned (a : Activity) :
    (a.append { none with spawned := 1 }).counters = a.counters.recordTaskSpawned := by
  simp [counters, append, none, missed, Metrics.recordTaskSpawned, UInt64.ofNat_add]

/-- What leaves a mailbox is not counted. -/
theorem counters_uncounted (a : Activity) (taken : List Envelope) (raised : Bool) :
    (a.append { none with taken := taken, raised := raised }).counters = a.counters := by
  simp [counters, append, none, missed]

end Activity

/-! ## Waiting envelopes -/

namespace Registry

variable {r q : Registry} {id : TaskId} {t : Task}

/-- The envelopes that wait in the mailboxes. -/
def queued (r : Registry) : List Envelope := r.tasks.flatMap fun t ↦ t.mailbox.queue

theorem WellFormed.countP_queued_setMailbox (wf : r.WellFormed) (h : r.find? id = some t)
    (m : Mailbox) (p : Envelope → Bool) :
    (r.setMailbox id m).queued.countP p + t.mailbox.queue.countP p =
      r.queued.countP p + m.queue.countP p := by
  obtain ⟨before, after, hsplit, hset⟩ := wf.exists_split h
  simp only [queued, hsplit, hset, List.flatMap_append, List.flatMap_cons, List.countP_append]
  omega

theorem WellFormed.countP_queued_unregister (wf : r.WellFormed) (h : r.find? id = some t)
    (p : Envelope → Bool) :
    (r.unregister id).2.queued.countP p + t.mailbox.queue.countP p = r.queued.countP p := by
  obtain ⟨before, after, hsplit, hrest⟩ := wf.unregister_split h
  simp only [queued, hsplit, hrest, List.flatMap_append, List.flatMap_cons, List.countP_append]
  omega

theorem queued_update {f : Task → Task} (hf : ∀ t, (f t).mailbox = t.mailbox) :
    (r.update id f).queued = r.queued := by
  rw [queued, update, queued, List.flatMap_map]
  congr 1
  funext t
  by_cases ht : t.id = id
  · rw [if_pos ht, hf]
  · rw [if_neg ht]

/-- The mailbox of a new task is empty. -/
theorem queued_register_perm {name : String} (h : r.register id name = .ok (t, q)) :
    q.queued.Perm r.queued := by
  obtain ⟨-, -, rfl, rfl⟩ := register_eq_ok h
  exact (perm_insertTask _ r.tasks).flatMap_right _

end Registry

namespace TaskSystem

variable {s s' s'' : TaskSystem} {e : Envelope} {target id : TaskId}

/-! ## Attempts -/

/-- The attempt to deliver a fork, if it can be made. -/
def forkAttempts (s : TaskSystem) (e : Envelope) (target : TaskId) : List Attempt :=
  match e.fork target s.allocator with
  | (.ok copy, a) =>
    [.of copy (({ s with allocator := a }.note (e.forkNotes s.allocator)).deliver target copy).1]
  | (.error _, _) => []

/-- The attempts to deliver an envelope to several tasks. -/
def attemptsTo (s : TaskSystem) (e : Envelope) : List TaskId → List Attempt
  | [] => []
  | [last] => [.of (e.readdress last) (s.deliver last (e.readdress last)).1]
  | target :: next :: rest =>
    s.forkAttempts e target ++ (s.deliverFork e target).2.attemptsTo e (next :: rest)

/-- The attempts that an operation makes. -/
def attempts (s : TaskSystem) : Operation → List Attempt
  | .send e => [.of e (s.send e).1]
  | .broadcast e => s.attemptsTo e (s.recipients e.origin)
  | .terminateTasks origin =>
    ({ s with terminating := true }.note [noteTerminating origin]).attemptsTo
      (.owning .terminate origin .broadcast .empty) (s.recipients origin)
  | _ => []

/-! ## Books -/

/-- What happened between two systems. -/
structure Books (s s' : TaskSystem) (a : Activity) : Prop where
  metrics : ∀ past : Activity, s.metrics = past.counters → s'.metrics = (past.append a).counters
  queued : s.WellFormed → ∀ p : Envelope → Bool,
    s'.registry.queued.countP p + a.taken.countP p =
      s.registry.queued.countP p + (Attempt.delivered a.attempts).countP p
  terminating : s'.terminating = (s.terminating || a.raised)

namespace Books

variable {a b : Activity}

theorem of_perm (hm : s'.metrics = s.metrics) (hq : s'.registry.queued.Perm s.registry.queued)
    (ht : s'.terminating = s.terminating) : Books s s' .none where
  metrics past h := by rw [hm, h, past.append_none]
  queued _ := hq.countP_eq
  terminating := by rw [ht, Activity.none, Bool.or_false]

/-- Nothing happened. -/
theorem of_same (hm : s'.metrics = s.metrics) (hq : s'.registry.queued = s.registry.queued)
    (ht : s'.terminating = s.terminating) : Books s s' .none :=
  .of_perm hm (.of_eq hq) ht

theorem trans (h : Books s s' a) (h' : Books s' s'' b) (hwf : s.WellFormed → s'.WellFormed) :
    Books s s'' (a.append b) where
  metrics past hp := by rw [h'.metrics _ (h.metrics past hp), past.append_assoc]
  queued wf p := by
    have hfirst := h.queued wf p
    have hsecond := h'.queued (hwf wf) p
    simp only [Activity.append, Attempt.delivered_append, List.countP_append]
    omega
  terminating := by rw [h'.terminating, h.terminating, Activity.append, Bool.or_assoc]

end Books

/-! ## Deliveries -/

theorem tapDelivery_same (s : TaskSystem) (target : TaskId) (e : Envelope) :
    (s.tapDelivery target e).metrics = s.metrics ∧
      (s.tapDelivery target e).terminating = s.terminating := by
  rw [tapDelivery]
  split
  · exact ⟨rfl, rfl⟩
  · exact ⟨rfl, rfl⟩

theorem books_deliver (s : TaskSystem) (target : TaskId) (e : Envelope) :
    Books s (s.deliver target e).2 (.attempted [.of e (s.deliver target e).1]) := by
  cases hf : s.registry.find? target with
  | none =>
    simp only [deliver, hf]
    exact {
      metrics := fun past hp ↦ by rw [Attempt.of, past.counters_unknown, ← hp]; rfl
      queued := fun _ _ ↦ rfl
      terminating := (Bool.or_false _).symm }
  | some t =>
    cases hm : t.mailbox.enqueue? e with
    | none =>
      simp only [deliver, hf, hm]
      exact {
        metrics := fun past hp ↦ by rw [Attempt.of, past.counters_refused, ← hp]; rfl
        queued := fun _ _ ↦ rfl
        terminating := (Bool.or_false _).symm }
    | some m =>
      have hqueue := (Mailbox.enqueue?_eq_some.mp hm).2.2
      simp only [deliver, hf, hm]
      refine ⟨fun past hp ↦ ?_, fun wf p ↦ ?_, ?_⟩
      · rw [(tapDelivery_same _ _ _).1, Attempt.of, past.counters_delivered, ← hp]
        rfl
      · rw [registry_tapDelivery]
        have hset := wf.registry.countP_queued_setMailbox hf m p
        rw [hqueue, List.countP_append] at hset
        change (s.registry.setMailbox target m).queued.countP p + 0 =
          s.registry.queued.countP p + [e].countP p
        omega
      · rw [(tapDelivery_same _ _ _).2]
        exact (Bool.or_false _).symm

theorem books_escalate (s : TaskSystem) (err : TaskError) : Books s (s.escalate err) .none := by
  rw [escalate]
  split
  · exact .of_same rfl rfl rfl
  · exact .of_same rfl rfl rfl

/-- An operation that fails notes and escalates the failure. -/
theorem books_fail (s : TaskSystem) (entries : Journal) (err : TaskError) :
    Books s ((s.note entries).escalate err) .none := by
  have h := books_escalate (s.note entries) err
  exact ⟨h.metrics, fun wf ↦ h.queued ⟨wf.allocator, wf.registry⟩, h.terminating⟩

theorem books_releaseEnvelope (s : TaskSystem) (e : Envelope) :
    Books s (s.releaseEnvelope e).2 .none := by
  rw [releaseEnvelope]
  split
  · exact .of_same rfl rfl rfl
  · exact books_fail s _ _

theorem books_discard (s : TaskSystem) (e : Envelope) : Books s (s.discard e) .none := by
  have hrelease := books_releaseEnvelope s e
  rw [discard]
  rcases hr : s.releaseEnvelope e with ⟨err | _, s₁⟩
  · rw [hr] at hrelease
    exact ⟨hrelease.metrics, hrelease.queued, hrelease.terminating⟩
  · rw [hr] at hrelease
    exact hrelease

theorem books_send (s : TaskSystem) (e : Envelope) :
    Books s (s.send e).2 (.attempted [.of e (s.send e).1]) := by
  rw [send]
  split
  · exact books_deliver s _ e
  · exact {
      metrics := fun past hp ↦ by rw [Attempt.of, past.counters_misaddressed, ← hp]
      queued := fun _ _ ↦ rfl
      terminating := (Bool.or_false _).symm }

theorem books_deliverOrDiscard (s : TaskSystem) (target : TaskId) (e : Envelope) :
    Books s (s.deliverOrDiscard target e).2 (.attempted [.of e (s.deliver target e).1]) := by
  have hdeliver := books_deliver s target e
  have hwf (wf : s.WellFormed) := wf.deliver target e
  rw [deliverOrDiscard]
  rcases hd : s.deliver target e with ⟨err | _, s₁⟩
  · rw [hd] at hdeliver hwf
    have h := hdeliver.trans (books_discard s₁ err.envelope) hwf
    rwa [Activity.append_none] at h
  · rw [hd] at hdeliver
    exact hdeliver

theorem books_deliverFork (s : TaskSystem) (e : Envelope) (target : TaskId) :
    Books s (s.deliverFork e target).2 (.attempted (s.forkAttempts e target)) := by
  rw [deliverFork, forkAttempts]
  rcases hf : e.fork target s.allocator with ⟨err | copy, a⟩
  · exact .of_same rfl rfl rfl
  · have h := books_deliverOrDiscard ({ s with allocator := a }.note (e.forkNotes s.allocator))
      target copy
    refine ⟨h.metrics, fun wf ↦ h.queued ⟨?_, wf.registry⟩, h.terminating⟩
    have hcopied := wf.fork target e
    rwa [hf] at hcopied

/-- A broadcast makes one attempt for each copy that there is. -/
theorem books_deliverAll (s : TaskSystem) (e : Envelope) (targets : List TaskId) :
    Books s (s.deliverAll e targets).2 (.attempted (s.attemptsTo e targets)) := by
  induction targets generalizing s with
  | nil => exact .of_same rfl rfl rfl
  | cons target rest ih =>
    -- The last recipient gets the envelope itself and the others get forks of it.
    cases rest with
    | nil => exact books_deliverOrDiscard s target (e.readdress target)
    | cons next rest =>
      exact (books_deliverFork s e target).trans (ih (s.deliverFork e target).2)
        fun wf ↦ wf.deliverFork e target

theorem books_broadcast (s : TaskSystem) (e : Envelope) :
    Books s (s.broadcast e).2 ((Activity.attempted (s.attemptsTo e (s.recipients e.origin))).append
      (.reported (s.broadcast e).1)) := by
  have hcount (s : TaskSystem) (r : BroadcastReport) :
      Books s { s with metrics := s.metrics.recordBroadcast r.failed } (.reported r) :=
    { metrics := fun past hp ↦ by rw [past.counters_report, hp]
      queued := fun _ _ ↦ rfl
      terminating := (Bool.or_false _).symm }
  cases hr : s.recipients e.origin with
  | nil =>
    rw [broadcast, hr]
    have hnote : Books s (s.note [noteNoRecipients e]) .none := .of_same rfl rfl rfl
    have hwf (wf : s.WellFormed) : (s.note [noteNoRecipients e]).WellFormed :=
      ⟨wf.allocator, wf.registry⟩
    have hdrop := hnote.trans (books_discard _ e) hwf
    exact hdrop.trans (hcount _ BroadcastReport.none) fun wf ↦ (hwf wf).discard e
  | cons target rest =>
    rw [broadcast, hr]
    have hall := books_deliverAll s e (target :: rest)
    have h := hall.trans (hcount _ (s.deliverAll e (target :: rest)).1) fun wf ↦
      wf.deliverAll e (target :: rest)
    exact ⟨h.metrics, h.queued, h.terminating⟩

theorem books_terminateTasks (s : TaskSystem) (origin : TaskId) :
    Books s (s.terminateTasks origin).2 (Activity.append { Activity.none with raised := true }
      ((Activity.attempted (s.attempts (.terminateTasks origin))).append
        (.reported (s.terminateTasks origin).1))) := by
  have hraise : Books s ({ s with terminating := true }.note [noteTerminating origin])
      { Activity.none with raised := true } :=
    { metrics := fun past hp ↦ hp.trans (past.counters_uncounted [] true).symm
      queued := fun _ _ ↦ rfl
      terminating := (Bool.or_true _).symm }
  exact hraise.trans (books_broadcast _ _) fun wf ↦ ⟨wf.allocator, wf.registry⟩

/-! ## Operations -/

theorem books_registerTask (s : TaskSystem) (id : TaskId) (name : String) :
    Books s (s.registerTask id name).2 .none := by
  cases hr : s.registry.register id name with
  | error err =>
    rw [registerTask_of_error hr]
    exact books_escalate s err
  | ok x =>
    rw [registerTask_of_ok hr]
    exact .of_perm rfl (Registry.queued_register_perm hr) rfl

theorem books_spawnTask (s : TaskSystem) (id : TaskId) (name : String) :
    Books s (s.spawnTask id name).2
      { Activity.none with spawned := if (s.spawnTask id name).1.isOk then 1 else 0 } := by
  have hregister := books_registerTask s id name
  rw [spawnTask]
  rcases hr : s.registerTask id name with ⟨err | t, s₁⟩
  · rw [hr] at hregister
    exact hregister
  · rw [hr] at hregister
    have hqueued := @Registry.queued_update s₁.registry id
      (fun t ↦ { t with thread := some ⟨false⟩ }) fun _ ↦ rfl
    refine ⟨fun past hp ↦ ?_, fun wf p ↦ ?_, hregister.terminating⟩
    · have hm := hregister.metrics past hp
      rw [past.append_none] at hm
      exact (congrArg Metrics.recordTaskSpawned hm).trans past.counters_spawned.symm
    · exact (congrArg (List.countP p) hqueued).trans (hregister.queued wf p)

theorem books_unregisterTask (s : TaskSystem) (id : TaskId) :
    Books s (s.unregisterTask id).2 { Activity.none with
      taken := ((s.unregisterTask id).1.map (·.mailbox.queue)).getD [] } := by
  cases hf : s.registry.find? id with
  | none =>
    have hr : s.registry.unregister id = (none, (s.registry.unregister id).2) := Prod.ext hf rfl
    rw [unregisterTask, hr]
    exact .of_same rfl rfl rfl
  | some t =>
    rw [unregisterTask_of_find? hf]
    exact {
      metrics := fun past hp ↦ hp.trans (past.counters_uncounted _ false).symm
      queued := fun wf ↦ wf.registry.countP_queued_unregister hf
      terminating := (Bool.or_false _).symm }

theorem books_joinThreads (s : TaskSystem) (current : Option TaskId) (tasks : List Task) :
    Books s (s.joinThreads current tasks).2 .none := by
  induction tasks generalizing s with
  | nil => exact .of_same rfl rfl rfl
  | cons t ts ih =>
    have hnote (s : TaskSystem) (entries : Journal) :
        Books s ((s.note entries).joinThreads current ts).2 .none := by
      have h := ih (s.note entries)
      exact ⟨h.metrics, fun wf ↦ h.queued ⟨wf.allocator, wf.registry⟩, h.terminating⟩
    have hdetach : Books s { s with registry := s.registry.setThread t.id none } .none :=
      .of_same rfl (Registry.queued_update
        (f := fun t ↦ { t with thread := none }) fun _ ↦ rfl) rfl
    have hwf (wf : s.WellFormed) :
        { s with registry := s.registry.setThread t.id none }.WellFormed :=
      wf.of_ids wf.allocator (Registry.ids_setThread none)
    rw [joinThreads]
    split
    · exact ih s
    · split
      · exact hnote s _
      · split
        · exact hdetach.trans (hnote _ _) hwf
        · exact hdetach.trans (ih _) hwf

theorem books_tryReceive (s : TaskSystem) (id : TaskId) :
    Books s (s.tryReceive id).2 { Activity.none with
      taken := match (s.tryReceive id).1 with | .ok (some e) => [e] | _ => [] } := by
  rw [tryReceive, lookup]
  cases hf : s.registry.find? id with
  | none => exact .of_same rfl rfl rfl
  | some t =>
    dsimp only
    cases hd : t.mailbox.dequeue? with
    | none => exact .of_same rfl rfl rfl
    | some r =>
      obtain ⟨e, m⟩ := r
      obtain ⟨hqueue, -⟩ := Mailbox.dequeue?_eq_some.mp hd
      refine ⟨fun past hp ↦ hp.trans (past.counters_uncounted _ false).symm, fun wf p ↦ ?_,
        (Bool.or_false _).symm⟩
      have hset := wf.registry.countP_queued_setMailbox hf m p
      rw [hqueue, ← List.singleton_append, List.countP_append] at hset
      change (s.registry.setMailbox id m).queued.countP p + [e].countP p =
        s.registry.queued.countP p
      omega

/-- What an operation comes to. -/
def activity (s : TaskSystem) : Operation → Activity
  | .spawn id name =>
    { Activity.none with spawned := if (s.spawnTask id name).1.isOk then 1 else 0 }
  | .unregister id =>
    { Activity.none with
      taken := ((s.unregisterTask id).1.map (·.mailbox.queue)).getD [] }
  | .send e => .attempted (s.attempts (.send e))
  | .broadcast e =>
    (Activity.attempted (s.attempts (.broadcast e))).append (.reported (s.broadcast e).1)
  | .terminateTasks origin =>
    Activity.append { Activity.none with raised := true }
      ((Activity.attempted (s.attempts (.terminateTasks origin))).append
        (.reported (s.terminateTasks origin).1))
  | .tryReceive id =>
    { Activity.none with taken := match (s.tryReceive id).1 with | .ok (some e) => [e] | _ => [] }
  | .requestShutdown => { Activity.none with raised := true }
  | _ => .none

/-- **The books of an operation.** -/
theorem books_perform (s : TaskSystem) (op : Operation) :
    Books s (s.perform op).2 (s.activity op) := by
  have haccess (h : ItemHandle) (r : Except PoolError Allocator) :
      Books s (s.access h r).2 .none := by
    cases r with
    | error err => exact .of_same rfl rfl rfl
    | ok a => exact .of_same rfl rfl rfl
  cases op with
  | register id name => exact books_registerTask s id name
  | spawn id name => exact books_spawnTask s id name
  | unregister id => exact books_unregisterTask s id
  | lookup id =>
    change Books s (s.lookup id).2 .none
    rw [lookup]
    split
    · exact .of_same rfl rfl rfl
    · exact .of_same rfl rfl rfl
  | recordPanic id =>
    exact .of_same rfl (Registry.queued_update (f := fun t ↦ { t with
      thread := t.thread.map fun _ ↦ ⟨true⟩ }) fun _ ↦ rfl) rfl
  | waitTasksEnd current =>
    have h := books_joinThreads s current s.registry.tasks
    exact ⟨h.metrics, h.queued, h.terminating⟩
  | allocate size tags =>
    change Books s (s.allocate size tags).2 .none
    rw [allocate]
    split
    · exact .of_same rfl rfl rfl
    · exact .of_same rfl rfl rfl
  | free h releaseTag =>
    change Books s (s.free h releaseTag).2 .none
    rw [free]
    split
    · exact .of_same rfl rfl rfl
    · exact books_fail s _ _
  | duplicate h => exact .of_same rfl rfl rfl
  | read h => exact .of_same rfl rfl rfl
  | write h offset bytes => exact haccess h _
  | update h change => exact haccess h _
  | setInfo h index value => exact haccess h _
  | releasePayload kind p =>
    change Books s (s.releasePayload kind p).2 .none
    rw [releasePayload]
    split
    · exact .of_same rfl rfl rfl
    · exact .of_same rfl rfl rfl
  | releaseEnvelope e => exact books_releaseEnvelope s e
  | send e => exact books_send s e
  | broadcast e => exact books_broadcast s e
  | terminateTasks origin => exact books_terminateTasks s origin
  | tryReceive id => exact books_tryReceive s id
  | requestShutdown =>
    change Books s s.requestShutdown { Activity.none with raised := true }
    rw [requestShutdown]
    split
    · next ht =>
      exact ⟨fun past hp ↦ hp.trans (past.counters_uncounted [] true).symm, fun _ _ ↦ rfl,
        by rw [ht, Bool.true_or]⟩
    · exact ⟨fun past hp ↦ hp.trans (past.counters_uncounted [] true).symm, fun _ _ ↦ rfl,
        (Bool.or_true _).symm⟩
  | drainTap => exact .of_same rfl rfl rfl
  | report entries => exact .of_same rfl rfl rfl

/-! ## Runs -/

/-- What a run comes to. -/
def activities (s : TaskSystem) : List Operation → Activity
  | [] => .none
  | op :: ops => (s.activity op).append ((s.perform op).2.activities ops)

/-- **The books of a run.** -/
theorem books_run (s : TaskSystem) (ops : List Operation) :
    Books s (s.run ops) (s.activities ops) := by
  induction ops generalizing s with
  | nil => exact .of_same rfl rfl rfl
  | cons op ops ih =>
    exact (books_perform s op).trans (ih (s.perform op).2) fun wf ↦ wf.perform op

end TaskSystem

/-! ## What the answers tell -/

/-- Every task but the origin is to get an envelope. -/
def Operation.isBroadcast : Operation → Bool
  | .broadcast _ | .terminateTasks _ => true
  | _ => false

namespace Answer

/-- The envelope that a task is handed. -/
def handed : Answer → List Envelope
  | .received (some e) => [e]
  | _ => []

/-- The envelopes that nobody will receive any more. -/
def abandoned : Answer → List Envelope
  | .unregistered (some t) => t.mailbox.queue
  | _ => []

def reports : Answer → List BroadcastReport
  | .delivered r => [r]
  | _ => []

/-- The envelope came back because it was addressed to all tasks. -/
def isMisaddressed : Answer → Bool
  | .returned err => err.reason == .broadcastAddress
  | _ => false

/-- It tells nothing of an envelope. -/
def isPlain : Answer → Bool
  | .received (some _) | .unregistered (some _) | .delivered _ | .returned _ => false
  | _ => true

theorem isPlain_ofResult {α : Type} {f : α → Answer} (hf : ∀ x, (f x).isPlain = true)
    (r : Except TaskError α) : (ofResult f r).isPlain = true := by
  cases r with
  | error err => rfl
  | ok x => exact hf x

end Answer

/-- What operations and their answers tell of an activity. -/
structure Recounts (ops : List Operation) (answers : List Answer) (a : Activity) : Prop where
  taken : ∀ p : Envelope → Bool, a.taken.countP p =
    (answers.flatMap Answer.handed).countP p + (answers.flatMap Answer.abandoned).countP p
  reports : a.reports = answers.flatMap Answer.reports
  broadcasts : a.reports.length = ops.countP Operation.isBroadcast
  misaddressed : a.attempts.countP (·.isMisaddressed) = answers.countP Answer.isMisaddressed
  failures : ∀ x ∈ a.attempts, x.failure ≠ some .disconnected

theorem Recounts.append {ops ops' : List Operation} {answers answers' : List Answer}
    {a b : Activity} (h : Recounts ops answers a) (h' : Recounts ops' answers' b) :
    Recounts (ops ++ ops') (answers ++ answers') (a.append b) where
  taken p := by
    rw [Activity.append, List.countP_append, h.taken, h'.taken, List.flatMap_append,
      List.flatMap_append, List.countP_append, List.countP_append]
    exact Nat.add_add_add_comm _ _ _ _
  reports := by rw [Activity.append, h.reports, h'.reports, List.flatMap_append]
  broadcasts := by
    rw [Activity.append, List.length_append, h.broadcasts, h'.broadcasts, List.countP_append]
  misaddressed := by
    rw [Activity.append, List.countP_append, h.misaddressed, h'.misaddressed, List.countP_append]
  failures x hx := (List.mem_append.mp hx).elim (h.failures x) (h'.failures x)

/-- An operation that delivers nothing and reports nothing. -/
theorem Recounts.of_isPlain {op : Operation} {answer : Answer} {a : Activity}
    (h : answer.isPlain = true) (hop : op.isBroadcast = false)
    (ha : a.taken = [] ∧ a.reports = [] ∧ a.attempts = []) : Recounts [op] [answer] a := by
  obtain ⟨ht, hr, ha⟩ := ha
  have hcalls : [op].countP Operation.isBroadcast = 0 := by simp [hop]
  have hfailures : ∀ x ∈ a.attempts, x.failure ≠ some .disconnected := by simp [ha]
  rcases answer with _ | _ | ⟨_ | _⟩ | _ | _ | _ | ⟨_ | _⟩ | _ | _ | _ | _
  all_goals
    first
    | exact ⟨fun _ ↦ by rw [ht]; rfl, hr, by rw [hr, hcalls]; rfl, by rw [ha]; rfl, hfailures⟩
    | cases h

namespace TaskSystem

variable {s : TaskSystem} {e : Envelope} {a : Attempt} {targets : List TaskId}

/-- An attempt to deliver fails for want of a task or of room. -/
theorem failure_deliver (s : TaskSystem) (target : TaskId) (e : Envelope) :
    (Attempt.of e (s.deliver target e).1).isMisaddressed = false ∧
      (Attempt.of e (s.deliver target e).1).failure ≠ some .disconnected := by
  cases hf : s.registry.find? target with
  | none =>
    simp only [deliver, hf]
    exact ⟨rfl, by rintro ⟨⟩⟩
  | some t =>
    cases hm : t.mailbox.enqueue? e with
    | none =>
      simp only [deliver, hf, hm]
      exact ⟨rfl, by rintro ⟨⟩⟩
    | some m =>
      simp only [deliver, hf, hm]
      exact ⟨rfl, by rintro ⟨⟩⟩

theorem failure_of_mem_attemptsTo (h : a ∈ s.attemptsTo e targets) :
    a.isMisaddressed = false ∧ a.failure ≠ some .disconnected := by
  induction targets generalizing s with
  | nil => exact absurd h List.not_mem_nil
  | cons target rest ih =>
    cases rest with
    | nil =>
      rw [List.mem_singleton.mp h]
      exact failure_deliver s target (e.readdress target)
    | cons next rest =>
      rcases List.mem_append.mp h with hfork | hrest
      · rw [forkAttempts] at hfork
        split at hfork
        · rw [List.mem_singleton.mp hfork]
          exact failure_deliver _ target _
        · exact absurd hfork List.not_mem_nil
      · exact ih hrest

theorem failure_of_mem_attempts {op : Operation} (h : a ∈ s.attempts op) :
    a.failure ≠ some .disconnected := by
  cases op with
  | send e =>
    rw [List.mem_singleton.mp h, send]
    split
    · exact (failure_deliver s _ e).2
    · rintro ⟨⟩
  | broadcast e => exact (failure_of_mem_attemptsTo h).2
  | terminateTasks origin => exact (failure_of_mem_attemptsTo h).2
  | _ => exact absurd h List.not_mem_nil

theorem countP_isMisaddressed_attemptsTo (s : TaskSystem) (e : Envelope) (targets : List TaskId) :
    (s.attemptsTo e targets).countP (·.isMisaddressed) = 0 :=
  List.countP_eq_zero.mpr fun _ ha ↦ by
    rw [(failure_of_mem_attemptsTo ha).1]
    exact Bool.false_ne_true

/-- Only the attempts of an operation are among those of its activity. -/
theorem attempts_activity (s : TaskSystem) (op : Operation) :
    (s.activity op).attempts = s.attempts op := by
  cases op with
  | broadcast e => exact List.append_nil _
  | terminateTasks origin => exact List.append_nil _
  | _ => rfl

theorem recounts_perform (s : TaskSystem) (op : Operation) :
    Recounts [op] [(s.perform op).1] (s.activity op) := by
  have haccess (h : ItemHandle) (r : Except PoolError Allocator) :
      (s.access h r).1.isPlain = true := by
    cases r with
    | error err => rfl
    | ok a => rfl
  have hplain {op : Operation} (h : (s.perform op).1.isPlain = true)
      (hop : op.isBroadcast = false)
      (ha : (s.activity op).taken = [] ∧ (s.activity op).reports = [] ∧
        (s.activity op).attempts = []) : Recounts [op] [(s.perform op).1] (s.activity op) :=
    .of_isPlain h hop ha
  have hfailures {op : Operation} :
      ∀ x ∈ (s.activity op).attempts, x.failure ≠ some .disconnected :=
    fun x hx ↦ failure_of_mem_attempts (s.attempts_activity op ▸ hx)
  cases op with
  | register | spawn | lookup | allocate | free | duplicate | read | releaseEnvelope =>
    exact hplain (Answer.isPlain_ofResult (fun _ ↦ rfl) _) rfl ⟨rfl, rfl, rfl⟩
  | write h offset bytes => exact hplain (haccess h _) rfl ⟨rfl, rfl, rfl⟩
  | update h change => exact hplain (haccess h _) rfl ⟨rfl, rfl, rfl⟩
  | setInfo h index value => exact hplain (haccess h _) rfl ⟨rfl, rfl, rfl⟩
  | releasePayload kind p =>
    refine hplain ?_ rfl ⟨rfl, rfl, rfl⟩
    rw [perform, releasePayload]
    split
    · rfl
    · rfl
  | unregister id =>
    rw [perform, activity]
    cases (s.unregisterTask id).1 with
    | none => exact ⟨fun _ ↦ rfl, rfl, rfl, rfl, List.forall_mem_nil _⟩
    | some t =>
      refine ⟨fun p ↦ ?_, rfl, rfl, rfl, List.forall_mem_nil _⟩
      change t.mailbox.queue.countP p = 0 + (t.mailbox.queue ++ []).countP p
      rw [Nat.zero_add, List.append_nil]
  | send e =>
    have hf := @hfailures (.send e)
    rw [activity, attempts] at hf
    rw [perform, activity, attempts]
    generalize (s.send e).1 = r at hf ⊢
    rcases r with ⟨reason, e'⟩ | _
    · exact ⟨fun _ ↦ rfl, rfl, rfl, by cases reason <;> rfl, hf⟩
    · exact ⟨fun _ ↦ rfl, rfl, rfl, rfl, hf⟩
  | broadcast e =>
    refine ⟨fun _ ↦ rfl, rfl, rfl, ?_, hfailures⟩
    rw [attempts_activity]
    exact countP_isMisaddressed_attemptsTo s e _
  | terminateTasks origin =>
    refine ⟨fun _ ↦ rfl, rfl, rfl, ?_, hfailures⟩
    rw [attempts_activity]
    exact countP_isMisaddressed_attemptsTo _ _ _
  | tryReceive id =>
    rw [perform, activity]
    rcases (s.tryReceive id).1 with err | _ | e
    · exact ⟨fun _ ↦ rfl, rfl, rfl, rfl, List.forall_mem_nil _⟩
    · exact ⟨fun _ ↦ rfl, rfl, rfl, rfl, List.forall_mem_nil _⟩
    · exact ⟨fun p ↦ (Nat.add_zero _).symm, rfl, rfl, rfl, List.forall_mem_nil _⟩
  | recordPanic | waitTasksEnd | requestShutdown | drainTap | report =>
    exact hplain rfl rfl ⟨rfl, rfl, rfl⟩

/-- What is told about the operations of a run. -/
def answers (s : TaskSystem) : List Operation → List Answer
  | [] => []
  | op :: ops => (s.perform op).1 :: (s.perform op).2.answers ops

/-- **A run can be told from its answers**, but for the attempts. -/
theorem recounts_run (s : TaskSystem) (ops : List Operation) :
    Recounts ops (s.answers ops) (s.activities ops) := by
  induction ops generalizing s with
  | nil => exact ⟨fun _ ↦ rfl, rfl, rfl, rfl, List.forall_mem_nil _⟩
  | cons op ops ih => exact (recounts_perform s op).append (ih (s.perform op).2)

end TaskSystem

end TaskMessaging
