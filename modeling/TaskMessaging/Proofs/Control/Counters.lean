import TaskMessaging.Proofs.Control.Operation
import TaskMessaging.Proofs.TaskSystem.Counters

/-!
# The counters balance

Every attempt to deliver an envelope ends in a mailbox, at a full mailbox, at a task that is not
registered, or before it looked for a task. Every envelope that got into a mailbox was received
since, waits there still, or went with the registration of its task. The counters say so, whatever
clients and dispatcher did and in whatever order, as long as one computes modulo 2^64 as they do.

What the dispatcher does is counted through its calls: an expiry is an attempt, and a fault and an
interrupt are broadcasts.
-/

namespace TaskMessaging

/-- An attempt ends in one of four ways. -/
theorem Attempt.length_eq {attempts : List Attempt}
    (h : ∀ x ∈ attempts, x.failure ≠ some .disconnected) :
    attempts.length = attempts.countP (·.isDelivered) + attempts.countP (·.isRefused) +
      attempts.countP (·.isUnknown) + attempts.countP (·.isMisaddressed) := by
  induction attempts with
  | nil => rfl
  | cons x xs ih =>
    obtain ⟨hx, hxs⟩ := List.forall_mem_cons.mp h
    have hone : (if x.isDelivered then 1 else 0) + (if x.isRefused then 1 else 0) +
        (if x.isUnknown then 1 else 0) + (if x.isMisaddressed then 1 else 0) = 1 := by
      rcases x with ⟨e, _ | _ | _ | _ | _⟩
      all_goals first | rfl | exact absurd rfl hx
    rw [List.length_cons, ih hxs]
    simp only [List.countP_cons]
    omega

/-- The counters of a system, after operations with these answers and attempts. -/
structure Balances (s : TaskSystem) (ops : List Operation) (answers : List Answer)
    (attempts : List Attempt) : Prop where
  sent : s.metrics.messagesSent =
    s.metrics.messagesDelivered + s.metrics.mailboxFullEvents + s.metrics.unknownDestinations +
      .ofNat (answers.countP Answer.isMisaddressed)
  delivered : s.metrics.messagesDelivered =
    .ofNat (answers.flatMap Answer.handed).length + .ofNat s.registry.queued.length +
      .ofNat (answers.flatMap Answer.abandoned).length
  broadcasts : s.metrics.broadcasts = .ofNat (ops.countP Operation.isBroadcast)
  failures : s.metrics.broadcastFailures =
    .ofNat ((answers.flatMap Answer.reports).map (·.failed)).sum
  expiries : s.metrics.timerEnvelopes = .ofNat (attempts.countP (·.isExpiry))
  /-- The envelopes that were delivered were received, wait, or went with a mailbox. -/
  kept : (Attempt.delivered attempts).Perm
    (answers.flatMap Answer.handed ++ s.registry.queued ++ answers.flatMap Answer.abandoned)
  /-- As long as no counter wraps around. -/
  unwrapped : attempts.length < 2 ^ 64 →
    s.metrics.messagesSent.toNat = attempts.length ∧
      s.metrics.messagesDelivered ≤ s.metrics.messagesSent ∧
      s.metrics.failed.toNat = attempts.countP fun x ↦ !x.isDelivered

namespace Activity

variable {a : Activity}

theorem messagesSent_counters (h : ∀ x ∈ a.attempts, x.failure ≠ some .disconnected) :
    a.counters.messagesSent = a.counters.messagesDelivered + a.counters.mailboxFullEvents +
      a.counters.unknownDestinations + .ofNat (a.attempts.countP (·.isMisaddressed)) := by
  rw [counters, Attempt.length_eq h, UInt64.ofNat_add, UInt64.ofNat_add, UInt64.ofNat_add]

/-- Below the bound the counters are numbers, and the difference is that of numbers. -/
theorem failed_counters (h : a.attempts.length < 2 ^ 64) :
    a.counters.messagesSent.toNat = a.attempts.length ∧
      a.counters.messagesDelivered ≤ a.counters.messagesSent ∧
      a.counters.failed.toNat = a.attempts.countP fun x ↦ !x.isDelivered := by
  have hle : a.attempts.countP (·.isDelivered) ≤ a.attempts.length := List.countP_le_length
  have hsent : a.counters.messagesSent.toNat = a.attempts.length :=
    UInt64.toNat_ofNat_of_lt' h
  have hdelivered : a.counters.messagesDelivered.toNat = a.attempts.countP (·.isDelivered) :=
    UInt64.toNat_ofNat_of_lt' (Nat.lt_of_le_of_lt hle h)
  have hordered : a.counters.messagesDelivered ≤ a.counters.messagesSent := by
    rw [UInt64.le_iff_toNat_le, hsent, hdelivered]
    exact hle
  have hsplit : a.attempts.length = a.attempts.countP (·.isDelivered) +
      a.attempts.countP fun x ↦ !x.isDelivered := by
    rw [List.length_eq_countP_add_countP (·.isDelivered)]
    simp only [Bool.not_eq_true, Bool.decide_eq_false]
  refine ⟨hsent, hordered, ?_⟩
  rw [Metrics.failed, if_neg (UInt64.not_lt.mpr hordered), UInt64.toNat_sub_of_le _ _ hordered,
    hsent, hdelivered]
  omega

end Activity

theorem TaskSystem.metrics_of_build {a : Allocator} {settings : Settings} {s : TaskSystem}
    (h : build a settings = .ok s) : s.metrics = .zero ∧ s.registry.queued = [] := by
  rw [build] at h
  split at h
  · cases h
  · cases h
    exact ⟨rfl, rfl⟩

namespace ControlLoop

variable {c : ControlLoop} {a : Allocator} {settings : TaskSystem.Settings}

/-- **The counters balance** after every run from a system just built. -/
theorem counters_balance (ha : a.Reachable) (hs : TaskSystem.build a settings = .ok c.system)
    (ops : List ControlOperation) :
    Balances (c.runAll ops).system (c.callsOf ops) (c.system.answers (c.callsOf ops))
      (c.system.activities (c.callsOf ops)).attempts := by
  have wf : c.system.WellFormed := (TaskSystem.Reachable.build ha hs).wellFormed
  have hbooks := c.system.books_run (c.callsOf ops)
  have htold := c.system.recounts_run (c.callsOf ops)
  obtain ⟨hzero, hempty⟩ := TaskSystem.metrics_of_build hs
  have hmetrics := hbooks.metrics .none hzero
  rw [Activity.none_append] at hmetrics
  -- Of every sort of envelopes equally many are on both sides.
  have hkept : (Attempt.delivered (c.system.activities (c.callsOf ops)).attempts).Perm
      ((c.system.answers (c.callsOf ops)).flatMap Answer.handed ++
        (c.system.run (c.callsOf ops)).registry.queued ++
        (c.system.answers (c.callsOf ops)).flatMap Answer.abandoned) := by
    rw [List.perm_iff_count]
    intro e
    have hqueued := hbooks.queued wf (· == e)
    rw [hempty, htold.taken, List.countP_nil, Nat.zero_add] at hqueued
    rw [List.count_eq_countP, List.count_eq_countP, ← hqueued, List.countP_append,
      List.countP_append]
    omega
  rw [system_runAll]
  refine ⟨?_, ?_, ?_, ?_, ?_, hkept, fun hlt ↦ ?_⟩
  · rw [hmetrics, Activity.messagesSent_counters htold.failures, htold.misaddressed]
  · rw [hmetrics, Activity.counters, ← Attempt.length_delivered, hkept.length_eq,
      List.length_append, List.length_append, UInt64.ofNat_add, UInt64.ofNat_add]
  · rw [hmetrics, Activity.counters, htold.broadcasts]
  · rw [hmetrics, Activity.counters, Activity.missed, htold.reports]
  · rw [hmetrics]
    rfl
  · rw [hmetrics]
    exact Activity.failed_counters hlt

/-- A fault is announced to two tasks with room for one envelope each. One of them receives it and
the other one is unregistered before the interrupt. -/
def countedRun : List ControlOperation :=
  [.system (.register ⟨1⟩ "first"), .system (.register ⟨2⟩ "second"), .handle ⟨0⟩ (.fault 11),
    .handle ⟨1⟩ (.fault 11), .system (.send (.owning ⟨7⟩ ⟨1⟩ .broadcast .empty)),
    .system (.tryReceive ⟨1⟩), .system (.unregister ⟨2⟩), .handle ⟨2⟩ .interrupt]

theorem counters_balance_countedRun :
    ∃ s : TaskSystem, TaskSystem.build (.create 7 0) ⟨1, .report, .builtin, false, false⟩ = .ok s ∧
      let c : ControlLoop := ⟨.create false, s, .initial⟩
      Balances (c.runAll countedRun).system (c.callsOf countedRun)
          (c.system.answers (c.callsOf countedRun))
          (c.system.activities (c.callsOf countedRun)).attempts ∧
        (c.runAll countedRun).system.metrics = ⟨0, 6, 3, 2, 0, 3, 2, 0⟩ := by
  refine ⟨_, rfl, @counters_balance ⟨.create false, _, .initial⟩ _
    ⟨1, .report, .builtin, false, false⟩ (Allocator.Reachable.create 7 0) rfl countedRun, ?_⟩
  decide

end ControlLoop

end TaskMessaging
