import TaskMessaging.Heartbeat
import TaskMessaging.Proofs.TaskSystem.Release
import TaskMessaging.Proofs.Timer.Run
import TaskMessaging.Proofs.Timer.Schedule

/-!
# The loop of the heartbeat

Whatever waits in the mailbox of the heartbeat, its loop treats every envelope in the same way:
receive it, count it if it is an expiry, release it. Only the request to terminate is told apart,
and only after it was released as well. So up to what it writes to the journal, the loop *is* the
task of `Release`, which clears the envelopes up to that request, and what it counts can be read off
these envelopes alone.

A release may fail, because the envelope owns an item that somebody else freed. The loop goes on all
the same; whether the process survives this is up to the policy.
-/

namespace TaskMessaging.Heartbeat

open TaskSystem (Clears clearing)

variable {s : TaskSystem} {m : Mailbox} {e last : Envelope} {before after rest : List Envelope}
  {timers armed : TimerService} {now : Instant} {period : Duration} {timer : TimerId}
  {n : UInt64} {count : Nat}

/-! ## One round -/

/-- How many of some envelopes tell of an expiry. -/
def beatsIn (es : List Envelope) : Nat := es.countP fun e ↦ (TimerExpiry.ofEnvelope? e).isSome

theorem beatsIn_cons (e : Envelope) (es : List Envelope) :
    beatsIn (e :: es) = beatsIn [e] + beatsIn es := by
  rw [beatsIn, beatsIn, beatsIn, ← List.countP_append, List.singleton_append]

theorem react_fst (s : TaskSystem) (n : UInt64) (ended : Bool) (e : Envelope) :
    (react s ⟨n, ended⟩ e).1 = ⟨n + UInt64.ofNat (beatsIn [e]), e.kind = .terminate⟩ := by
  rw [react, beatsIn, List.countP_singleton]
  cases TimerExpiry.ofEnvelope? e with
  | none => exact congrArg (Progress.mk · _) (UInt64.add_zero n).symm
  | some x => rfl

theorem note_core (s : TaskSystem) (entries : Journal) : (s.note entries).core = s.core := rfl

/-- Apart from what it reports, the task only releases the envelope. -/
theorem core_react (s : TaskSystem) (p : Progress) (e : Envelope) :
    (react s p e).2.core = (s.releaseEnvelope e).2.core := by
  rw [react]
  cases TimerExpiry.ofEnvelope? e with
  | none =>
    dsimp only
    rcases s.releaseEnvelope e with ⟨err | _, t⟩
    · exact note_core t _
    · rfl
  | some x =>
    -- The beat was noted before the release, which does not read the journal.
    have hblind : ((s.note [noteBeat x.timer (p.beats + 1)]).releaseEnvelope e).2.core =
        (s.releaseEnvelope e).2.core :=
      (TaskSystem.blind_releaseEnvelope e _ s (note_core s _)).2
    rw [← hblind]
    dsimp only
    rcases (s.note [noteBeat x.timer (p.beats + 1)]).releaseEnvelope e with ⟨err | _, t⟩
    · exact note_core t _
    · rfl

/-- **One round of the loop**: the envelope that waited longest is received and released. -/
theorem receive_succ (hm : s.mailbox? id = some m) (hq : m.queue = e :: rest) (count : Nat)
    (n : UInt64) :
    ∃ t m', t.mailbox? id = some m' ∧ m'.queue = rest ∧
      t.core = (s.run (clearing id [e])).core ∧
      receive (count + 1) s ⟨n, false⟩ =
        receive count t ⟨n + UInt64.ofNat (beatsIn [e]), e.kind = .terminate⟩ := by
  obtain ⟨task, htask, -⟩ := Option.map_eq_some_iff.mp hm
  obtain ⟨m', hq', hreceive⟩ := TaskSystem.tryReceive_of_queue hm hq
  have hcore := core_react (s.tryReceive id).2 ⟨n, false⟩ e
  refine ⟨(react (s.tryReceive id).2 ⟨n, false⟩ e).2, m', ?_, hq', hcore, ?_⟩
  · refine TaskSystem.mailbox?_setMailbox_self htask ?_
    have hregistry := congrArg TaskSystem.registry hcore
    rw [TaskSystem.registry_core, TaskSystem.registry_core,
      TaskSystem.registry_releaseEnvelope] at hregistry
    rw [hregistry, hreceive]
  · rw [receive, if_neg Bool.false_ne_true, hreceive]
    dsimp only
    rw [← react_fst]

/-! ## The loop -/

theorem receive_ended (count : Nat) (s : TaskSystem) (n : UInt64) :
    receive count s ⟨n, true⟩ = (⟨n, true⟩, s) := by
  cases count with
  | zero => rfl
  | succ count => rfl

/-- **The loop ends with the first request to terminate**, which it clears like all that came before
it, and it has counted the expiries among them. -/
theorem receive_of_queue (hm : s.mailbox? id = some m) (hq : m.queue = before ++ last :: after)
    (hb : ∀ e ∈ before, e.kind ≠ .terminate) (hl : last.kind = .terminate)
    (hcount : before.length < count) :
    (receive count s ⟨n, false⟩).1 =
        ⟨n + UInt64.ofNat (beatsIn (before ++ [last])), true⟩ ∧
      (receive count s ⟨n, false⟩).2.core = (s.run (clearing id (before ++ [last]))).core := by
  -- Each round takes one envelope off the mailbox, so the induction is on those in front of `last`.
  induction before generalizing s m n count with
  | nil =>
    obtain ⟨count, rfl⟩ := Nat.exists_eq_succ_of_ne_zero (Nat.ne_of_gt hcount)
    obtain ⟨t, -, -, -, hcore, hround⟩ := receive_succ hm hq count n
    rw [hround, hl, decide_eq_true rfl, receive_ended]
    exact ⟨rfl, hcore⟩
  | cons e before ih =>
    obtain ⟨count, rfl⟩ := Nat.exists_eq_succ_of_ne_zero (Nat.ne_of_gt (Nat.zero_lt_of_lt hcount))
    obtain ⟨t, m', hm', hq', hcore, hround⟩ := receive_succ hm hq count n
    rw [hround, decide_eq_false (hb e List.mem_cons_self)]
    obtain ⟨hend, hrun⟩ := ih hm' hq' (fun x hx ↦ hb x (List.mem_cons_of_mem e hx))
      (Nat.lt_of_succ_lt_succ hcount)
    constructor
    · rw [hend, List.cons_append, beatsIn_cons e (before ++ [last]), UInt64.ofNat_add,
        UInt64.add_assoc]
    · rw [hrun, (TaskSystem.run_of_core hcore _).2]
      rfl

theorem drain_of_queue (hm : s.mailbox? id = some m) (hq : m.queue = before ++ last :: after)
    (hb : ∀ e ∈ before, e.kind ≠ .terminate) (hl : last.kind = .terminate) :
    (drain s ⟨n, false⟩).1 =
        ⟨n + UInt64.ofNat (beatsIn (before ++ [last])), true⟩ ∧
      (drain s ⟨n, false⟩).2.core = (s.run (clearing id (before ++ [last]))).core := by
  obtain ⟨t, ht, rfl⟩ := Option.map_eq_some_iff.mp hm
  have hlen := t.mailbox.length_queue
  rw [hq, List.length_append, List.length_cons] at hlen
  rw [drain, ht]
  exact receive_of_queue hm hq hb hl (by dsimp only [Option.elim]; omega)

/-! ## The timer -/

theorem isArmed_finish (timers : TimerService) (timer : TimerId) :
    (finish timers timer).isArmed timer = false := by
  change ((timers.table.remove timer).2.get? timer).isSome = false
  rw [TimerTable.get?_remove, if_pos rfl]
  rfl

/-- The timer of the task, as it leaves the loop: disarmed, and without an appointment. No other
timer notices. -/
structure Disarms (timers after : TimerService) (timer : TimerId) : Prop where
  disarmed : after.isArmed timer = false
  deadlines : after.table.deadlines timer = []
  others : ∀ j ≠ timer, after.table.get? j = timers.table.get? j ∧
    after.table.deadlines j = timers.table.deadlines j

theorem disarms_finish (wf : timers.table.WellFormed) (timer : TimerId) :
    Disarms timers (finish timers timer) timer where
  disarmed := isArmed_finish timers timer
  deadlines := wf.deadlines_remove timer
  others j hj := by
    refine ⟨?_, TimerTable.deadlines_remove_of_ne hj⟩
    exact (TimerTable.get?_remove timers.table timer j).trans (if_neg hj)

/-! ## The law -/

/-- What the body of the heartbeat comes to, given what was armed for it and what waits for it up to
the first request to terminate and behind that. -/
structure HeartbeatLaw (s : TaskSystem) (armed : TimerService) (timer : TimerId) (period : Duration)
    (mail after : List Envelope) (outcome : Option Progress × TaskSystem × TimerService) :
    Prop where
  /-- The loop ends, and has counted precisely the expiries among what it received. The count is
  kept in a word, so it is exact below 2^64. -/
  ended : ∃ p, outcome.1 = some p ∧ p.ended = true ∧ p.beats.toNat = beatsIn mail % Word.count 64
  /-- The task receives the envelopes up to the request to terminate, in their order, and releases
  each of them once before it receives the next. It does nothing else to the system, beyond what it
  reports. -/
  receives : s.received (clearing id mail) = mail.map (id, ·)
  core : outcome.2.1.core = (s.run (clearing id mail)).core
  /-- What waits behind the request is left where it is. -/
  mailbox : ∃ m, outcome.2.1.mailbox? id = some m ∧ m.queue = after
  /-- The live items that the envelopes own are given back, and no other slot changes. An envelope
  whose release fails does not end the loop, and under the report policy not the process either. -/
  cleared : ∃ items errors, Clears s id mail items errors outcome.2.1 ∧
    (s.isAborted = false → s.policy = .report ∨ errors = [] → outcome.2.1.isAborted = false)
  periodic : ∃ e, armed.table.get? timer = some e ∧ e.owner = id ∧ e.kind = .periodic period
  /-- Behind the loop the timer is disarmed. -/
  disarmed : outcome.2.2 = finish armed timer ∧ outcome.2.2.isArmed timer = false
  /-- This would be so whatever others had done to the timers in the meantime. -/
  disarms : ∀ timers : TimerService, timers.table.WellFormed →
    Disarms timers (finish timers timer) timer

/-- What the body of the task comes to, from the loop within. -/
theorem run_of_queue (hm : s.mailbox? id = some m) (hq : m.queue = before ++ last :: after)
    (hb : ∀ e ∈ before, e.kind ≠ .terminate) (hl : last.kind = .terminate)
    (harm : arm timers now period = .ok (timer, armed)) :
    ∃ s', run s timers now period =
        (some ⟨UInt64.ofNat (beatsIn (before ++ [last])), true⟩, s', finish armed timer) ∧
      s'.core = (s.run (clearing id (before ++ [last]))).core := by
  rw [run, harm]
  dsimp only
  generalize hentries : [TimerService.noteArmed timer id period (.periodic period),
    noteArmed timer period] = entries
  -- What the task reports before its loop does not matter to the loop.
  have hnoted := (TaskSystem.run_of_core (note_core s entries) (clearing id (before ++ [last]))).2
  have hmailbox : (s.note entries).mailbox? id = some m := hm
  obtain ⟨hend, hdrain⟩ := drain_of_queue (n := 0) hmailbox hq hb hl
  rcases hd : drain (s.note entries) ⟨0, false⟩ with ⟨p, t⟩
  rw [hd] at hend hdrain
  dsimp only at hend hdrain
  rw [hend, if_pos rfl, UInt64.zero_add]
  exact ⟨_, rfl, hdrain.trans hnoted⟩

/-- **The law of the heartbeat.** Once its timer is armed, the task clears its mailbox up to the
first request to terminate, counts the expiries on the way, and leaves with its timer disarmed. -/
theorem heartbeat_law (r : s.Reachable) (hm : s.mailbox? id = some m)
    (hq : m.queue = before ++ last :: after) (hb : ∀ e ∈ before, e.kind ≠ .terminate)
    (hl : last.kind = .terminate) (harm : arm timers now period = .ok (timer, armed)) :
    HeartbeatLaw s armed timer period (before ++ [last]) after (run s timers now period) := by
  have hq' : m.queue = (before ++ [last]) ++ after := by rw [hq, List.append_cons]
  obtain ⟨hreceived, items, errors, hclears⟩ := TaskSystem.run_clearing r.wellFormed hm hq'
  obtain ⟨s', hrun, hcore⟩ := run_of_queue hm hq hb hl harm
  have hcleared := hclears.of_core hcore
  rw [hrun]
  refine ⟨⟨_, rfl, rfl, UInt64.toNat_ofNat'⟩, hreceived, hcore, ?_,
    ⟨items, errors, hcleared, hcleared.isAborted⟩, ?_,
    ⟨rfl, isArmed_finish armed timer⟩, fun timers wf ↦ disarms_finish wf timer⟩
  · obtain ⟨m', hm', -, hqueue⟩ := hcleared.passes m hm
    rw [hq', List.append_nil] at hqueue
    exact ⟨m', hm', (List.append_cancel_left hqueue).symm⟩
  · obtain ⟨d, -, -, rfl⟩ := TimerService.arm_eq_ok harm
    exact ⟨_, TimerTable.get?_insert_self _ _, rfl, rfl⟩

/-- What waits for the task up to the request to terminate: an item, the same item again, an expiry
and an item that is only referenced. -/
def mixedMail : List Envelope :=
  [.owning ⟨8⟩ ⟨2⟩ (.task id) (.pooled ⟨7, 0, 0, 1⟩),
    .owning ⟨9⟩ ⟨2⟩ (.task id) (.pooled ⟨7, 0, 0, 1⟩),
    .owning .timerExpired .core (.task id) (TimerExpiry.toPayload ⟨⟨1⟩, 0⟩),
    .borrowed .timerExpired ⟨2⟩ (.task id) (.pooled ⟨7, 0, 1, 1⟩)]

/-- Sends the task some mail, the request to terminate and an item behind that. -/
def mixedRun : List Operation :=
  [.register id name, .register ⟨2⟩ "sender", .allocate 8 ⟨0, 0⟩, .allocate 8 ⟨0, 0⟩] ++
    mixedMail.map Operation.send ++
    [.send (.owning .terminate .core (.task id) .empty),
      .send (.owning ⟨8⟩ ⟨2⟩ (.task id) (.pooled ⟨7, 0, 1, 1⟩))]

theorem heartbeat_law_mixedRun :
    ∃ s : TaskSystem, TaskSystem.build ((Allocator.create 7 1).declareAll [(3, 8)])
        ⟨8, .report, .builtin, false, false⟩ = .ok s ∧
      ∃ timer armed, arm .initial ⟨0⟩ ⟨1000⟩ = .ok (timer, armed) ∧
        HeartbeatLaw (s.run mixedRun) armed timer ⟨1000⟩
          (mixedMail ++ [.owning .terminate .core (.task id) .empty])
          [.owning ⟨8⟩ ⟨2⟩ (.task id) (.pooled ⟨7, 0, 1, 1⟩)]
          (run (s.run mixedRun) .initial ⟨0⟩ ⟨1000⟩) := by
  have hpools := (Allocator.Reachable.create 7 1).declareAll [(3, 8)]
  refine ⟨_, rfl, _, _, rfl, heartbeat_law (.run (@TaskSystem.Reachable.build _
    ⟨8, .report, .builtin, false, false⟩ _ hpools rfl) mixedRun) rfl ?_ ?_ rfl rfl⟩
  · decide
  · decide

end TaskMessaging.Heartbeat
