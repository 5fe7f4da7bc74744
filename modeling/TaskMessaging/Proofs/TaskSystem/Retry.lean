import TaskMessaging.Proofs.TaskSystem.Core

/-!
# Sending again

An envelope that cannot be sent comes back as it was, and its sender may try again. What the failed
attempt leaves behind are counts and an entry in the journal, and these are not in the core of the
system. So whatever is done between the attempts, it is answered as if the failed ones had not been
made, and once the target has room the envelope goes out the same way with and without them.
-/

namespace TaskMessaging

/-- What is counted when a send fails, after the attempt itself. -/
def SendFailure.counted (m : Metrics) : SendFailure → Metrics
  | .mailboxFull _ => m.recordMailboxFull
  | .unknownDestination => m.recordUnknownDestination
  | .broadcastAddress | .disconnected => m

namespace TaskSystem

variable {s t : TaskSystem} {e : Envelope} {reason : SendFailure} {err : SendError}
  {ops rest : List Operation} {told : List Answer}

/-! ## Failing to send -/

/-- Why an envelope cannot be sent. -/
inductive Fails (s : TaskSystem) (e : Envelope) : SendFailure → Prop
  | misaddressed : e.destination = .broadcast → Fails s e .broadcastAddress
  | unknown {target : TaskId} : e.destination = .task target → s.mailbox? target = none →
      Fails s e .unknownDestination
  | full {target : TaskId} {m : Mailbox} : e.destination = .task target →
      s.mailbox? target = some m → m.queue.length = m.capacity → Fails s e (.mailboxFull m.capacity)

/-- The target of an envelope has room for it. -/
def HasRoom (s : TaskSystem) (e : Envelope) (target : TaskId) (m : Mailbox) : Prop :=
  e.destination = .task target ∧ s.mailbox? target = some m ∧ m.queue.length < m.capacity

/-- A system after a failed attempt: something is counted and reported. -/
def Unsent (s : TaskSystem) (reason : SendFailure) (s' : TaskSystem) : Prop :=
  ∃ entries,
    s' = { s with metrics := reason.counted s.metrics.recordSendAttempt }.note entries

theorem Unsent.core_eq (h : Unsent s reason t) : t.core = s.core := by
  obtain ⟨entries, rfl⟩ := h
  rfl

/-- **A send that fails** hands the envelope back, and changes nothing but a counter or two. -/
theorem Fails.send (h : Fails s e reason) :
    (s.send e).1 = .error ⟨reason, e⟩ ∧ Unsent s reason (s.send e).2 := by
  cases h with
  | misaddressed hd =>
    rw [TaskSystem.send, hd]
    exact ⟨rfl, [], by rw [note, List.append_nil]; rfl⟩
  | unknown hd hm =>
    rw [mailbox?, Option.map_eq_none_iff] at hm
    rw [TaskSystem.send, hd]
    dsimp only
    rw [deliver]
    dsimp only
    rw [hm]
    exact ⟨rfl, _, rfl⟩
  | full hd hm hlen =>
    obtain ⟨task, hf, rfl⟩ := Option.map_eq_some_iff.mp hm
    have hfull : task.mailbox.enqueue? e = none := by
      rw [Option.eq_none_iff_forall_ne_some]
      intro m' hm'
      have hlt := (Mailbox.enqueue?_eq_some.mp hm').1
      rw [Mailbox.length_queue] at hlen
      omega
    rw [TaskSystem.send, hd]
    dsimp only
    rw [deliver]
    dsimp only
    rw [hf]
    dsimp only
    rw [hfull]
    refine ⟨rfl, s.tapNotes e ++ [noteMailboxFull e task], ?_⟩
    simp only [note, SendFailure.counted, List.append_assoc]
    rfl

/-- **A send that succeeds** puts the envelope behind those that wait. -/
theorem HasRoom.send {target : TaskId} {m : Mailbox} (h : HasRoom s e target m) :
    (s.send e).1 = .ok () ∧
      ∃ m', (s.send e).2.mailbox? target = some m' ∧ m'.queue = m.queue ++ [e] := by
  obtain ⟨hd, hm, hlt⟩ := h
  obtain ⟨task, hf, rfl⟩ := Option.map_eq_some_iff.mp hm
  rw [Mailbox.length_queue] at hlt
  obtain ⟨task', m', hf', henq, hok, hr⟩ := deliver_of_accepts (accepts_iff.mpr ⟨task, hf, hlt⟩) e
  obtain rfl : task = task' := Option.some.inj (hf.symm.trans hf')
  have hsend : s.send e = s.deliver target e := by rw [TaskSystem.send, hd]
  rw [hsend]
  exact ⟨hok, m', mailbox?_setMailbox_self hf hr, (Mailbox.enqueue?_eq_some.mp henq).2.2⟩

/-- An envelope can be sent or not, and if not there is a reason. -/
theorem fails_or_hasRoom (s : TaskSystem) (e : Envelope) :
    (∃ reason, Fails s e reason) ∨ ∃ target m, HasRoom s e target m := by
  cases hd : e.destination with
  | broadcast => exact .inl ⟨_, .misaddressed hd⟩
  | task target =>
    cases hm : s.mailbox? target with
    | none => exact .inl ⟨_, .unknown hd hm⟩
    | some m =>
      have hle : m.queue.length ≤ m.capacity := by
        rw [Mailbox.length_queue]
        exact m.length_le_capacity
      rcases Nat.lt_or_eq_of_le hle with hlt | heq
      · exact .inr ⟨target, m, hd, hm, hlt⟩
      · exact .inl ⟨_, .full hd hm heq⟩

/-- Sending fails for one of these reasons and for no other. -/
theorem send_eq_error_iff :
    (s.send e).1 = .error err ↔ err.envelope = e ∧ Fails s e err.reason := by
  constructor
  · intro herr
    obtain ⟨reason, h⟩ | ⟨target, m, h⟩ := fails_or_hasRoom s e
    · obtain rfl : ⟨reason, e⟩ = err := Except.error.inj (h.send.1.symm.trans herr)
      exact ⟨rfl, h⟩
    · cases h.send.1.symm.trans herr
  · rintro ⟨rfl, h⟩
    exact h.send.1

/-! ## Failing, and going on -/

/-- A run in which an envelope could not be sent, now and then. What is left of the run without
these attempts is a run with some answers of its own. -/
inductive Retries (e : Envelope) : TaskSystem → List Operation → List Operation → List Answer → Prop
  | nil {s : TaskSystem} : Retries e s [] [] []
  | perform {s : TaskSystem} {ops rest : List Operation} {told : List Answer} (op : Operation) :
      Retries e (s.perform op).2 ops rest told →
      Retries e s (op :: ops) (op :: rest) ((s.perform op).1 :: told)
  | attempt {s : TaskSystem} {ops rest : List Operation} {told : List Answer} {err : SendError} :
      (s.send e).1 = .error err → Retries e (s.send e).2 ops rest told →
      Retries e s (.send e :: ops) rest told

/-- **Failed attempts leave no trace.** The other operations are answered as they would have been
without them, and they lead to the same core. -/
theorem Retries.run (h : Retries e s ops rest told) :
    told = s.answers rest ∧ (s.run ops).core = (s.run rest).core := by
  induction h with
  | nil => exact ⟨rfl, rfl⟩
  | perform op _ ih => exact ⟨congrArg _ ih.1, ih.2⟩
  | attempt herr _ ih =>
    -- The rest of the run begins in a system that differs from the one before the attempt, but not
    -- in its core.
    have hcore := (send_eq_error_iff.mp herr).2.send.2.core_eq
    obtain ⟨hanswers, hrun⟩ := run_of_core hcore _
    exact ⟨ih.1.trans hanswers, ih.2.trans hrun⟩

theorem mailbox?_of_core (h : s.core = t.core) (target : TaskId) :
    s.mailbox? target = t.mailbox? target :=
  mailbox?_of_registry (congrArg registry h) target

/-! ## The law -/

/-- What a sender can rely on who sends again what came back. -/
structure RetryLaw (s : TaskSystem) : Prop where
  fails_iff : ∀ e err, (s.send e).1 = .error err ↔ err.envelope = e ∧ Fails s e err.reason
  succeeds_iff : ∀ e, (s.send e).1 = .ok () ↔ ∃ target m, HasRoom s e target m
  unsent : ∀ e err, (s.send e).1 = .error err → Unsent s err.reason (s.send e).2
  traceless : ∀ e ops rest told, Retries e s ops rest told →
    told = s.answers rest ∧ (s.run ops).core = (s.run rest).core
  retried : ∀ e ops rest told target m, Retries e s ops rest told →
    HasRoom (s.run ops) e target m →
    HasRoom (s.run rest) e target m ∧
    ((s.run ops).send e).1 = .ok () ∧ ((s.run rest).send e).1 = .ok () ∧
    ((s.run ops).send e).2.core = ((s.run rest).send e).2.core ∧
    ∃ m', ((s.run ops).send e).2.mailbox? target = some m' ∧ m'.queue = m.queue ++ [e]

/-- **The law of retrying.** A send fails for three reasons only, hands the envelope back and
changes nothing but counters; and when it succeeds in the end, the failed attempts have made no
difference. -/
theorem retry_law (s : TaskSystem) : RetryLaw s where
  fails_iff _ _ := send_eq_error_iff
  succeeds_iff e := by
    constructor
    · intro hok
      obtain ⟨reason, h⟩ | h := fails_or_hasRoom s e
      · cases h.send.1.symm.trans hok
      · exact h
    · rintro ⟨target, m, h⟩
      exact h.send.1
  unsent _ _ herr := (send_eq_error_iff.mp herr).2.send.2
  traceless _ _ _ _ h := h.run
  retried e ops rest told target m h hroom := by
    have hcore := h.run.2
    have hroom' : HasRoom (s.run rest) e target m :=
      ⟨hroom.1, (mailbox?_of_core hcore target).symm.trans hroom.2.1, hroom.2.2⟩
    exact ⟨hroom', hroom.send.1, hroom'.send.1, (blind_send e _ _ hcore).2, hroom.send.2⟩

/-- An envelope is sent too early, then again while another one is waiting, and then there is
room. -/
theorem retry_law_impatient :
    ∃ s : TaskSystem, build (.create 7 0) ⟨1, .report, .builtin, true, false⟩ = .ok s ∧
      let e : Envelope := .owning ⟨9⟩ ⟨2⟩ (.task ⟨1⟩) .empty
      let first : Envelope := .owning ⟨8⟩ ⟨2⟩ (.task ⟨1⟩) .empty
      let rest : List Operation := [.register ⟨1⟩ "first", .send first, .tryReceive ⟨1⟩]
      let ops : List Operation :=
        [.send e, .register ⟨1⟩ "first", .send first, .send e, .tryReceive ⟨1⟩]
      RetryLaw s ∧ Retries e s ops rest (s.answers rest) ∧
        HasRoom (s.run ops) e ⟨1⟩ (.create 1) := by
  refine ⟨_, rfl, retry_law _, ?_, rfl, rfl, Nat.one_pos⟩
  exact .attempt rfl (.perform _ (.perform _ (.attempt rfl (.perform _ .nil))))

end TaskSystem

end TaskMessaging
