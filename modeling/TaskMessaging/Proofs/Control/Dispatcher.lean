import TaskMessaging.Control.Dispatcher
import TaskMessaging.Proofs.TaskSystem.Delivery
import TaskMessaging.Proofs.Timer.Expiry
import TaskMessaging.Proofs.Timer.Table

/-!
# What handling an event does

The fate of a timer is decided by its table alone, and so is whether its owner is told: an event
that a timer fired leads to one attempt to send the expiry if the table completes it, and else to
nothing but an entry in the journal. No other event touches the timers or tells a task of an expiry.
-/

namespace TaskMessaging

namespace TaskSystem

variable {s s' s'' : TaskSystem} {e : Envelope}

/-- Two systems that differ in their journals at most. -/
def SameButJournal (s s' : TaskSystem) : Prop := s' = { s with journal := s'.journal }

theorem SameButJournal.refl (s : TaskSystem) : SameButJournal s s := rfl

theorem SameButJournal.symm (h : SameButJournal s s') : SameButJournal s' s := by
  rw [SameButJournal] at h ⊢
  rw [h]

theorem SameButJournal.trans (h : SameButJournal s s')
    (h' : SameButJournal s' s'') : SameButJournal s s'' := by
  rw [SameButJournal] at h h' ⊢
  rw [h', h]

theorem SameButJournal.note (h : SameButJournal s s') (entries : Journal) :
    SameButJournal s (s'.note entries) := by
  rw [SameButJournal] at h
  rw [h]
  rfl

/-- What is handed back is what was sent. -/
theorem envelope_of_send_error {err : SendError} (h : (s.send e).1 = .error err) :
    err.envelope = e := by
  rw [send] at h
  split at h
  · next target _ =>
    cases ha : s.accepts target with
    | true =>
      obtain ⟨-, -, -, -, hok, -⟩ := deliver_of_accepts ha e
      rw [hok] at h
      cases h
    | false =>
      obtain ⟨reason, herr, -⟩ := deliver_of_not_accepts ha e
      rw [herr] at h
      exact (congrArg SendError.envelope (Except.error.inj h)).symm
  · exact (congrArg SendError.envelope (Except.error.inj h)).symm

/-! ## Envelopes of other kinds -/

/-- The deliveries that told a task of an expiry are counted; no other delivery is. -/
theorem timerEnvelopes_deliver (hk : e.kind ≠ .timerExpired) (target : TaskId) :
    (s.deliver target e).2.metrics.timerEnvelopes = s.metrics.timerEnvelopes := by
  have hk' : (e.kind == MessageKind.timerExpired) = false := beq_eq_false_iff_ne.mpr hk
  have htap (s : TaskSystem) : (s.tapDelivery target e).metrics = s.metrics := by
    rw [tapDelivery]
    split <;> rfl
  rw [deliver]
  dsimp only
  split
  · rfl
  · split
    · rw [htap, hk']
      rfl
    · rfl

theorem metrics_discard (s : TaskSystem) (e : Envelope) : (s.discard e).metrics = s.metrics := by
  have hrelease : (s.releaseEnvelope e).2.metrics = s.metrics := by
    rw [releaseEnvelope]
    split
    · rfl
    · rw [escalate]
      split <;> rfl
  rw [← hrelease, discard]
  rcases s.releaseEnvelope e with ⟨err | _, s'⟩
  · rfl
  · rfl

theorem timerEnvelopes_deliverOrDiscard (hk : e.kind ≠ .timerExpired) (target : TaskId) :
    (s.deliverOrDiscard target e).2.metrics.timerEnvelopes = s.metrics.timerEnvelopes := by
  have hd := timerEnvelopes_deliver (s := s) hk target
  rw [deliverOrDiscard]
  rcases hs : s.deliver target e with ⟨err | _, s'⟩
  · rw [hs] at hd
    exact (congrArg Metrics.timerEnvelopes (metrics_discard s' err.envelope)).trans hd
  · rw [hs] at hd
    exact hd

theorem timerEnvelopes_deliverFork (hk : e.kind ≠ .timerExpired) (target : TaskId) :
    (s.deliverFork e target).2.metrics.timerEnvelopes = s.metrics.timerEnvelopes := by
  rw [deliverFork]
  rcases hf : e.fork target s.allocator with ⟨err | copy, a⟩
  · rfl
  · have hcopy : copy.kind ≠ .timerExpired := by
      rw [(Envelope.fork_header hf).1]
      exact hk
    exact timerEnvelopes_deliverOrDiscard hcopy target

theorem timerEnvelopes_deliverAll (hk : e.kind ≠ .timerExpired) (targets : List TaskId) :
    (s.deliverAll e targets).2.metrics.timerEnvelopes = s.metrics.timerEnvelopes := by
  induction targets generalizing s with
  | nil => rfl
  | cons target rest ih =>
    cases rest with
    | nil => exact timerEnvelopes_deliverOrDiscard (e := e.readdress target) hk target
    | cons next rest => exact ih.trans (timerEnvelopes_deliverFork hk target)

theorem timerEnvelopes_broadcast (hk : e.kind ≠ .timerExpired) :
    (s.broadcast e).2.metrics.timerEnvelopes = s.metrics.timerEnvelopes := by
  rw [broadcast]
  split
  · have hd := congrArg Metrics.timerEnvelopes (metrics_discard (s.note [noteNoRecipients e]) e)
    exact hd
  · exact timerEnvelopes_deliverAll hk _

end TaskSystem

namespace ControlLoop

open TaskSystem (SameButJournal)

variable {c : ControlLoop} {now : Instant} {id : TimerId} {event : ControlEvent}

/-! ## Events of timers -/

/-- The owner of a timer reads off what the timer was armed with. -/
theorem ofEnvelope?_expiryEnvelope (f : FiredTimer) :
    TimerExpiry.ofEnvelope? (expiryEnvelope f) = some ⟨f.id, f.userData⟩ :=
  TimerExpiry.ofEnvelope?_of_toPayload rfl rfl

theorem releaseExpiry_expiryEnvelope (s : TaskSystem) (f : FiredTimer) :
    SameButJournal s (releaseExpiry s (expiryEnvelope f)) := by
  have hnone : (expiryEnvelope f).handle? = none := rfl
  rw [releaseExpiry, TaskSystem.releaseEnvelope, Envelope.release_of_none hnone]
  exact (SameButJournal.refl s).note _

/-- The table decides whether an expiry is sent, and it is sent once. -/
theorem deliverTimer_spec (c : ControlLoop) (now : Instant) (id : TimerId) :
    (c.deliverTimer now id).timers = (c.timers.expire id now).2 ∧
      SameButJournal (match (c.timers.expire id now).1 with
        | none => c.system
        | some f => (c.system.send (expiryEnvelope f)).2) (c.deliverTimer now id).system := by
  rw [deliverTimer]
  rcases he : c.timers.expire id now with ⟨_ | f, timers⟩
  · refine ⟨?_, (SameButJournal.refl c.system).note _⟩
    have hsame := TimerService.expire_eq_of_none (congrArg Prod.fst he)
    rw [he] at hsame
    exact (congrArg Prod.snd hsame).symm
  · dsimp only
    rcases hs : c.system.send (expiryEnvelope f) with ⟨err | _, s⟩
    · have herr := TaskSystem.envelope_of_send_error (congrArg Prod.fst hs)
      refine ⟨rfl, ?_⟩
      dsimp only
      rw [herr]
      have hr := releaseExpiry_expiryEnvelope
        (s.note [noteExpiryNotDelivered id f.owner err.reason]) f
      rw [SameButJournal] at hr ⊢
      rw [hr]
      rfl
    · exact ⟨rfl, .refl s⟩

theorem handle_of_not_terminal (h : c.dispatcher.state ≠ .terminal) (now : Instant)
    (event : ControlEvent) :
    (c.handle now event).timers = ((c.setState .dispatching).react now event).2.timers ∧
      SameButJournal ((c.setState .dispatching).react now event).2.system
        (c.handle now event).system := by
  rw [handle, if_neg h]
  exact ⟨rfl, (SameButJournal.refl _).note _⟩

/-- In the terminal state no event reaches the timers or the system. -/
theorem handle_of_terminal (h : c.dispatcher.state = .terminal) (now : Instant)
    (event : ControlEvent) :
    (c.handle now event).timers = c.timers ∧
      SameButJournal c.system (c.handle now event).system := by
  rw [handle_terminal h]
  exact ⟨rfl, (SameButJournal.refl _).note _⟩

theorem handle_timerFired (h : c.dispatcher.state ≠ .terminal) (now : Instant) (id : TimerId) :
    (c.handle now (.timerFired id)).timers = (c.timers.expire id now).2 ∧
      SameButJournal (match (c.timers.expire id now).1 with
        | none => c.system
        | some f => (c.system.send (expiryEnvelope f)).2)
        (c.handle now (.timerFired id)).system := by
  obtain ⟨htimers, hsystem⟩ := handle_of_not_terminal h now (.timerFired id)
  obtain ⟨htimers', hsystem'⟩ := deliverTimer_spec (c.setState .dispatching) now id
  refine ⟨htimers.trans htimers', ?_⟩
  rw [SameButJournal] at hsystem hsystem' ⊢
  change (((c.setState .dispatching).deliverTimer now id).system = _) at hsystem'
  rw [hsystem]
  change { ((c.setState .dispatching).deliverTimer now id).system with
    journal := (c.handle now (.timerFired id)).system.journal } = _
  rw [hsystem']
  rfl

/-! ## Other events -/

theorem timers_handle_of_other (h : ∀ id, event ≠ .timerFired id) :
    (c.handle now event).timers = c.timers := by
  by_cases ht : c.dispatcher.state = .terminal
  · exact (handle_of_terminal ht now event).1
  · rw [(handle_of_not_terminal ht now event).1]
    cases event with
    | timerFired id => exact absurd rfl (h id)
    | fault signal =>
      rw [react, reportFault]
      dsimp only
      split
      · rfl
      · rfl
    | shutdownRequested => rfl
    | interrupt => rfl
    | unrecognized signal => rfl

/-- No other event tells a task of an expiry. -/
theorem timerEnvelopes_handle_of_other (h : ∀ id, event ≠ .timerFired id) :
    (c.handle now event).system.metrics.timerEnvelopes = c.system.metrics.timerEnvelopes := by
  have hstop (s : TaskSystem) : s.requestShutdown.metrics = s.metrics := by
    rw [TaskSystem.requestShutdown]
    split
    · rfl
    · rfl
  by_cases ht : c.dispatcher.state = .terminal
  · rw [(handle_of_terminal ht now event).2]
  · rw [(handle_of_not_terminal ht now event).2]
    cases event with
    | timerFired id => exact absurd rfl (h id)
    | fault signal =>
      have hk : (faultEnvelope signal).kind ≠ .timerExpired := by
        change MessageKind.faultReported ≠ .timerExpired
        decide
      rw [react, reportFault]
      dsimp only
      split
      · exact (congrArg Metrics.timerEnvelopes (hstop _)).trans
          (TaskSystem.timerEnvelopes_broadcast hk)
      · exact TaskSystem.timerEnvelopes_broadcast hk
    | shutdownRequested => exact congrArg Metrics.timerEnvelopes (hstop _)
    | interrupt => exact TaskSystem.timerEnvelopes_broadcast (by decide)
    | unrecognized signal => rfl

end ControlLoop

end TaskMessaging
