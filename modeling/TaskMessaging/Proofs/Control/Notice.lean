import TaskMessaging.Proofs.Control.Loop
import TaskMessaging.Proofs.Control.Policy

/-!
# What control events do to tasks

The dispatcher speaks to tasks through their mailboxes, like everybody else, and what it says is a
*notice*: an envelope of the core about an expiry, a fault or the end of the process, with no item
in it. An event leads to one notice at most for each task.

All calls of the dispatcher are plain. So whatever state the tasks have brought the system into,
handling events leaves the pools alone and escalates nothing, and the registry behind it is the one
before with the notices offered: a mailbox takes what it has room for, the rest is dropped, and an
expiry of a timer whose owner is gone is offered to nobody.
-/

namespace TaskMessaging

/-- What the dispatcher tells a task. -/
structure Envelope.IsNotice (e : Envelope) (id : TaskId) : Prop where
  origin : e.origin = .core
  destination : e.destination = .task id
  kind : e.kind = .timerExpired ∨ e.kind = .faultReported ∨ e.kind = .terminate
  payload : e.payload = .empty ∨ ∃ data, e.payload = .inline data

namespace TaskSystem

variable {s s' : TaskSystem} {mail : TaskId → List Envelope}

/-- Envelopes were offered to tasks without any concern for pools or policy. -/
structure Tells (s s' : TaskSystem) (mail : TaskId → List Envelope) : Prop
    extends Offers s s' mail where
  escalated : s'.escalated = s.escalated
  isAborted : s'.isAborted = s.isAborted

namespace Tells

variable {s'' : TaskSystem} {others : TaskId → List Envelope}

theorem trans (h : Tells s s' mail) (h' : Tells s' s'' others) :
    Tells s s'' fun id ↦ mail id ++ others id :=
  ⟨h.toOffers.trans h'.toOffers, h'.escalated.trans h.escalated, h'.isAborted.trans h.isAborted⟩

end Tells

theorem tells_run (wf : s.WellFormed) {ops : List Operation} (h : ∀ op ∈ ops, op.IsPlain) :
    Tells s (s.run ops) fun id ↦ ops.flatMap (·.offers id) := by
  have hescalated := escalated_run_of_plain (s := s) h
  refine ⟨offers_run wf h, hescalated, ?_⟩
  rw [isAborted, isAborted, hescalated, policy_run]

/-- A mailbox takes the first of the envelopes, as many as it has room for. -/
theorem Offers.mailbox (h : Offers s s' mail) {id : TaskId} {m : Mailbox}
    (hm : s.mailbox? id = some m) :
    ∃ m', s'.mailbox? id = some m' ∧ m'.capacity = m.capacity ∧
      m'.queue = m.queue ++ (mail id).take m.room := by
  obtain ⟨t, hf, rfl⟩ := Option.map_eq_some_iff.mp hm
  obtain ⟨hcap, hqueue⟩ := t.mailbox.offerAll_spec (mail t.id)
  obtain ⟨-, rfl⟩ := Registry.find?_eq_some hf
  refine ⟨t.mailbox.offerAll (mail t.id), ?_, hcap, hqueue⟩
  rw [mailbox?, h.registry, Registry.find?_offered, hf]
  rfl

end TaskSystem

namespace ControlLoop

open TaskSystem (Tells)

variable {c : ControlLoop}

/-- Handles events one after the other. -/
def handleEach (c : ControlLoop) (events : List Occurrence) : ControlLoop :=
  events.foldl (fun c o ↦ c.handle o.time o.event) c

/-- What handling an event offers a task, registered or not. -/
def notice (c : ControlLoop) (o : Occurrence) (id : TaskId) : List Envelope :=
  (c.handleCalls o.time o.event).flatMap (·.offers id)

/-- What handling events one after the other offers a task. -/
def notices (c : ControlLoop) : List Occurrence → TaskId → List Envelope
  | [], _ => []
  | o :: os, id => c.notice o id ++ (c.handle o.time o.event).notices os id

/-! ## One event -/

/-- Nothing, or one envelope of the core without an item. -/
def AtMostOneNotice (mail : List Envelope) (id : TaskId) : Prop :=
  mail = [] ∨ ∃ e, mail = [e] ∧ e.IsNotice id

theorem isNotice_expiryEnvelope {f : FiredTimer} {id : TaskId}
    (h : (expiryEnvelope f).destination = .task id) : (expiryEnvelope f).IsNotice id :=
  ⟨rfl, h, .inl rfl, .inr ⟨_, rfl⟩⟩

theorem atMostOneNotice_timerCalls (c : ControlLoop) (now : Instant) (timer : TimerId)
    (id : TaskId) :
    AtMostOneNotice ((c.timerCalls now timer).flatMap (·.offers id)) id := by
  rw [timerCalls]
  split
  · exact .inl rfl
  · next f _ =>
    have hsend : AtMostOneNotice ((Operation.send (expiryEnvelope f)).offers id) id := by
      rw [Operation.offers]
      split
      · next h => exact .inr ⟨_, rfl, isNotice_expiryEnvelope h⟩
      · exact .inl rfl
    rw [← List.append_nil (Operation.offers _ id)] at hsend
    -- Delivered or not, the expiry was offered to the owner of the timer, and nothing else was.
    split
    · exact hsend
    · exact hsend

theorem atMostOneNotice_reactCalls (c : ControlLoop) (now : Instant) (event : ControlEvent)
    (id : TaskId) :
    AtMostOneNotice ((c.reactCalls now event).flatMap (·.offers id)) id := by
  cases event with
  | timerFired timer => exact atMostOneNotice_timerCalls c now timer id
  | shutdownRequested => exact .inl rfl
  | fault signal =>
    have hstop : (if c.dispatcher.stopOnFault then [Operation.requestShutdown] else []).flatMap
        (·.offers id) = [] := by
      split
      · rfl
      · rfl
    rw [reactCalls, List.flatMap_append, hstop, List.append_nil]
    change AtMostOneNotice
      ((if id = .core then [] else [(faultEnvelope signal).readdress id]) ++ []) id
    rw [List.append_nil]
    split
    · exact .inl rfl
    · exact .inr ⟨_, rfl, rfl, rfl, .inr (.inl rfl), .inr ⟨_, rfl⟩⟩
  | interrupt =>
    change AtMostOneNotice ((if id = .core then [] else
      [.owning .terminate .core (.task id) .empty]) ++ []) id
    rw [List.append_nil]
    split
    · exact .inl rfl
    · exact .inr ⟨_, rfl, rfl, rfl, .inr (.inr rfl), .inl rfl⟩
  | unrecognized signal => exact .inl rfl

theorem atMostOneNotice (c : ControlLoop) (o : Occurrence) (id : TaskId) :
    AtMostOneNotice (c.notice o id) id := by
  rw [notice, handleCalls]
  split
  · exact .inl rfl
  · rw [List.flatMap_append]
    change AtMostOneNotice (_ ++ []) id
    rw [List.append_nil]
    exact atMostOneNotice_reactCalls c o.time o.event id

/-- **Handling an event** tells tasks what it offers them. -/
theorem tells_handle (wf : c.system.WellFormed) (o : Occurrence) :
    Tells c.system (c.handle o.time o.event).system (c.notice o) := by
  rw [system_handle]
  exact TaskSystem.tells_run wf (c.plain_handleCalls o.time o.event)

/-! ## Many events -/

theorem tells_handleEach (wf : c.system.WellFormed) (events : List Occurrence) :
    Tells c.system (c.handleEach events).system (c.notices events) := by
  induction events generalizing c with
  | nil => exact ⟨.nothing rfl rfl, rfl, rfl⟩
  | cons o os ih =>
    have hfirst := tells_handle wf o
    exact hfirst.trans (ih (hfirst.wellFormed wf))

theorem reachable_handleEach (r : c.system.Reachable) (events : List Occurrence) :
    (c.handleEach events).system.Reachable := by
  induction events generalizing c with
  | nil => exact r
  | cons o os ih => exact ih (reachable_perform r (.handle o.time o.event))

/-- A loop offers what the events do that it handles before it ends. -/
theorem offers_consumeCalls (c : ControlLoop) (events : List Occurrence) :
    ∃ handled, events = handled ++ (c.consume events).2.2 ∧
      ∀ id, (c.consumeCalls events).flatMap (·.offers id) = c.notices handled id := by
  induction events generalizing c with
  | nil =>
    rw [consume, consumeCalls]
    split
    · exact ⟨[], rfl, fun _ ↦ rfl⟩
    · exact ⟨[], rfl, fun _ ↦ rfl⟩
  | cons o os ih =>
    by_cases h : c.dispatcher.state = .terminal
    · rw [(consume_terminal h _).1, (consume_terminal h _).2]
      exact ⟨[], rfl, fun _ ↦ rfl⟩
    · obtain ⟨handled, hevents, hoffers⟩ := ih (c.handle o.time o.event)
      rw [consume_of_not_terminal h, consumeCalls, if_neg h]
      refine ⟨o :: handled, congrArg (o :: ·) hevents, fun id ↦ ?_⟩
      rw [List.flatMap_append, hoffers id]
      rfl

theorem tells_run (wf : c.system.WellFormed) (events : List Occurrence) :
    ∃ handled, events = handled ++ (c.run events).2.2 ∧
      Tells c.system (c.run events).2.1.system (c.start.notices handled) := by
  obtain ⟨handled, hevents, hoffers⟩ := offers_consumeCalls c.start events
  have hplain : ∀ op ∈ c.calls (.run events), op.IsPlain := by
    intro op hop
    rcases List.mem_append.mp hop with hstart | hconsume
    · exact c.plain_startCalls op hstart
    · exact c.start.plain_consumeCalls events op hconsume
  have hstart (id : TaskId) : c.startCalls.flatMap (·.offers id) = [] := by
    rw [startCalls]
    split
    · rfl
    · rfl
  have htells := TaskSystem.tells_run wf hplain
  have hmail : (fun id ↦ (c.calls (.run events)).flatMap (·.offers id)) =
      c.start.notices handled := by
    funext id
    rw [calls, List.flatMap_append, hstart, List.nil_append, hoffers]
  rw [hmail, ← system_perform] at htells
  exact ⟨handled, hevents, htells⟩

/-! ## The law -/

/-- What handling control events comes to for the system. -/
structure NoticeLaw (c : ControlLoop) (events : List Occurrence) : Prop where
  /-- Each event leads to one notice at most for each task. -/
  each : ∀ front o rest, events = front ++ o :: rest →
    Tells (c.handleEach front).system (c.handleEach (front ++ [o])).system
        ((c.handleEach front).notice o) ∧
      ∀ id, AtMostOneNotice ((c.handleEach front).notice o id) id
  /-- Nothing else happens, however many there are. -/
  all : Tells c.system (c.handleEach events).system (c.notices events)
  mailbox : ∀ id m, c.system.mailbox? id = some m →
    ∃ m', (c.handleEach events).system.mailbox? id = some m' ∧ m'.capacity = m.capacity ∧
      m'.queue = m.queue ++ (c.notices events id).take m.room
  /-- A dispatcher that ends by itself leaves out the notices of the events that it left. -/
  run : ∃ handled, events = handled ++ (c.run events).2.2 ∧
    Tells c.system (c.run events).2.1.system (c.start.notices handled)

/-- **Control events touch no pool and escalate nothing**, whatever the tasks are up to. -/
theorem notice_law (r : c.system.Reachable) (events : List Occurrence) : NoticeLaw c events := by
  have htells := tells_handleEach r.wellFormed events
  refine ⟨?_, htells, fun id m hm ↦ htells.mailbox hm, tells_run r.wellFormed events⟩
  rintro front o rest -
  have hlast : c.handleEach (front ++ [o]) = (c.handleEach front).handle o.time o.event := by
    rw [handleEach, List.foldl_append]
    rfl
  rw [hlast]
  exact ⟨tells_handle (reachable_handleEach r front).wellFormed o, atMostOneNotice _ o⟩

/-- Two tasks, an item of a pool that waits in the full mailbox of the second one, a timer of the
first task and one of a task that is not registered. -/
def guardedRun : List ControlOperation :=
  [.system (.register ⟨1⟩ "first"), .system (.register ⟨2⟩ "second"),
    .system (.allocate 8 ⟨0, 0⟩),
    .system (.send (.owning ⟨40⟩ ⟨1⟩ (.task ⟨2⟩) (.pooled ⟨7, 0, 0, 1⟩))),
    .arm ⟨0⟩ ⟨1⟩ ⟨5⟩ .oneShot 6, .arm ⟨0⟩ ⟨9⟩ ⟨5⟩ .oneShot 6]

/-- The expiry for the task that is not registered is dropped, and so is what does not fit. -/
theorem notice_law_guardedRun :
    ∃ s : TaskSystem, TaskSystem.build ((Allocator.create 7 1).declareAll [(2, 8)])
        ⟨1, .abort, .builtin, false, false⟩ = .ok s ∧
      let c : ControlLoop := ControlLoop.runAll ⟨.create false, s, .initial⟩ guardedRun
      let events : List Occurrence := [⟨.timerFired ⟨2⟩, ⟨5⟩⟩, ⟨.timerFired ⟨1⟩, ⟨5⟩⟩,
        ⟨.fault 11, ⟨6⟩⟩, ⟨.interrupt, ⟨7⟩⟩, ⟨.fault 6, ⟨8⟩⟩]
      NoticeLaw c events ∧
        (c.notices events ⟨1⟩).map (·.kind) = [.timerExpired, .faultReported, .terminate] ∧
        (c.notices events ⟨2⟩).map (·.kind) = [.faultReported, .terminate] ∧
        (c.handleEach events).system.mailbox? ⟨9⟩ = none ∧
        ((c.handleEach events).system.mailbox? ⟨1⟩).map (·.queue.map (·.kind)) =
          some [.timerExpired] ∧
        ((c.handleEach events).system.mailbox? ⟨2⟩).map (·.queue.map (·.kind)) = some [⟨40⟩] := by
  have hpools := (Allocator.Reachable.create 7 1).declareAll [(2, 8)]
  have hbuild : TaskSystem.Reachable _ := @TaskSystem.Reachable.build _
    ⟨1, .abort, .builtin, false, false⟩ _ hpools rfl
  refine ⟨_, rfl, notice_law (reachable_runAll hbuild guardedRun) _, ?_, ?_, ?_, ?_, ?_⟩
  all_goals decide

end ControlLoop

end TaskMessaging
