import TaskMessaging.Proofs.Control.Dispatcher
import TaskMessaging.Proofs.Pool.Independence
import TaskMessaging.Proofs.TaskSystem.Mail

/-!
# Senders and receivers

A send and a receive each work at one mailbox: they look at it, put another one in its place or
leave it, answer, and count. Steps at different mailboxes may be done in either order, whatever they
do, since what is counted is added up. At one mailbox the two ends are independent, too, as long as
it is neither empty nor full: the oldest envelope leaves it and the new one enters it.

The journal tells of everything in the order in which it was done, so it is left out of the
comparison; and a tap would number the deliveries in that order.
-/

namespace TaskMessaging

namespace Commutes

variable {σ α β γ : Type} {f : σ → α × σ} {g : σ → β × σ} {same : σ → σ → Prop} {s : σ}

/-- The result of the second step may be looked at in another way. -/
theorem map (h : Commutes f g same s) (view : β → γ) :
    Commutes f (fun s ↦ (view (g s).1, (g s).2)) same s :=
  ⟨h.first, congrArg view h.second, h.state⟩

end Commutes

namespace Metrics

/-- What was counted, and some more. -/
def add (m d : Metrics) : Metrics where
  tasksSpawned := m.tasksSpawned + d.tasksSpawned
  messagesSent := m.messagesSent + d.messagesSent
  messagesDelivered := m.messagesDelivered + d.messagesDelivered
  mailboxFullEvents := m.mailboxFullEvents + d.mailboxFullEvents
  unknownDestinations := m.unknownDestinations + d.unknownDestinations
  broadcasts := m.broadcasts + d.broadcasts
  broadcastFailures := m.broadcastFailures + d.broadcastFailures
  timerEnvelopes := m.timerEnvelopes + d.timerEnvelopes

theorem add_right_comm (m c d : Metrics) : (m.add c).add d = (m.add d).add c := by
  have hcomm (x y z : UInt64) : x + y + z = x + z + y := by
    rw [UInt64.add_assoc, UInt64.add_comm y, UInt64.add_assoc]
  rw [add, add, add, add]
  simp only [hcomm]

theorem add_zero (m : Metrics) : m.add zero = m := by
  simp [add, zero]

/-- An attempt to deliver an envelope that found no task. -/
def unknown : Metrics := zero.recordSendAttempt.recordUnknownDestination

/-- An attempt that found the mailbox full. -/
def refused : Metrics := zero.recordSendAttempt.recordMailboxFull

/-- An attempt that ended in the mailbox. -/
def delivered (timer : Bool) : Metrics := zero.recordSendAttempt.recordDelivered timer

theorem add_unknown (m : Metrics) :
    m.add unknown = m.recordSendAttempt.recordUnknownDestination := by
  simp [add, unknown, zero, recordSendAttempt, recordUnknownDestination]

theorem add_refused (m : Metrics) : m.add refused = m.recordSendAttempt.recordMailboxFull := by
  simp [add, refused, zero, recordSendAttempt, recordMailboxFull]

theorem add_delivered (m : Metrics) (timer : Bool) :
    m.add (delivered timer) = m.recordSendAttempt.recordDelivered timer := by
  cases timer <;> simp [add, delivered, zero, recordSendAttempt, recordDelivered]

end Metrics

namespace Mailbox

/-- A mailbox that is neither empty nor full passes on its oldest envelope and takes a new one, and
comes out the same, whichever is done first. -/
theorem exists_passing {m : Mailbox} (e : Envelope) (hne : m.queue ≠ [])
    (hlt : m.length < m.capacity) :
    ∃ first m₁ m₂ m₃, m.enqueue? e = some m₁ ∧ m₁.dequeue? = some (first, m₃) ∧
      m.dequeue? = some (first, m₂) ∧ m₂.enqueue? e = some m₃ := by
  obtain ⟨m₁, henqueue⟩ := (exists_enqueue?_iff e).mpr hlt
  obtain ⟨-, hcap₁, hqueue₁⟩ := enqueue?_eq_some.mp henqueue
  rcases hdequeue : m.dequeue? with _ | ⟨first, m₂⟩
  · exact absurd (dequeue?_eq_none.mp hdequeue) hne
  · obtain ⟨hqueue, hcap₂⟩ := dequeue?_eq_some.mp hdequeue
    have hlt₂ : m₂.length < m₂.capacity := by
      rw [← length_queue, hqueue, List.length_cons] at hlt
      rw [← length_queue, hcap₂]
      omega
    obtain ⟨m₃, henqueue₂⟩ := (exists_enqueue?_iff e).mpr hlt₂
    obtain ⟨-, hcap₃, hqueue₃⟩ := enqueue?_eq_some.mp henqueue₂
    refine ⟨first, m₁, m₂, m₃, henqueue, ?_, rfl, henqueue₂⟩
    rw [dequeue?_eq_some, hqueue₁, hqueue, hqueue₃, hcap₃, hcap₂, hcap₁]
    exact ⟨rfl, rfl⟩

end Mailbox

namespace Registry

variable {id j : TaskId}

/-- Puts a mailbox in the place of a task's, if there is one to put. -/
def replaceMailbox (r : Registry) (id : TaskId) : Option Mailbox → Registry
  | none => r
  | some m => r.setMailbox id m

theorem setMailbox_comm (r : Registry) (h : id ≠ j) (m n : Mailbox) :
    (r.setMailbox id m).setMailbox j n = (r.setMailbox j n).setMailbox id m := by
  rw [setMailbox, setMailbox, setMailbox, setMailbox, update, update, update, update, List.map_map,
    List.map_map]
  refine congrArg (Registry.mk · r.mailboxCapacity) (List.map_congr_left fun t _ ↦ ?_)
  by_cases hid : t.id = id
  · have hj : t.id ≠ j := hid ▸ h
    simp [hid, h]
  · by_cases hj : t.id = j
    · simp [hj, Ne.symm h]
    · simp [hid, hj]

theorem setMailbox_setMailbox (r : Registry) (id : TaskId) (m n : Mailbox) :
    (r.setMailbox id m).setMailbox id n = r.setMailbox id n := by
  rw [setMailbox, setMailbox, setMailbox, update, update, update, List.map_map]
  refine congrArg (Registry.mk · r.mailboxCapacity) (List.map_congr_left fun t _ ↦ ?_)
  by_cases hid : t.id = id
  · simp [hid]
  · simp [hid]

theorem replaceMailbox_comm (r : Registry) (h : id ≠ j) (x y : Option Mailbox) :
    (r.replaceMailbox id x).replaceMailbox j y = (r.replaceMailbox j y).replaceMailbox id x := by
  cases x with
  | none => rfl
  | some m =>
    cases y with
    | none => rfl
    | some n => exact r.setMailbox_comm h m n

theorem find?_replaceMailbox_of_ne (r : Registry) (h : j ≠ id) (x : Option Mailbox) :
    (r.replaceMailbox id x).find? j = r.find? j := by
  cases x with
  | none => rfl
  | some m => exact find?_setMailbox_of_ne h m

end Registry

namespace TaskSystem

variable {s s' : TaskSystem} {e : Envelope} {t u : TaskId} {α β : Type}

/-! ## Steps at a mailbox -/

/-- What a step at a mailbox comes to. -/
structure MailboxStep (α : Type) where
  answer : α
  /-- The mailbox that takes its place, if one does. -/
  mailbox : Option Mailbox
  counted : Metrics

/-- The system behind a step at the mailbox of a task. -/
def after (s : TaskSystem) (id : TaskId) (r : MailboxStep α) : TaskSystem :=
  { s with
    registry := s.registry.replaceMailbox id r.mailbox
    metrics := s.metrics.add r.counted }

/-- A step at the mailbox of a task, if there is such a task. -/
def atMailbox (id : TaskId) (step : Option Mailbox → MailboxStep α) (s : TaskSystem) :
    α × TaskSystem :=
  ((step (s.mailbox? id)).answer, s.after id (step (s.mailbox? id)))

/-- Enqueueing an envelope. -/
def sending (e : Envelope) : Option Mailbox → MailboxStep (Except SendError Unit)
  | none => ⟨.error ⟨.unknownDestination, e⟩, none, .unknown⟩
  | some m =>
    match m.enqueue? e with
    | some m' => ⟨.ok (), some m', .delivered (e.kind == MessageKind.timerExpired)⟩
    | none => ⟨.error ⟨.mailboxFull m.capacity, e⟩, none, .refused⟩

/-- Taking the oldest envelope. -/
def receiving (id : TaskId) : Option Mailbox → MailboxStep (Except TaskError (Option Envelope))
  | none => ⟨.error (.unknownTask id), none, .zero⟩
  | some m =>
    match m.dequeue? with
    | some (e, m') => ⟨.ok (some e), some m', .zero⟩
    | none => ⟨.ok none, none, .zero⟩

theorem sending_of_enqueue? {m m' : Mailbox} (h : m.enqueue? e = some m') :
    sending e (some m) = ⟨.ok (), some m', .delivered (e.kind == MessageKind.timerExpired)⟩ := by
  rw [sending, h]

theorem receiving_of_dequeue? {m m' : Mailbox} (h : m.dequeue? = some (e, m')) (id : TaskId) :
    receiving id (some m) = ⟨.ok (some e), some m', .zero⟩ := by
  rw [receiving, h]

/-- A step is another one, but for what it reports. Nobody taps the system. -/
def Performs (f g : TaskSystem → α × TaskSystem) : Prop :=
  ∀ s, s.tap = none → (f s).1 = (g s).1 ∧ SameButJournal (g s).2 (f s).2

theorem performs_send (h : e.destination = .task t) :
    Performs (·.send e) (atMailbox t (sending e)) := by
  rintro ⟨allocator, registry, catalog, metrics, sequence, terminating, tap, policy, escalated,
    journal⟩ htap
  obtain rfl : tap = none := htap
  dsimp only
  rw [send, h]
  dsimp only
  rw [deliver, atMailbox, after, mailbox?, SameButJournal]
  dsimp only
  cases hf : registry.find? t with
  | none =>
    dsimp only [Option.map_none, sending]
    rw [Metrics.add_unknown]
    exact ⟨rfl, rfl⟩
  | some x =>
    dsimp only [Option.map_some, sending]
    cases hm : x.mailbox.enqueue? e with
    | none =>
      dsimp only
      rw [Metrics.add_refused]
      exact ⟨rfl, rfl⟩
    | some m =>
      dsimp only
      rw [Metrics.add_delivered]
      exact ⟨rfl, rfl⟩

theorem performs_tryReceive (id : TaskId) :
    Performs (·.tryReceive id) (atMailbox id (receiving id)) := by
  intro s htap
  dsimp only
  rw [tryReceive, lookup, atMailbox, after, mailbox?, SameButJournal]
  cases hf : s.registry.find? id with
  | none =>
    dsimp only [Option.map_none, receiving]
    rw [Metrics.add_zero]
    exact ⟨rfl, rfl⟩
  | some x =>
    dsimp only [Option.map_some, receiving]
    rcases hm : x.mailbox.dequeue? with _ | ⟨e, m⟩
    · dsimp only
      rw [Metrics.add_zero]
      exact ⟨rfl, rfl⟩
    · dsimp only
      rw [Metrics.add_zero]
      exact ⟨rfl, rfl⟩

/-! ## Two mailboxes -/

theorem mailbox?_after_of_ne (h : u ≠ t) (s : TaskSystem) (r : MailboxStep α) :
    (s.after t r).mailbox? u = s.mailbox? u := by
  rw [mailbox?, mailbox?]
  exact congrArg (Option.map _) (Registry.find?_replaceMailbox_of_ne _ h _)

theorem after_comm (h : t ≠ u) (s : TaskSystem) (x : MailboxStep α) (y : MailboxStep β) :
    (s.after t x).after u y = (s.after u y).after t x := by
  rw [after, after, after, after]
  dsimp only
  rw [s.registry.replaceMailbox_comm h, s.metrics.add_right_comm]

/-- Steps at different mailboxes may be done in either order. -/
theorem commutes_atMailbox (h : t ≠ u) (f : Option Mailbox → MailboxStep α)
    (g : Option Mailbox → MailboxStep β) (s : TaskSystem) :
    Commutes (atMailbox t f) (atMailbox u g) Eq s := by
  have hf (r : MailboxStep β) := mailbox?_after_of_ne h s r
  have hg (r : MailboxStep α) := mailbox?_after_of_ne (Ne.symm h) s r
  refine ⟨?_, ?_, ?_⟩
  · rw [atMailbox, atMailbox, atMailbox, hf]
  · rw [atMailbox, atMailbox, atMailbox, hg]
  · simp only [atMailbox, hf, hg]
    exact s.after_comm h _ _

/-! ## One mailbox -/

/-- A send to a task and a receive by it may be done in either order while its mailbox is neither
empty nor full. -/
theorem commutes_oneMailbox (e : Envelope) {m : Mailbox} (hm : s.mailbox? t = some m)
    (hne : m.queue ≠ []) (hlt : m.length < m.capacity) :
    Commutes (atMailbox t (sending e)) (atMailbox t (receiving t)) Eq s := by
  obtain ⟨first, m₁, m₂, m₃, henqueue, hdequeue₁, hdequeue, henqueue₂⟩ :=
    m.exists_passing e hne hlt
  obtain ⟨x, hf, rfl⟩ := Option.map_eq_some_iff.mp hm
  have hafter {γ : Type} (answer : γ) (n : Mailbox) (d : Metrics) :
      (s.after t ⟨answer, some n, d⟩).mailbox? t = some n :=
    mailbox?_setMailbox_self hf rfl
  have hsend := sending_of_enqueue? henqueue
  have hsend₂ := sending_of_enqueue? henqueue₂
  have hreceive := receiving_of_dequeue? hdequeue t
  have hreceive₁ := receiving_of_dequeue? hdequeue₁ t
  refine ⟨?_, ?_, ?_⟩
  · simp only [atMailbox, hm, hreceive, hafter, hsend, hsend₂]
  · simp only [atMailbox, hm, hsend, hafter, hreceive, hreceive₁]
  · simp only [atMailbox, hm, hsend, hreceive, hafter, hsend₂, hreceive₁]
    simp only [after, Registry.replaceMailbox, Registry.setMailbox_setMailbox]
    rw [Metrics.add_right_comm]

/-! ## What is reported makes no difference -/

/-- A step does on a system what the one that it performs does on another journal. -/
theorem Performs.of_sameButJournal {f : TaskSystem → α × TaskSystem}
    {step : Option Mailbox → MailboxStep α} (hf : Performs f (atMailbox t step))
    (h : SameButJournal s s') (htap : s.tap = none) :
    (f s').1 = (s.atMailbox t step).1 ∧ SameButJournal (s.atMailbox t step).2 (f s').2 := by
  rw [SameButJournal] at h
  have htap' : s'.tap = none := by rw [h, htap]
  have hsame : (s'.atMailbox t step).1 = (s.atMailbox t step).1 ∧
      SameButJournal (s.atMailbox t step).2 (s'.atMailbox t step).2 := by
    rw [h]
    exact ⟨rfl, rfl⟩
  obtain ⟨hanswer, hstate⟩ := hf s' htap'
  exact ⟨hanswer.trans hsame.1, hsame.2.trans hstate⟩

/-- Steps that perform others may change places where those may. -/
theorem commutes_of_performs {f : TaskSystem → α × TaskSystem} {g : TaskSystem → β × TaskSystem}
    {x : Option Mailbox → MailboxStep α} {y : Option Mailbox → MailboxStep β}
    (hf : Performs f (atMailbox t x)) (hg : Performs g (atMailbox u y)) (htap : s.tap = none)
    (h : Commutes (atMailbox t x) (atMailbox u y) Eq s) : Commutes f g SameButJournal s := by
  obtain ⟨hanswer, hstate⟩ := hf s htap
  obtain ⟨hanswer', hstate'⟩ := hg s htap
  obtain ⟨hfirst, hbehind⟩ := hf.of_sameButJournal hstate' htap
  obtain ⟨hsecond, hbehind'⟩ := hg.of_sameButJournal hstate htap
  refine ⟨?_, ?_, ?_⟩
  · rw [hfirst, h.first, hanswer]
  · rw [hsecond, h.second, hanswer']
  · exact hbehind'.symm.trans (h.state ▸ hbehind)

/-! ## Receiving with patience -/

/-- What a task that waits for an envelope is answered: nothing as long as there is none. -/
def patient : Except TaskError (Option Envelope) → Option (Except TaskError Envelope)
  | .ok none => none
  | .ok (some e) => some (.ok e)
  | .error err => some (.error err)

/-- Takes the oldest envelope of a task's mailbox, and waits for one if there is none. A receive
that still waits has no answer. -/
def receive (s : TaskSystem) (id : TaskId) : Option (Except TaskError Envelope) × TaskSystem :=
  (patient (s.tryReceive id).1, (s.tryReceive id).2)

/-! ## The law -/

/-- What may be done in either order. -/
structure IndependenceLaw (a : Allocator) (s : TaskSystem) : Prop where
  /-- Operations that concern different pools. -/
  pools : ∀ op op' : PoolOperation, op.declares = false → op'.declares = false →
    (∀ i, a.Concerns op i → ¬ a.Concerns op' i) → Commutes (·.perform op) (·.perform op') Eq a
  /-- Sends to two different tasks, registered or not. -/
  sends : ∀ e e' t u, e.destination = .task t → e'.destination = .task u → t ≠ u →
    Commutes (·.send e) (·.send e') SameButJournal s
  /-- A send to one task and a receive by another. -/
  polls : ∀ e t u, e.destination = .task t → t ≠ u →
    Commutes (·.send e) (·.tryReceive u) SameButJournal s
  receives : ∀ e t u, e.destination = .task t → t ≠ u →
    Commutes (·.send e) (·.receive u) SameButJournal s
  /-- The two ends of a mailbox that is neither empty nor full. -/
  ends : ∀ e t m, e.destination = .task t → s.mailbox? t = some m → m.queue ≠ [] →
    m.length < m.capacity → Commutes (·.send e) (·.tryReceive t) SameButJournal s

/-- **Independent operations may change places.** -/
theorem independence_law {a : Allocator} (r : a.Reachable) (htap : s.tap = none) :
    IndependenceLaw a s := by
  have hpolls (e : Envelope) (t u : TaskId) (he : e.destination = .task t) (htu : t ≠ u) :
      Commutes (·.send e) (·.tryReceive u) SameButJournal s :=
    commutes_of_performs (performs_send he) (performs_tryReceive u) htap
      (commutes_atMailbox htu _ _ s)
  refine ⟨fun op op' hop hop' ↦ Allocator.commutes_perform r.wellFormed hop hop', ?_, hpolls, ?_,
    ?_⟩
  · intro e e' t u he he' htu
    exact commutes_of_performs (performs_send he) (performs_send he') htap
      (commutes_atMailbox htu _ _ s)
  · intro e t u he htu
    exact (hpolls e t u he htu).map patient
  · intro e t m he hm hne hlt
    exact commutes_of_performs (performs_send he) (performs_tryReceive t) htap
      (commutes_oneMailbox e hm hne hlt)

/-- Two tasks, the first with one envelope in a mailbox for two. -/
def halfFullRun : List Operation :=
  [.register ⟨1⟩ "first", .register ⟨2⟩ "second",
    .send (.owning ⟨40⟩ ⟨2⟩ (.task ⟨1⟩) (.text "x"))]

/-- A copy that its full pool refuses and a request for the other pool concern different ones. -/
theorem independence_law_halfFullRun :
    ∃ s : TaskSystem, build ((Allocator.create 7 2).declareAll [(1, 8), (1, 16)])
        ⟨2, .report, .builtin, false, false⟩ = .ok s ∧
      let a := (((Allocator.create 7 2).declareAll [(1, 8), (1, 16)]).allocate 9 ⟨0, 0⟩).2
      let t := s.run halfFullRun
      IndependenceLaw a t ∧ (a.perform (.duplicate ⟨7, 1, 0, 1⟩)).1 = .refused (.exhausted 1 16 1) ∧
        (∀ i, a.Concerns (.duplicate ⟨7, 1, 0, 1⟩) i → ¬ a.Concerns (.allocate 8 ⟨1, 2⟩) i) ∧
        (t.mailbox? ⟨1⟩).map (fun m ↦ (m.queue.length, m.capacity)) = some (1, 2) := by
  have hpools := (Allocator.Reachable.create 7 2).declareAll [(1, 8), (1, 16)]
  refine ⟨_, rfl, independence_law (hpools.allocate 9 ⟨0, 0⟩) rfl, ?_, ?_, ?_⟩
  · decide
  · rintro i rfl
    rw [Allocator.Concerns]
    decide
  · decide

end TaskSystem

end TaskMessaging
