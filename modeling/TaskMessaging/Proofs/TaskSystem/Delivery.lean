import TaskMessaging.Proofs.Pool.Effect
import TaskMessaging.Proofs.Task.Registry
import TaskMessaging.TaskSystem.Threads

/-!
# What a delivery changes

For the pools and the tasks a delivery is one of two things. Either the mailbox of its target
accepts the envelope, which changes that mailbox and nothing else, or nothing changes and the
envelope comes back. Counters, records and the journal are left to themselves.

The item that an envelope owns decides what releasing and forking it do: without one both leave the
pools alone, with one they free and duplicate it.
-/

namespace TaskMessaging

namespace Mailbox

variable {m : Mailbox}

theorem exists_enqueue?_iff (e : Envelope) :
    (∃ m', m.enqueue? e = some m') ↔ m.length < m.capacity := by
  constructor
  · rintro ⟨m', hm⟩
    exact (enqueue?_eq_some.mp hm).1
  · intro hlt
    have hroom := m.length_add_room
    rw [length] at hlt
    rw [enqueue?]
    split
    · omega
    · exact ⟨_, rfl⟩

end Mailbox

namespace Envelope

variable {e : Envelope} {h : ItemHandle} {a : Allocator}

/-- The item that the holder of an envelope has to free. -/
def handle? (e : Envelope) : Option ItemHandle := e.owned?.bind (·.handle?)

theorem handle?_eq_some_iff :
    e.handle? = some h ↔ e.ownsPayload = true ∧ e.payload = .pooled h := by
  rw [handle?, owned?]
  cases e.ownsPayload
  · simp
  · cases hp : e.payload <;> simp [Payload.handle?]

theorem handle?_of_owning (ho : e.ownsPayload = true) : e.handle? = e.payload.handle? := by
  rw [handle?, owned?, ho]
  rfl

theorem handle?_of_borrowed (hb : e.ownsPayload = false) : e.handle? = none := by
  rw [handle?, owned?, hb]
  rfl

@[simp] theorem handle?_readdress (e : Envelope) (target : TaskId) :
    (e.readdress target).handle? = e.handle? := rfl

theorem release_of_none (hn : e.handle? = none) (a : Allocator) : e.release a = .ok a := by
  obtain ⟨kind, origin, destination, payload, owns⟩ := e
  cases owns
  · rfl
  · cases payload
    case pooled h => cases hn
    all_goals rfl

theorem release_of_some (hs : e.handle? = some h) (a : Allocator) :
    e.release a = a.free h e.kind.number := by
  obtain ⟨ho, hp⟩ := handle?_eq_some_iff.mp hs
  simp [release, owned?, ho, hp, Payload.release]

theorem fork_of_none (hn : e.handle? = none) (target : TaskId) (a : Allocator) :
    e.fork target a = (.ok (e.readdress target), a) := by
  obtain ⟨kind, origin, destination, payload, owns⟩ := e
  cases owns
  · rfl
  · cases payload
    case pooled h => cases hn
    all_goals rfl

/-- The fork of an envelope that owns an item: the copy owns a duplicate. -/
theorem fork_of_some (hs : e.handle? = some h) (target : TaskId) (a : Allocator) :
    e.fork target a = match a.duplicate h with
      | (.ok copy, b) => (.ok { e with destination := .task target, payload := .pooled copy }, b)
      | (.error err, b) => (.error err, b) := by
  obtain ⟨ho, hp⟩ := handle?_eq_some_iff.mp hs
  rw [fork, if_pos ho, hp, Payload.duplicate]
  rcases a.duplicate h with ⟨err | copy, b⟩
  · rfl
  · rfl

/-- What a copy carries instead of the original's item. -/
theorem handle?_copy (hs : e.handle? = some h) (d : Destination) (copy : ItemHandle) :
    handle? { e with destination := d, payload := .pooled copy } = some copy :=
  handle?_eq_some_iff.mpr ⟨(handle?_eq_some_iff.mp hs).1, rfl⟩

end Envelope

namespace TaskSystem

variable {s : TaskSystem} {e : Envelope} {target id : TaskId} {h : ItemHandle}

@[simp] theorem escalated_note (s : TaskSystem) (j : Journal) :
    (s.note j).escalated = s.escalated := rfl

/-! ## Accepting mailboxes -/

/-- A task whose mailbox is not full is registered under the identifier. -/
def accepts (s : TaskSystem) (id : TaskId) : Bool :=
  ((s.registry.find? id).map fun t ↦ decide (t.mailbox.length < t.mailbox.capacity)).getD false

theorem accepts_iff :
    s.accepts id = true ↔
      ∃ t, s.registry.find? id = some t ∧ t.mailbox.length < t.mailbox.capacity := by
  rw [accepts]
  cases s.registry.find? id with
  | none => simp
  | some t => simp

theorem accepts_congr {s' : TaskSystem} (h : s'.registry.find? id = s.registry.find? id) :
    s'.accepts id = s.accepts id := by
  rw [accepts, accepts, h]

/-! ## One recipient -/

@[simp] theorem allocator_tapDelivery (s : TaskSystem) (target : TaskId) (e : Envelope) :
    (s.tapDelivery target e).allocator = s.allocator := by
  rw [tapDelivery]
  split <;> rfl

@[simp] theorem registry_tapDelivery (s : TaskSystem) (target : TaskId) (e : Envelope) :
    (s.tapDelivery target e).registry = s.registry := by
  rw [tapDelivery]
  split <;> rfl

@[simp] theorem escalated_tapDelivery (s : TaskSystem) (target : TaskId) (e : Envelope) :
    (s.tapDelivery target e).escalated = s.escalated := by
  rw [tapDelivery]
  split <;> rfl

@[simp] theorem allocator_deliver (s : TaskSystem) (target : TaskId) (e : Envelope) :
    (s.deliver target e).2.allocator = s.allocator := by
  rw [deliver]
  dsimp only
  split
  · rfl
  · split
    · simp
    · rfl

@[simp] theorem escalated_deliver (s : TaskSystem) (target : TaskId) (e : Envelope) :
    (s.deliver target e).2.escalated = s.escalated := by
  rw [deliver]
  dsimp only
  split
  · rfl
  · split
    · simp
    · rfl

/-- A mailbox that is not full accepts the envelope, and no other mailbox changes. -/
theorem deliver_of_accepts (ha : s.accepts target = true) (e : Envelope) :
    ∃ t m, s.registry.find? target = some t ∧ t.mailbox.enqueue? e = some m ∧
      (s.deliver target e).1 = .ok () ∧
      (s.deliver target e).2.registry = s.registry.setMailbox target m := by
  obtain ⟨t, hf, hlt⟩ := accepts_iff.mp ha
  obtain ⟨m, hm⟩ := (Mailbox.exists_enqueue?_iff e).mpr hlt
  refine ⟨t, m, hf, hm, ?_, ?_⟩
  · simp [deliver, hf, hm]
  · simp [deliver, hf, hm]

/-- Otherwise the envelope comes back and every mailbox is as it was. -/
theorem deliver_of_not_accepts (ha : s.accepts target = false) (e : Envelope) :
    ∃ reason, (s.deliver target e).1 = .error ⟨reason, e⟩ ∧
      (s.deliver target e).2.registry = s.registry := by
  cases hf : s.registry.find? target with
  | none =>
    refine ⟨.unknownDestination, ?_, ?_⟩
    · simp [deliver, hf]
    · simp [deliver, hf]
  | some t =>
    cases hm : t.mailbox.enqueue? e with
    | some m =>
      have hlt := (Mailbox.exists_enqueue?_iff e).mp ⟨m, hm⟩
      rw [accepts_iff.mpr ⟨t, hf, hlt⟩] at ha
      cases ha
    | none =>
      refine ⟨.mailboxFull t.mailbox.capacity, ?_, ?_⟩
      · simp [deliver, hf, hm]
      · simp [deliver, hf, hm]

/-! ## Releasing what was not delivered -/

@[simp] theorem allocator_escalate (s : TaskSystem) (err : TaskError) :
    (s.escalate err).allocator = s.allocator := by
  rw [escalate]
  split <;> rfl

@[simp] theorem registry_escalate (s : TaskSystem) (err : TaskError) :
    (s.escalate err).registry = s.registry := by
  rw [escalate]
  split <;> rfl

@[simp] theorem registry_releaseEnvelope (s : TaskSystem) (e : Envelope) :
    (s.releaseEnvelope e).2.registry = s.registry := by
  rw [releaseEnvelope]
  split
  · rfl
  · simp

theorem releaseEnvelope_of_ok {a : Allocator} (hr : e.release s.allocator = .ok a) :
    (s.releaseEnvelope e).1 = .ok () ∧ (s.releaseEnvelope e).2.allocator = a ∧
      (s.releaseEnvelope e).2.escalated = s.escalated := by
  rw [releaseEnvelope, hr]
  exact ⟨rfl, rfl, rfl⟩

theorem releaseEnvelope_of_error {err : PoolError} (hr : e.release s.allocator = .error err) :
    (s.releaseEnvelope e).1 = .error (.pool err) ∧
      (s.releaseEnvelope e).2.allocator = s.allocator := by
  rw [releaseEnvelope, hr]
  exact ⟨rfl, by simp⟩

@[simp] theorem registry_discard (s : TaskSystem) (e : Envelope) :
    (s.discard e).registry = s.registry := by
  rw [← registry_releaseEnvelope s e, discard]
  rcases s.releaseEnvelope e with ⟨err | _, s'⟩
  · rfl
  · rfl

theorem allocator_discard (s : TaskSystem) (e : Envelope) :
    (s.discard e).allocator = (s.releaseEnvelope e).2.allocator := by
  rw [discard]
  rcases s.releaseEnvelope e with ⟨err | _, s'⟩
  · rfl
  · rfl

theorem escalated_discard (s : TaskSystem) (e : Envelope) :
    (s.discard e).escalated = (s.releaseEnvelope e).2.escalated := by
  rw [discard]
  rcases s.releaseEnvelope e with ⟨err | _, s'⟩
  · rfl
  · rfl

/-- What an envelope owns is free once the envelope is released. -/
theorem loses_of_discard (wf : s.allocator.WellFormed) (hs : e.handle? = some h)
    (hl : s.allocator.Live h) : s.allocator.Loses (s.discard e).allocator h := by
  obtain ⟨a, ha⟩ := (Allocator.exists_free_iff e.kind.number).mpr hl
  have hr := (Envelope.release_of_some hs s.allocator).trans ha
  rw [allocator_discard, (releaseEnvelope_of_ok hr).2.1]
  exact Allocator.loses_of_free wf ha

/-- Releasing an envelope without a live item leaves the pools alone. -/
theorem allocator_discard_of_not_live
    (hdead : ∀ h, e.handle? = some h → ¬ s.allocator.Live h) :
    (s.discard e).allocator = s.allocator := by
  rw [allocator_discard]
  cases hr : e.release s.allocator with
  | error err => exact (releaseEnvelope_of_error hr).2
  | ok a =>
    rw [(releaseEnvelope_of_ok hr).2.1]
    cases hs : e.handle? with
    | none =>
      rw [Envelope.release_of_none hs] at hr
      cases hr
      rfl
    | some h =>
      rw [Envelope.release_of_some hs] at hr
      exact absurd ((Allocator.exists_free_iff _).mp ⟨a, hr⟩) (hdead h hs)

/-! ## Well-formed systems -/

/-- What every operation keeps. -/
structure WellFormed (s : TaskSystem) : Prop where
  allocator : s.allocator.WellFormed
  registry : s.registry.WellFormed

theorem ids_deliver (s : TaskSystem) (target : TaskId) (e : Envelope) :
    (s.deliver target e).2.registry.ids = s.registry.ids := by
  cases ha : s.accepts target with
  | true =>
    obtain ⟨t, m, -, -, -, hr⟩ := deliver_of_accepts ha e
    rw [hr, Registry.ids_setMailbox]
  | false =>
    obtain ⟨reason, -, hr⟩ := deliver_of_not_accepts ha e
    rw [hr]

namespace WellFormed

theorem of_ids (wf : s.WellFormed) {s' : TaskSystem} (ha : s'.allocator.WellFormed)
    (hr : s'.registry.ids = s.registry.ids) : s'.WellFormed :=
  ⟨ha, wf.registry.of_ids hr⟩

theorem deliver (wf : s.WellFormed) (target : TaskId) (e : Envelope) :
    (s.deliver target e).2.WellFormed :=
  wf.of_ids (by rw [allocator_deliver]; exact wf.allocator) (ids_deliver s target e)

theorem releaseEnvelope (wf : s.WellFormed) (e : Envelope) :
    (s.releaseEnvelope e).2.WellFormed := by
  refine wf.of_ids ?_ (by rw [registry_releaseEnvelope])
  cases hr : e.release s.allocator with
  | error err =>
    rw [(releaseEnvelope_of_error hr).2]
    exact wf.allocator
  | ok a =>
    rw [(releaseEnvelope_of_ok hr).2.1]
    cases hs : e.handle? with
    | none =>
      rw [Envelope.release_of_none hs] at hr
      cases hr
      exact wf.allocator
    | some h =>
      rw [Envelope.release_of_some hs] at hr
      exact (Allocator.loses_of_free wf.allocator hr).wellFormed

theorem discard (wf : s.WellFormed) (e : Envelope) : (s.discard e).WellFormed := by
  refine wf.of_ids ?_ (by rw [registry_discard])
  rw [allocator_discard]
  exact (wf.releaseEnvelope e).allocator

theorem deliverOrDiscard (wf : s.WellFormed) (target : TaskId) (e : Envelope) :
    (s.deliverOrDiscard target e).2.WellFormed := by
  have hd := wf.deliver target e
  rw [TaskSystem.deliverOrDiscard]
  rcases hr : s.deliver target e with ⟨err | _, s'⟩
  · rw [hr] at hd
    exact hd.discard err.envelope
  · rw [hr] at hd
    exact hd

/-- The pools behind a fork, whether it could be made or not. -/
theorem fork (wf : s.WellFormed) (target : TaskId) (e : Envelope) :
    (e.fork target s.allocator).2.WellFormed := by
  cases hs : e.handle? with
  | none =>
    rw [Envelope.fork_of_none hs]
    exact wf.allocator
  | some h =>
    have hd := wf.allocator.duplicate h
    rw [Envelope.fork_of_some hs]
    rcases hr : s.allocator.duplicate h with ⟨err | copy, b⟩
    · rw [hr] at hd
      exact hd
    · rw [hr] at hd
      exact hd

theorem deliverFork (wf : s.WellFormed) (e : Envelope) (target : TaskId) :
    (s.deliverFork e target).2.WellFormed := by
  have hf := wf.fork target e
  rw [TaskSystem.deliverFork]
  rcases hr : e.fork target s.allocator with ⟨err | copy, b⟩
  · rw [hr] at hf
    exact ⟨hf, wf.registry⟩
  · rw [hr] at hf
    have hc : ({ s with allocator := b }.note (e.forkNotes s.allocator)).WellFormed :=
      ⟨hf, wf.registry⟩
    exact hc.deliverOrDiscard target copy

theorem deliverAll (wf : s.WellFormed) (e : Envelope) (targets : List TaskId) :
    (s.deliverAll e targets).2.WellFormed := by
  induction targets generalizing s with
  | nil => exact wf
  | cons target rest ih =>
    cases rest with
    | nil => exact wf.deliverOrDiscard target (e.readdress target)
    | cons next rest => exact ih (wf.deliverFork e target)

theorem broadcast (wf : s.WellFormed) (e : Envelope) : (s.broadcast e).2.WellFormed := by
  rw [TaskSystem.broadcast]
  split
  · have hd := discard (s := s.note [noteNoRecipients e]) ⟨wf.allocator, wf.registry⟩ e
    exact ⟨hd.allocator, hd.registry⟩
  · have hd := wf.deliverAll e (s.recipients e.origin)
    exact ⟨hd.allocator, hd.registry⟩

end WellFormed

end TaskSystem

end TaskMessaging
