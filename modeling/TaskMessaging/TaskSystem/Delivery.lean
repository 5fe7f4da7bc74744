import TaskMessaging.TaskSystem.Basic

/-!
# Delivery

An envelope for one task goes to the end of that task's mailbox, or comes back to its sender. A
broadcast goes to every registered task but its origin, in ascending order: the last recipient
gets the envelope itself and the others get forks of it. A fork that cannot be made and a mailbox
that is full are counted, and never stop the broadcast; what was not delivered is released.
-/

namespace TaskMessaging

/-- How many recipients a broadcast reached, and how many it missed. -/
structure BroadcastReport where
  delivered : Nat
  failed : Nat
deriving DecidableEq

namespace BroadcastReport

def none : BroadcastReport := ⟨0, 0⟩

def isComplete (r : BroadcastReport) : Bool := r.failed == 0

/-- The report of two sets of recipients together. -/
def add (r q : BroadcastReport) : BroadcastReport :=
  ⟨r.delivered + q.delivered, r.failed + q.failed⟩

end BroadcastReport

namespace TaskSystem

/-! ## Journal entries -/

def noteDelivered (s : TaskSystem) (e : Envelope) (target : TaskId) : Log.Entry :=
  ⟨.debug, speaker, "Envelope delivered",
    [("origin", .text e.origin.text), ("target", .text target.text),
      ("kind", .text (s.catalog.name e.kind))]⟩

def noteUnknownTarget (e : Envelope) (target : TaskId) : Log.Entry :=
  ⟨.warn, speaker, "Send to unknown task",
    [("origin", .text e.origin.text), ("target", .text target.text), ("kind", .text e.kind.text)]⟩

def noteMailboxFull (e : Envelope) (t : Task) : Log.Entry :=
  ⟨.warn, speaker, "Mailbox full",
    [("origin", .text e.origin.text), ("target", .text t.id.text), ("task_name", .text t.name),
      ("kind", .text e.kind.text)]⟩

def noteNoRecipients (e : Envelope) : Log.Entry :=
  ⟨.debug, speaker, "Broadcast without recipients",
    [("origin", .text e.origin.text), ("kind", .text e.kind.text)]⟩

def noteCopyFailed (e : Envelope) (target : TaskId) (err : PoolError) : Log.Entry :=
  ⟨.warn, speaker, "Broadcast copy failed",
    [("origin", .text e.origin.text), ("target", .text target.text), ("kind", .text e.kind.text),
      ("error", .text err.message)]⟩

def noteBroadcast (e : Envelope) (r : BroadcastReport) : Log.Entry :=
  ⟨.debug, speaker, "Broadcast complete",
    [("origin", .text e.origin.text), ("kind", .text e.kind.text),
      ("delivered", .nat r.delivered), ("failed", .nat r.failed)]⟩

def noteNotReleased (err : TaskError) : Log.Entry :=
  ⟨.error, speaker, "Failed to release undelivered envelope", [("error", .text err.message)]⟩

def noteTerminating (origin : TaskId) : Log.Entry :=
  ⟨.info, speaker, "Terminating all tasks", [("origin", .text origin.text)]⟩

/-! ## One recipient -/

/-- The record of a delivery, with the payload as it is at that moment. -/
def recordOf (s : TaskSystem) (target : TaskId) (e : Envelope) : MessageRecord where
  sequence := s.sequence.next
  kind := e.kind
  kindName := s.catalog.name e.kind
  origin := e.origin
  destination := .task target
  payloadLength := UInt64.ofNat (e.payload.length s.allocator)
  timestamp := 0

/-- Tells the tap about a delivery. Only deliveries take a number, so the numbers have no gaps. -/
def tapDelivery (s : TaskSystem) (target : TaskId) (e : Envelope) : TaskSystem :=
  match s.tap with
  | none => s
  | some records =>
    { s with tap := some (records ++ [s.recordOf target e]), sequence := s.sequence.take.2 }

/-- The tap asks for the length of the payload before the envelope is enqueued. -/
def tapNotes (s : TaskSystem) (e : Envelope) : Journal :=
  if s.tap.isSome then e.payload.lengthNotes s.allocator else []

/-- Enqueues an envelope for one task, or hands it back. -/
def deliver (s : TaskSystem) (target : TaskId) (e : Envelope) :
    Except SendError Unit × TaskSystem :=
  let s := { s with metrics := s.metrics.recordSendAttempt }
  match s.registry.find? target with
  | none =>
    (.error ⟨.unknownDestination, e⟩,
      { s with metrics := s.metrics.recordUnknownDestination }.note [noteUnknownTarget e target])
  | some t =>
    let s := s.note (s.tapNotes e)
    match t.mailbox.enqueue? e with
    | some m =>
      let s := { s with
        registry := s.registry.setMailbox target m
        metrics := s.metrics.recordDelivered (e.kind == MessageKind.timerExpired) }
      (.ok (), (s.note [s.noteDelivered e target]).tapDelivery target e)
    | none =>
      (.error ⟨.mailboxFull t.mailbox.capacity, e⟩,
        { s with metrics := s.metrics.recordMailboxFull }.note [noteMailboxFull e t])

/-- Sends an envelope to the one task that it addresses. -/
def send (s : TaskSystem) (e : Envelope) : Except SendError Unit × TaskSystem :=
  match e.destination with
  | .task target => s.deliver target e
  | .broadcast =>
    (.error ⟨.broadcastAddress, e⟩, { s with metrics := s.metrics.recordSendAttempt })

/-! ## All recipients -/

/-- Releases an envelope that the core itself could not deliver. -/
def discard (s : TaskSystem) (e : Envelope) : TaskSystem :=
  match s.releaseEnvelope e with
  | (.ok _, s) => s
  | (.error err, s) => s.note [noteNotReleased err]

/-- Delivers an envelope as part of a broadcast. -/
def deliverOrDiscard (s : TaskSystem) (target : TaskId) (e : Envelope) :
    BroadcastReport × TaskSystem :=
  match s.deliver target e with
  | (.ok _, s) => (⟨1, 0⟩, s)
  | (.error err, s) => (⟨0, 1⟩, s.discard err.envelope)

/-- Delivers a fork of an envelope as part of a broadcast. -/
def deliverFork (s : TaskSystem) (e : Envelope) (target : TaskId) :
    BroadcastReport × TaskSystem :=
  let notes := e.forkNotes s.allocator
  match e.fork target s.allocator with
  | (.ok copy, a) => ({ s with allocator := a }.note notes).deliverOrDiscard target copy
  | (.error err, a) =>
    (⟨0, 1⟩, { s with allocator := a }.note (notes ++ [noteCopyFailed e target err]))

/-- Delivers an envelope to several tasks: forks to all but the last. -/
def deliverAll (s : TaskSystem) (e : Envelope) : List TaskId → BroadcastReport × TaskSystem
  | [] => (.none, s)
  | [last] => s.deliverOrDiscard last (e.readdress last)
  | target :: next :: rest =>
    let (r, s) := s.deliverFork e target
    let (q, s) := s.deliverAll e (next :: rest)
    (r.add q, s)

/-- Who receives a broadcast. -/
def recipients (s : TaskSystem) (origin : TaskId) : List TaskId :=
  s.registry.ids.filter fun id ↦ id ≠ origin

/-- Delivers an envelope to every registered task but its origin. The envelope is used up. -/
def broadcast (s : TaskSystem) (e : Envelope) : BroadcastReport × TaskSystem :=
  match s.recipients e.origin with
  | [] =>
    let s := (s.note [noteNoRecipients e]).discard e
    (.none, { s with metrics := s.metrics.recordBroadcast 0 })
  | targets =>
    let (r, s) := s.deliverAll e targets
    (r, { s with metrics := s.metrics.recordBroadcast r.failed }.note [noteBroadcast e r])

/-- Raises the termination flag and asks every task to leave its loop. -/
def terminateTasks (s : TaskSystem) (origin : TaskId) : BroadcastReport × TaskSystem :=
  let s := { s with terminating := true }.note [noteTerminating origin]
  s.broadcast (.owning .terminate origin .broadcast .empty)

/-! ## Receiving -/

/-- Takes the oldest envelope of a task's mailbox, if there is one. -/
def tryReceive (s : TaskSystem) (id : TaskId) : Except TaskError (Option Envelope) × TaskSystem :=
  match s.lookup id with
  | (.error e, s) => (.error e, s)
  | (.ok t, s) =>
    match t.mailbox.dequeue? with
    | none => (.ok none, s)
    | some (e, m) => (.ok (some e), { s with registry := s.registry.setMailbox id m })

/-- The records of the deliveries since the last time they were asked for. -/
def drainTap (s : TaskSystem) : Option (List MessageRecord) × TaskSystem :=
  (s.tap, { s with tap := s.tap.map fun _ ↦ [] })

/-! ## Laws -/

@[simp] theorem allocator_note (s : TaskSystem) (j : Journal) :
    (s.note j).allocator = s.allocator := rfl

@[simp] theorem registry_note (s : TaskSystem) (j : Journal) :
    (s.note j).registry = s.registry := rfl

/-- Sending to all tasks is the business of a broadcast alone. -/
theorem send_broadcast (s : TaskSystem) {e : Envelope} (h : e.destination = .broadcast) :
    (s.send e).1 = .error ⟨.broadcastAddress, e⟩ := by
  simp [send, h]

/-- Every recipient is counted once. -/
theorem delivered_add_failed_deliverAll (s : TaskSystem) (e : Envelope) (targets : List TaskId) :
    (s.deliverAll e targets).1.delivered + (s.deliverAll e targets).1.failed = targets.length := by
  have one (s : TaskSystem) (t : TaskId) (e : Envelope) :
      (s.deliverOrDiscard t e).1.delivered + (s.deliverOrDiscard t e).1.failed = 1 := by
    unfold deliverOrDiscard
    split <;> rfl
  have fork (s : TaskSystem) (t : TaskId) :
      (s.deliverFork e t).1.delivered + (s.deliverFork e t).1.failed = 1 := by
    unfold deliverFork
    dsimp only
    split
    · exact one _ _ _
    · rfl
  induction targets generalizing s with
  | nil => rfl
  | cons t ts ih =>
    cases ts with
    | nil => exact one _ _ _
    | cons u us =>
      have h₁ := fork s t
      have h₂ := ih (s.deliverFork e t).2
      simp only [deliverAll, BroadcastReport.add, List.length_cons] at h₂ ⊢
      omega

end TaskSystem

end TaskMessaging
