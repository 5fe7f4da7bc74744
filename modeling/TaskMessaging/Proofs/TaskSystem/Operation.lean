import TaskMessaging.Proofs.TaskSystem.Delivery

/-!
# Operations on the system

Everything that a client can ask of the system is one of a few operations, and `perform` answers it.
A system is *reachable* if operations lead to it, in any number and any order, from a system just
built.
-/

namespace TaskMessaging

/-- Something that a client asks of the system. The pools are open to every client, so an operation
on them is an operation on the system. -/
inductive Operation where
  | register (id : TaskId) (name : String)
  | spawn (id : TaskId) (name : String)
  | unregister (id : TaskId)
  | lookup (id : TaskId)
  /-- The body of a task ended in a panic. -/
  | recordPanic (id : TaskId)
  | waitTasksEnd (current : Option TaskId)
  | allocate (size : Nat) (tags : Tags)
  | free (h : ItemHandle) (releaseTag : UInt16)
  | duplicate (h : ItemHandle)
  | read (h : ItemHandle)
  | write (h : ItemHandle) (offset : Nat) (bytes : List UInt8)
  | update (h : ItemHandle) (change : Nat → UInt8 → UInt8)
  | setInfo (h : ItemHandle) (index : Nat) (value : UInt16)
  | releasePayload (kind : MessageKind) (p : Payload)
  | releaseEnvelope (e : Envelope)
  | send (e : Envelope)
  | broadcast (e : Envelope)
  | terminateTasks (origin : TaskId)
  | tryReceive (id : TaskId)
  | requestShutdown
  | drainTap
  /-- Entries that a client adds to the journal. -/
  | report (entries : Journal)

/-- What a client is told about an operation. -/
inductive Answer where
  | done
  | task (t : Task)
  | unregistered (t : Option Task)
  | panicked (count : Nat)
  | item (h : ItemHandle)
  | bytes (content : List UInt8)
  | received (e : Option Envelope)
  | delivered (r : BroadcastReport)
  | records (r : Option (List MessageRecord))
  | refused (e : TaskError)
  | returned (e : SendError)

namespace Answer

/-- The answer to an operation that may be refused. -/
def ofResult {α : Type} (f : α → Answer) : Except TaskError α → Answer
  | .ok x => f x
  | .error e => .refused e

/-- The answer to an operation that hands back what it could not deliver. -/
def ofSend : Except SendError Unit → Answer
  | .ok _ => .done
  | .error e => .returned e

/-- The error of the pools that an answer reports. -/
def poolError? : Answer → Option PoolError
  | .refused (.pool e) => some e
  | _ => none

end Answer

namespace TaskSystem

variable {s s' : TaskSystem} {a : Allocator}

/-! ## Performing an operation -/

/-- An access to an item, given what the pools make of it. -/
def access (s : TaskSystem) (h : ItemHandle) : Except PoolError Allocator → Answer × TaskSystem
  | .ok a => (.done, { s with allocator := a }.note (s.allocator.accessNotes h))
  | .error e => (.refused (.pool e), s.note (s.allocator.accessNotes h))

/-- Reads an item. -/
def readItem (s : TaskSystem) (h : ItemHandle) : Answer × TaskSystem :=
  (.ofResult .bytes ((s.allocator.read h).mapError .pool), s.note (s.allocator.accessNotes h))

/-- Copies an item. -/
def duplicateItem (s : TaskSystem) (h : ItemHandle) : Answer × TaskSystem :=
  (.ofResult .item ((s.allocator.duplicate h).1.mapError .pool),
    { s with allocator := (s.allocator.duplicate h).2 }.note (s.allocator.duplicateNotes h))

/-- Releases a payload that was taken out of its envelope. -/
def releasePayload (s : TaskSystem) (kind : MessageKind) (p : Payload) : Answer × TaskSystem :=
  match p.release s.allocator kind with
  | .ok a => (.done, { s with allocator := a }.note (p.releaseNotes s.allocator kind))
  | .error e => (.refused (.pool e), s.note (p.releaseNotes s.allocator kind))

/-- Performs an operation. -/
def perform (s : TaskSystem) : Operation → Answer × TaskSystem
  | .register id name => (.ofResult .task (s.registerTask id name).1, (s.registerTask id name).2)
  | .spawn id name =>
    (.ofResult (fun _ ↦ .done) (s.spawnTask id name).1, (s.spawnTask id name).2)
  | .unregister id => (.unregistered (s.unregisterTask id).1, (s.unregisterTask id).2)
  | .lookup id => (.ofResult .task (s.lookup id).1, (s.lookup id).2)
  | .recordPanic id => (.done, s.recordPanic id)
  | .waitTasksEnd current => (.panicked (s.waitTasksEnd current).1, (s.waitTasksEnd current).2)
  | .allocate size tags => (.ofResult .item (s.allocate size tags).1, (s.allocate size tags).2)
  | .free h releaseTag =>
    (.ofResult (fun _ ↦ .done) (s.free h releaseTag).1, (s.free h releaseTag).2)
  | .duplicate h => s.duplicateItem h
  | .read h => s.readItem h
  | .write h offset bytes => s.access h (s.allocator.write h offset bytes)
  | .update h change => s.access h (s.allocator.update h change)
  | .setInfo h index value => s.access h (s.allocator.setInfo h index value)
  | .releasePayload kind p => s.releasePayload kind p
  | .releaseEnvelope e =>
    (.ofResult (fun _ ↦ .done) (s.releaseEnvelope e).1, (s.releaseEnvelope e).2)
  | .send e => (.ofSend (s.send e).1, (s.send e).2)
  | .broadcast e => (.delivered (s.broadcast e).1, (s.broadcast e).2)
  | .terminateTasks origin =>
    (.delivered (s.terminateTasks origin).1, (s.terminateTasks origin).2)
  | .tryReceive id => (.ofResult .received (s.tryReceive id).1, (s.tryReceive id).2)
  | .requestShutdown => (.done, s.requestShutdown)
  | .drainTap => (.records s.drainTap.1, s.drainTap.2)
  | .report entries => (.done, s.note entries)

/-! ## Operations keep a system well-formed -/

theorem WellFormed.registerTask (wf : s.WellFormed) (id : TaskId) (name : String) :
    (s.registerTask id name).2.WellFormed := by
  rw [TaskSystem.registerTask]
  split
  · next t r hr => exact ⟨wf.allocator, wf.registry.register hr⟩
  · exact wf.of_ids (by rw [allocator_escalate]; exact wf.allocator) (by rw [registry_escalate])

theorem WellFormed.unregisterTask (wf : s.WellFormed) (id : TaskId) :
    (s.unregisterTask id).2.WellFormed := by
  have hu := wf.registry.unregister id
  rw [TaskSystem.unregisterTask]
  split
  · next t r hr =>
    rw [hr] at hu
    exact ⟨wf.allocator, hu⟩
  · exact wf

theorem WellFormed.spawnTask (wf : s.WellFormed) (id : TaskId) (name : String) :
    (s.spawnTask id name).2.WellFormed := by
  have hr := wf.registerTask id name
  rw [TaskSystem.spawnTask]
  split
  · next e s₁ hs =>
    rw [hs] at hr
    exact hr
  · next t s₁ hs =>
    rw [hs] at hr
    exact hr.of_ids hr.allocator (Registry.ids_setThread _)

theorem WellFormed.joinThreads (wf : s.WellFormed) (current : Option TaskId) (tasks : List Task) :
    (s.joinThreads current tasks).2.WellFormed := by
  induction tasks generalizing s with
  | nil => exact wf
  | cons t ts ih =>
    have hset : { s with registry := s.registry.setThread t.id none }.WellFormed :=
      wf.of_ids wf.allocator (Registry.ids_setThread none)
    rw [TaskSystem.joinThreads]
    split
    · exact ih wf
    · split
      · exact ih ⟨wf.allocator, wf.registry⟩
      · split
        · exact ih (s := { s with registry := s.registry.setThread t.id none }.note _)
            ⟨hset.allocator, hset.registry⟩
        · exact ih hset

theorem WellFormed.allocate (wf : s.WellFormed) (size : Nat) (tags : Tags) :
    (s.allocate size tags).2.WellFormed := by
  have ha := wf.allocator.allocate size tags
  rw [TaskSystem.allocate]
  split
  all_goals
    next hr =>
      rw [hr] at ha
      exact ⟨ha, wf.registry⟩

theorem WellFormed.free (wf : s.WellFormed) (h : ItemHandle) (releaseTag : UInt16) :
    (s.free h releaseTag).2.WellFormed := by
  rw [TaskSystem.free]
  split
  · next a ha => exact ⟨(Allocator.loses_of_free wf.allocator ha).wellFormed, wf.registry⟩
  · exact wf.of_ids (by rw [allocator_escalate]; exact wf.allocator)
      (by rw [registry_escalate]; rfl)

theorem WellFormed.access (wf : s.WellFormed) (h : ItemHandle) {result : Except PoolError Allocator}
    (hr : ∀ a, result = .ok a → s.allocator.Keeps a) : (s.access h result).2.WellFormed := by
  cases result with
  | error e => exact ⟨wf.allocator, wf.registry⟩
  | ok a => exact ⟨(hr a rfl).wellFormed, wf.registry⟩

theorem WellFormed.releasePayload (wf : s.WellFormed) (kind : MessageKind) (p : Payload) :
    (s.releasePayload kind p).2.WellFormed := by
  rw [TaskSystem.releasePayload]
  split
  · next a ha =>
    cases p
    case pooled h => exact ⟨(Allocator.loses_of_free wf.allocator ha).wellFormed, wf.registry⟩
    all_goals
      cases ha
      exact ⟨wf.allocator, wf.registry⟩
  · exact ⟨wf.allocator, wf.registry⟩

theorem WellFormed.send (wf : s.WellFormed) (e : Envelope) : (s.send e).2.WellFormed := by
  rw [TaskSystem.send]
  split
  · exact wf.deliver _ e
  · exact ⟨wf.allocator, wf.registry⟩

theorem WellFormed.terminateTasks (wf : s.WellFormed) (origin : TaskId) :
    (s.terminateTasks origin).2.WellFormed := by
  have ht : ({ s with terminating := true }.note [noteTerminating origin]).WellFormed :=
    ⟨wf.allocator, wf.registry⟩
  exact ht.broadcast (.owning .terminate origin .broadcast .empty)

theorem WellFormed.tryReceive (wf : s.WellFormed) (id : TaskId) :
    (s.tryReceive id).2.WellFormed := by
  rw [TaskSystem.tryReceive, TaskSystem.lookup]
  cases s.registry.find? id with
  | none => exact ⟨wf.allocator, wf.registry⟩
  | some t =>
    dsimp only
    cases t.mailbox.dequeue? with
    | none => exact wf
    | some r => exact wf.of_ids wf.allocator (Registry.ids_setMailbox _)

/-- Every operation keeps the system well-formed. -/
theorem WellFormed.perform (wf : s.WellFormed) (op : Operation) :
    (s.perform op).2.WellFormed := by
  cases op with
  | register id name => exact wf.registerTask id name
  | spawn id name => exact wf.spawnTask id name
  | unregister id => exact wf.unregisterTask id
  | lookup id =>
    change (s.lookup id).2.WellFormed
    rw [TaskSystem.lookup]
    split
    · exact wf
    · exact ⟨wf.allocator, wf.registry⟩
  | recordPanic id => exact wf.of_ids wf.allocator (Registry.ids_update fun _ ↦ rfl)
  | waitTasksEnd current =>
    have hj := wf.joinThreads current s.registry.tasks
    exact ⟨hj.allocator, hj.registry⟩
  | allocate size tags => exact wf.allocate size tags
  | free h releaseTag => exact wf.free h releaseTag
  | duplicate h => exact ⟨wf.allocator.duplicate h, wf.registry⟩
  | read h => exact ⟨wf.allocator, wf.registry⟩
  | write h offset bytes => exact wf.access h fun a ↦ Allocator.keeps_of_write wf.allocator
  | update h change => exact wf.access h fun a ↦ Allocator.keeps_of_update wf.allocator
  | setInfo h index value => exact wf.access h fun a ↦ Allocator.keeps_of_setInfo wf.allocator
  | releasePayload kind p => exact wf.releasePayload kind p
  | releaseEnvelope e => exact wf.releaseEnvelope e
  | send e => exact wf.send e
  | broadcast e => exact wf.broadcast e
  | terminateTasks origin => exact wf.terminateTasks origin
  | tryReceive id => exact wf.tryReceive id
  | requestShutdown =>
    change s.requestShutdown.WellFormed
    rw [TaskSystem.requestShutdown]
    split
    · exact wf
    · exact ⟨wf.allocator, wf.registry⟩
  | drainTap => exact ⟨wf.allocator, wf.registry⟩
  | report entries => exact ⟨wf.allocator, wf.registry⟩

/-! ## Reachable systems -/

theorem build_eq_ok {settings : Settings} (h : build a settings = .ok s) :
    s.allocator = a ∧ s.registry = .create settings.mailboxCapacity ∧ s.escalated = [] := by
  rw [build] at h
  split at h
  · cases h
  · cases h
    exact ⟨rfl, rfl, rfl⟩

/-- The systems that operations lead to. -/
inductive Reachable : TaskSystem → Prop where
  | build {a : Allocator} {settings : Settings} {s : TaskSystem} :
      a.Reachable → TaskSystem.build a settings = .ok s → Reachable s
  | perform {s : TaskSystem} (op : Operation) : Reachable s → Reachable (s.perform op).2

/-- The system behind a sequence of operations. -/
def run (s : TaskSystem) (ops : List Operation) : TaskSystem :=
  ops.foldl (fun s op ↦ (s.perform op).2) s

theorem Reachable.run (r : s.Reachable) (ops : List Operation) : (s.run ops).Reachable := by
  induction ops generalizing s with
  | nil => exact r
  | cons op ops ih => exact ih (r.perform op)

theorem Reachable.wellFormed (r : s.Reachable) : s.WellFormed := by
  induction r with
  | build ha hs =>
    obtain ⟨hall, hreg, -⟩ := build_eq_ok hs
    exact ⟨hall ▸ ha.wellFormed, hreg ▸ Registry.wellFormed_create _⟩
  | perform op _ ih => exact ih.perform op

end TaskSystem

end TaskMessaging
