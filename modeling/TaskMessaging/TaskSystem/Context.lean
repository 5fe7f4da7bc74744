import TaskMessaging.TaskSystem.Threads

/-!
# Task contexts

The view that one task has of the system: every envelope that it makes carries the task as its
origin, and it receives from its own mailbox only.
-/

namespace TaskMessaging

/-- A task's own access to the system. -/
structure TaskContext where
  id : TaskId
deriving DecidableEq

namespace TaskSystem

/-- The context of a registered task. -/
def context (s : TaskSystem) (id : TaskId) : Except TaskError TaskContext × TaskSystem :=
  match s.lookup id with
  | (.ok _, s) => (.ok ⟨id⟩, s)
  | (.error e, s) => (.error e, s)

end TaskSystem

namespace TaskContext

def text (c : TaskContext) : String := "TaskContext \x7b id: " ++ c.id.text ++ " \x7d"

/-- Sends a payload to one task; the envelope owns it. -/
def send (c : TaskContext) (s : TaskSystem) (target : TaskId) (kind : MessageKind)
    (payload : Payload) : Except SendError Unit × TaskSystem :=
  s.send (.owning kind c.id (.task target) payload)

/-- Sends a payload to every other task. -/
def broadcast (c : TaskContext) (s : TaskSystem) (kind : MessageKind) (payload : Payload) :
    BroadcastReport × TaskSystem :=
  s.broadcast (.owning kind c.id .broadcast payload)

/-- Takes the oldest envelope of the task's own mailbox. -/
def tryReceive (c : TaskContext) (s : TaskSystem) :
    Except TaskError (Option Envelope) × TaskSystem :=
  s.tryReceive c.id

end TaskContext

end TaskMessaging
