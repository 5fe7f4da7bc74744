import TaskMessaging.Log
import TaskMessaging.Task.Mailbox
import TaskMessaging.Text.Quoted

/-!
# The task registry

Registered tasks in ascending order of their identifiers, each with a name, a mailbox and, once
started, a thread. An identifier is registered at most once, and the core never is.
-/

namespace TaskMessaging

/-- The thread of a task that was started; how it ended is seen by whoever waits for it. -/
structure TaskThread where
  panicked : Bool
deriving DecidableEq

/-- A registered task. -/
structure Task where
  id : TaskId
  name : String
  mailbox : Mailbox
  thread : Option TaskThread
deriving DecidableEq

namespace Task

/-- The task as shown in diagnostics. -/
def text (t : Task) : String :=
  "TaskDescriptor \x7b id: " ++ t.id.text ++ ", name: " ++ Text.quoted t.name ++ ", queued: " ++
    Decimal.text t.mailbox.length ++ " \x7d"

end Task

/-- The registered tasks. -/
structure Registry where
  tasks : List Task
  /-- The capacity of the mailbox that a new task gets. -/
  mailboxCapacity : Nat
deriving DecidableEq

namespace Registry

def create (mailboxCapacity : Nat) : Registry := ⟨[], mailboxCapacity⟩

def find? (r : Registry) (id : TaskId) : Option Task := r.tasks.find? fun t ↦ t.id = id

def contains (r : Registry) (id : TaskId) : Bool := (r.find? id).isSome

def ids (r : Registry) : List TaskId := r.tasks.map (·.id)

def size (r : Registry) : Nat := r.tasks.length

def isEmpty (r : Registry) : Bool := r.tasks.isEmpty

/-- Puts a task where its identifier belongs. -/
def insertTask (t : Task) : List Task → List Task
  | [] => [t]
  | u :: us => if t.id.number < u.id.number then t :: u :: us else u :: insertTask t us

/-- Registers a task with a fresh mailbox. -/
def register (r : Registry) (id : TaskId) (name : String) : Except TaskError (Task × Registry) :=
  if id = .core then .error (.reservedTask id)
  else if r.contains id then .error (.duplicateTask id)
  else
    let t : Task := ⟨id, name, .create r.mailboxCapacity, none⟩
    .ok (t, { r with tasks := insertTask t r.tasks })

/-- Removes a registration; what still waits in the mailbox goes with it. -/
def unregister (r : Registry) (id : TaskId) : Option Task × Registry :=
  (r.find? id, { r with tasks := r.tasks.filter fun t ↦ t.id ≠ id })

/-- Changes one task. -/
def update (r : Registry) (id : TaskId) (change : Task → Task) : Registry :=
  { r with tasks := r.tasks.map fun t ↦ if t.id = id then change t else t }

def setMailbox (r : Registry) (id : TaskId) (m : Mailbox) : Registry :=
  r.update id fun t ↦ { t with mailbox := m }

def setThread (r : Registry) (id : TaskId) (thread : Option TaskThread) : Registry :=
  r.update id fun t ↦ { t with thread := thread }

/-! ## Journal entries -/

/-- The name under which the registry speaks. -/
def speaker : String := "actors::registry"

def noteRegistered (t : Task) : Log.Entry :=
  ⟨.info, speaker, "Task registered",
    [("task_id", .text t.id.text), ("task_name", .text t.name),
      ("mailbox_capacity", .nat t.mailbox.capacity)]⟩

def noteUnregistered (t : Task) : Log.Entry :=
  ⟨.info, speaker, "Task unregistered", [("task_id", .text t.id.text), ("task_name", .text t.name)]⟩

def noteUnknown (id : TaskId) : Log.Entry :=
  ⟨.debug, speaker, "Lookup of unregistered task", [("task_id", .text id.text)]⟩

/-! ## Laws -/

theorem find?_eq_some {r : Registry} {id : TaskId} {t : Task} (h : r.find? id = some t) :
    t ∈ r.tasks ∧ t.id = id :=
  ⟨List.mem_of_find?_eq_some h, by simpa using List.find?_some h⟩

theorem mem_insertTask {t u : Task} {ts : List Task} :
    u ∈ insertTask t ts ↔ u = t ∨ u ∈ ts := by
  induction ts with
  | nil => simp [insertTask]
  | cons v vs ih =>
    unfold insertTask
    split
    · simp
    · simp only [List.mem_cons, ih]
      grind

end Registry

end TaskMessaging
