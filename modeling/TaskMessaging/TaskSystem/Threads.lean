import TaskMessaging.TaskSystem.Delivery

/-!
# Task threads

A task may be registered together with a thread that runs its body. The thread stays attached to
the task until somebody waits for it. What the body does is a sequence of operations on the
system; here only its start and its end are modelled.
-/

namespace TaskMessaging.TaskSystem

def noteStarted (id : TaskId) (name : String) : Log.Entry :=
  ⟨.info, speaker, "Task started", [("task_id", .text id.text), ("task_name", .text name)]⟩

def noteNotStarted (id : TaskId) (cause : String) : Log.Entry :=
  ⟨.error, speaker, "Failed to start task thread",
    [("task_id", .text id.text), ("error", .text cause)]⟩

def noteSelfWait (id : TaskId) : Log.Entry :=
  ⟨.warn, speaker, "Task thread cannot wait for itself", [("task_id", .text id.text)]⟩

def notePanicked (t : Task) : Log.Entry :=
  ⟨.error, speaker, "Task thread panicked",
    [("task_id", .text t.id.text), ("task_name", .text t.name)]⟩

def noteEnded (panicked : Nat) : Log.Entry :=
  ⟨.info, speaker, "All task threads ended", [("panicked", .nat panicked)]⟩

/-- Registers a task and starts its thread. -/
def spawnTask (s : TaskSystem) (id : TaskId) (name : String) : Except TaskError Unit × TaskSystem :=
  match s.registerTask id name with
  | (.error e, s) => (.error e, s)
  | (.ok _, s) =>
    (.ok (), { s with
      registry := s.registry.setThread id (some ⟨false⟩)
      metrics := s.metrics.recordTaskSpawned }.note [noteStarted id name])

/-- Registers a task whose thread cannot be started, for a cause that the operating system gives.
The registration is rolled back. -/
def spawnTaskNotStarted (s : TaskSystem) (id : TaskId) (name cause : String) :
    Except TaskError Unit × TaskSystem :=
  match s.registerTask id name with
  | (.error e, s) => (.error e, s)
  | (.ok _, s) =>
    (.error (.spawn id cause), ((s.note [noteNotStarted id cause]).unregisterTask id).2)

/-- The body of a task ended in a panic. -/
def recordPanic (s : TaskSystem) (id : TaskId) : TaskSystem :=
  { s with registry := s.registry.update id fun t ↦
      { t with thread := t.thread.map fun _ ↦ ⟨true⟩ } }

/-- Waits for the threads of some tasks, seen from the thread of `current` if it is one of them. -/
def joinThreads (s : TaskSystem) (current : Option TaskId) : List Task → Nat × TaskSystem
  | [] => (0, s)
  | t :: ts =>
    match t.thread with
    | none => s.joinThreads current ts
    | some thread =>
      if current = some t.id then (s.note [noteSelfWait t.id]).joinThreads current ts
      else
        let s := { s with registry := s.registry.setThread t.id none }
        if thread.panicked then
          let (n, s) := (s.note [notePanicked t]).joinThreads current ts
          (n + 1, s)
        else s.joinThreads current ts

/-- Waits for the end of every task thread and counts those that panicked. A thread does not wait
for itself. -/
def waitTasksEnd (s : TaskSystem) (current : Option TaskId) : Nat × TaskSystem :=
  let (panicked, s) := s.joinThreads current s.registry.tasks
  (panicked, s.note [noteEnded panicked])

end TaskMessaging.TaskSystem
