import TaskMessaging.Proofs.Control.Dispatcher
import TaskMessaging.Proofs.TaskSystem.Operation

/-!
# Operations on the dispatcher

What can be asked of the system, of the timers and of the dispatcher, as one language. A run is any
number of these operations in any order: clients call the system while the dispatcher handles
events, and nobody waits for anybody.

## Calls

The dispatcher has no access to the system that a client would not have. Each of its operations is a
list of operations on the system, its *calls*, and `system_perform` says that the system behind the
one is the system behind the other. So whatever holds along every run of the system holds along
every run of the dispatcher, and counting what the dispatcher does is counting its calls.
-/

namespace TaskMessaging

/-- Something that is asked of the system, of the timers or of the dispatcher. -/
inductive ControlOperation where
  | system (op : Operation)
  /-- A task is spawned, but the operating system refuses it a thread. -/
  | spawnNotStarted (id : TaskId) (name cause : String)
  | arm (now : Instant) (owner : TaskId) (delay : Duration) (kind : TimerKind) (userData : UInt64)
  | disarm (id : TimerId)
  /-- The scheduler takes off what is due. -/
  | popDue (now : Instant)
  | stopTimers
  | start
  | handle (now : Instant) (event : ControlEvent)
  /-- The dispatcher runs on a channel that holds some events and is closed behind them. -/
  | run (events : List Occurrence)

/-- What is told about it. -/
inductive ControlAnswer where
  | done
  | system (answer : Answer)
  | armed (r : Except ControlError TimerId)
  | disarmed (wasArmed : Bool)
  | due (ids : List TimerId)
  | state (s : DispatcherState)
  | ended (outcome : Except ControlError Unit) (rest : List Occurrence)

namespace ControlLoop

open TaskSystem (SameButJournal)

variable {c : ControlLoop}

/-- Performs an operation. -/
def perform (c : ControlLoop) : ControlOperation → ControlAnswer × ControlLoop
  | .system op => (.system (c.system.perform op).1, { c with system := (c.system.perform op).2 })
  | .spawnNotStarted id name cause =>
    (.system (.ofResult (fun _ ↦ .done) (c.system.spawnTaskNotStarted id name cause).1),
      { c with system := (c.system.spawnTaskNotStarted id name cause).2 })
  | .arm now owner delay kind userData =>
    match c.timers.arm now owner delay kind userData with
    | .ok (id, timers) => (.armed (.ok id), { c with timers := timers })
    | .error e => (.armed (.error e), c)
  | .disarm id => (.disarmed (c.timers.disarm id).1, { c with timers := (c.timers.disarm id).2 })
  | .popDue now => (.due (c.timers.popDue now).1, { c with timers := (c.timers.popDue now).2 })
  | .stopTimers => (.done, { c with timers := c.timers.stop })
  | .start => (.done, c.start)
  | .handle now event =>
    (.state (c.handle now event).dispatcher.state, c.handle now event)
  | .run events =>
    (.ended (ControlLoop.run c events).1 (ControlLoop.run c events).2.2,
      (ControlLoop.run c events).2.1)

/-- The loop behind a sequence of operations. -/
def runAll (c : ControlLoop) (ops : List ControlOperation) : ControlLoop :=
  ops.foldl (fun c op ↦ (c.perform op).2) c

/-- What is told about them. -/
def answers (c : ControlLoop) : List ControlOperation → List ControlAnswer
  | [] => []
  | op :: ops => (c.perform op).1 :: (c.perform op).2.answers ops

/-! ## Calls -/

/-- The entries that entering a state adds to the journal. -/
def transitionNotes (c : ControlLoop) (next : DispatcherState) : Journal :=
  if next ≠ .waiting ∨ c.dispatcher.state = .idle then
    [noteStateChange c.dispatcher.state next]
  else []

/-- The calls that complete the expiry of a timer. -/
def timerCalls (c : ControlLoop) (now : Instant) (id : TimerId) : List Operation :=
  match (c.timers.expire id now).1 with
  | none => [.report [noteExpiryDropped id]]
  | some f =>
    match (c.system.send (expiryEnvelope f)).1 with
    | .ok _ => [.send (expiryEnvelope f)]
    | .error err =>
      [.send (expiryEnvelope f), .report [noteExpiryNotDelivered id f.owner err.reason],
        .releaseEnvelope (expiryEnvelope f)]

/-- The calls that an event leads to. -/
def reactCalls (c : ControlLoop) (now : Instant) : ControlEvent → List Operation
  | .timerFired id => c.timerCalls now id
  | .shutdownRequested => [.requestShutdown]
  | .fault signal =>
    [.report [noteFault signal (c.dispatcher.faults + 1)], .broadcast (faultEnvelope signal)] ++
      if c.dispatcher.stopOnFault then [.requestShutdown] else []
  | .interrupt =>
    [.terminateTasks .core, .report [noteInterrupted (c.system.terminateTasks .core).1]]
  | .unrecognized signal => [.report [noteUnrecognized signal]]

/-- The calls of handling an event. -/
def handleCalls (c : ControlLoop) (now : Instant) (event : ControlEvent) : List Operation :=
  if c.dispatcher.state = .terminal then [.report [noteIgnored event]]
  else
    let after := (c.setState .dispatching).react now event
    c.reactCalls now event ++ [.report (after.2.transitionNotes after.1)]

/-- The calls of starting. -/
def startCalls (c : ControlLoop) : List Operation :=
  if c.dispatcher.state = .idle then [.report (c.transitionNotes .waiting)] else []

/-- The calls of handling events until one of them is final. -/
def consumeCalls (c : ControlLoop) : List Occurrence → List Operation
  | [] => if c.dispatcher.state = .terminal then [] else [.report [noteChannelClosed]]
  | o :: os =>
    if c.dispatcher.state = .terminal then []
    else c.handleCalls o.time o.event ++ (c.handle o.time o.event).consumeCalls os

/-- The calls of spawning a task that gets no thread. -/
def spawnNotStartedCalls (s : TaskSystem) (id : TaskId) (name cause : String) : List Operation :=
  match (s.registerTask id name).1 with
  | .error _ => [.register id name]
  | .ok _ =>
    [.register id name, .report [TaskSystem.noteNotStarted id cause], .unregister id]

/-- **The calls of an operation**: what it asks of the system. -/
def calls (c : ControlLoop) : ControlOperation → List Operation
  | .system op => [op]
  | .spawnNotStarted id name cause => spawnNotStartedCalls c.system id name cause
  | .start => c.startCalls
  | .handle now event => c.handleCalls now event
  | .run events => c.startCalls ++ c.start.consumeCalls events
  | .arm .. | .disarm _ | .popDue _ | .stopTimers => []

/-- The calls of a run. -/
def callsOf (c : ControlLoop) : List ControlOperation → List Operation
  | [] => []
  | op :: ops => c.calls op ++ (c.perform op).2.callsOf ops

theorem system_start (c : ControlLoop) : c.start.system = c.system.run c.startCalls := by
  rw [start, startCalls]
  split
  · rfl
  · rfl

theorem system_deliverTimer (c : ControlLoop) (now : Instant) (id : TimerId) :
    (c.deliverTimer now id).system = c.system.run (c.timerCalls now id) := by
  rw [deliverTimer, timerCalls]
  rcases c.timers.expire id now with ⟨_ | f, timers⟩
  · rfl
  · dsimp only
    rcases hs : c.system.send (expiryEnvelope f) with ⟨err | _, s⟩
    · -- What comes back is the expiry, and releasing it cannot fail.
      have herr := TaskSystem.envelope_of_send_error (congrArg Prod.fst hs)
      have hsend : (c.system.perform (.send (expiryEnvelope f))).2 = s := congrArg Prod.snd hs
      dsimp only
      rw [herr]
      simp only [TaskSystem.run, List.foldl_cons, List.foldl_nil, hsend]
      rfl
    · exact (congrArg Prod.snd hs).symm

theorem system_react (c : ControlLoop) (now : Instant) (event : ControlEvent) :
    (c.react now event).2.system = c.system.run (c.reactCalls now event) := by
  cases event with
  | timerFired id => exact system_deliverTimer c now id
  | shutdownRequested => rfl
  | fault signal =>
    cases hstop : c.dispatcher.stopOnFault with
    | true =>
      simp only [react, reportFault, reactCalls, note, hstop, if_true]
      rfl
    | false =>
      simp only [react, reportFault, reactCalls, note, hstop, Bool.false_eq_true, if_false]
      rfl
  | interrupt => rfl
  | unrecognized signal => rfl

theorem system_handle (c : ControlLoop) (now : Instant) (event : ControlEvent) :
    (c.handle now event).system = c.system.run (c.handleCalls now event) := by
  rw [handle, handleCalls]
  split
  · rfl
  · change ((c.setState .dispatching).react now event).2.system.note _ = _
    rw [system_react, TaskSystem.run, TaskSystem.run, List.foldl_append]
    rfl

theorem system_consume (c : ControlLoop) (events : List Occurrence) :
    (c.consume events).2.1.system = c.system.run (c.consumeCalls events) := by
  induction events generalizing c with
  | nil =>
    rw [consume, consumeCalls]
    split
    · rfl
    · rfl
  | cons o os ih =>
    rw [consume, consumeCalls]
    split
    · rfl
    · rw [ih, system_handle, TaskSystem.run, TaskSystem.run, TaskSystem.run, List.foldl_append]

theorem system_spawnNotStarted (s : TaskSystem) (id : TaskId) (name cause : String) :
    (s.spawnTaskNotStarted id name cause).2 = s.run (spawnNotStartedCalls s id name cause) := by
  rw [TaskSystem.spawnTaskNotStarted, spawnNotStartedCalls]
  rcases hr : s.registerTask id name with ⟨err | t, s₁⟩
  · exact (congrArg Prod.snd hr).symm
  · have hreg : (s.perform (.register id name)).2 = s₁ := congrArg Prod.snd hr
    simp only [TaskSystem.run, List.foldl_cons, List.foldl_nil, hreg]
    rfl

/-- **An operation does to the system what its calls do.** -/
theorem system_perform (c : ControlLoop) (op : ControlOperation) :
    (c.perform op).2.system = c.system.run (c.calls op) := by
  cases op with
  | system op => rfl
  | spawnNotStarted id name cause => exact system_spawnNotStarted c.system id name cause
  | arm now owner delay kind userData =>
    rw [perform]
    rcases c.timers.arm now owner delay kind userData with err | ⟨id, timers⟩
    · rfl
    · rfl
  | disarm id => rfl
  | popDue now => rfl
  | stopTimers => rfl
  | start => exact system_start c
  | handle now event => exact system_handle c now event
  | run events =>
    change (c.start.consume events).2.1.system = _
    rw [system_consume, system_start, calls, TaskSystem.run, TaskSystem.run, TaskSystem.run,
      List.foldl_append]

/-- And so does a run. -/
theorem system_runAll (c : ControlLoop) (ops : List ControlOperation) :
    (c.runAll ops).system = c.system.run (c.callsOf ops) := by
  induction ops generalizing c with
  | nil => rfl
  | cons op ops ih =>
    rw [callsOf, TaskSystem.run, List.foldl_append]
    exact (ih (c.perform op).2).trans (by rw [system_perform]; rfl)

theorem reachable_perform (r : c.system.Reachable) (op : ControlOperation) :
    (c.perform op).2.system.Reachable := by
  rw [system_perform]
  exact r.run _

theorem reachable_runAll (r : c.system.Reachable) (ops : List ControlOperation) :
    (c.runAll ops).system.Reachable := by
  rw [system_runAll]
  exact r.run _

end ControlLoop

end TaskMessaging
