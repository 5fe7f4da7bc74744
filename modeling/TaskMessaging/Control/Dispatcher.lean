import TaskMessaging.Control.Event
import TaskMessaging.TaskSystem.Delivery
import TaskMessaging.Timer.Expiry
import TaskMessaging.Timer.Service

/-!
# The dispatcher

A state machine that turns control events into envelopes, so that timers and signals reach tasks
through their mailboxes like any other message. Shutdown and interrupt end it, a fault does if it
was asked for; in the terminal state every event is ignored.
-/

namespace TaskMessaging

/-- What the dispatcher is doing. -/
inductive DispatcherState where
  | idle
  | waiting
  | dispatching
  | terminal
deriving DecidableEq

namespace DispatcherState

def all : List DispatcherState := [.idle, .waiting, .dispatching, .terminal]

def text : DispatcherState → String
  | .idle => "idle"
  | .waiting => "waiting"
  | .dispatching => "dispatching"
  | .terminal => "terminal"

end DispatcherState

/-- The dispatcher's own state. -/
structure Dispatcher where
  state : DispatcherState
  stopOnFault : Bool
  /-- Fault events handled so far, modulo 2^64. -/
  faults : UInt64
deriving DecidableEq

def Dispatcher.create (stopOnFault : Bool) : Dispatcher := ⟨.idle, stopOnFault, 0⟩

/-- An event together with the clock reading at which it is handled. -/
structure Occurrence where
  event : ControlEvent
  time : Instant
deriving DecidableEq

/-- The dispatcher with the system and the timers that it acts on. -/
structure ControlLoop where
  dispatcher : Dispatcher
  system : TaskSystem
  timers : TimerService
deriving DecidableEq

namespace ControlLoop

/-! ## Journal entries -/

def speaker : String := "timers::dispatcher"

def noteStateChange (before after : DispatcherState) : Log.Entry :=
  ⟨.info, speaker, "Dispatcher state change",
    [("from", .text before.text), ("to", .text after.text)]⟩

def noteIgnored (event : ControlEvent) : Log.Entry :=
  ⟨.debug, speaker, "Event after terminal state ignored", [("event", .text event.text)]⟩

def noteExpiryDropped (id : TimerId) : Log.Entry :=
  ⟨.debug, speaker, "Expiry of disarmed timer dropped", [("timer_id", .text id.text)]⟩

def noteExpiryNotDelivered (id : TimerId) (owner : TaskId) (reason : SendFailure) : Log.Entry :=
  ⟨.warn, speaker, "Timer expiry not delivered",
    [("timer_id", .text id.text), ("owner", .text owner.text), ("reason", .text reason.message)]⟩

def noteNotReleased (e : TaskError) : Log.Entry :=
  ⟨.error, speaker, "Failed to release timer envelope", [("error", .text e.message)]⟩

def noteFault (signal : Int32) (faults : UInt64) : Log.Entry :=
  ⟨.error, speaker, "Fault signal captured",
    [("signal", .int signal.toInt), ("faults", .nat faults.toNat)]⟩

def noteInterrupted (r : BroadcastReport) : Log.Entry :=
  ⟨.info, speaker, "Interrupt: terminate broadcast",
    [("delivered", .nat r.delivered), ("failed", .nat r.failed)]⟩

def noteUnrecognized (signal : Int32) : Log.Entry :=
  ⟨.warn, speaker, "Unrecognized control signal ignored", [("signal", .int signal.toInt)]⟩

def noteChannelClosed : Log.Entry :=
  ⟨.error, speaker, "Control event channel closed while waiting", []⟩

/-! ## Steps -/

def note (c : ControlLoop) (entries : Journal) : ControlLoop :=
  { c with system := c.system.note entries }

def setState (c : ControlLoop) (state : DispatcherState) : ControlLoop :=
  { c with dispatcher := { c.dispatcher with state := state } }

/-- Enters a state. Returning to wait after an event is not worth a report. -/
def transition (c : ControlLoop) (next : DispatcherState) : ControlLoop :=
  let notes :=
    if next ≠ .waiting ∨ c.dispatcher.state = .idle then
      [noteStateChange c.dispatcher.state next]
    else []
  (c.note notes).setState next

/-- Starts to wait, if idle. -/
def start (c : ControlLoop) : ControlLoop :=
  if c.dispatcher.state = .idle then c.transition .waiting else c

/-- The envelope that tells the owner of a timer about its expiry. -/
def expiryEnvelope (f : FiredTimer) : Envelope :=
  .owning .timerExpired .core (.task f.owner) (TimerExpiry.toPayload ⟨f.id, f.userData⟩)

/-- Releases an expiry that could not be delivered. -/
def releaseExpiry (s : TaskSystem) (e : Envelope) : TaskSystem :=
  match s.releaseEnvelope e with
  | (.ok _, s) => s
  | (.error err, s) => s.note [noteNotReleased err]

/-- Completes the expiry of a timer and tells its owner. -/
def deliverTimer (c : ControlLoop) (now : Instant) (id : TimerId) : ControlLoop :=
  match c.timers.expire id now with
  | (none, _) => c.note [noteExpiryDropped id]
  | (some fired, timers) =>
    match c.system.send (expiryEnvelope fired) with
    | (.ok _, s) => { c with system := s, timers := timers }
    | (.error err, s) =>
      { c with
        system := releaseExpiry (s.note [noteExpiryNotDelivered id fired.owner err.reason])
          err.envelope
        timers := timers }

/-- The envelope that tells all tasks about a fault: the signal as four bytes, the least
significant first. -/
def faultEnvelope (signal : Int32) : Envelope :=
  .owning .faultReported .core .broadcast
    (.inline ⟨littleEndian 4 signal.toUInt32.toNat, by simp [Limits.inlineBytes]⟩)

/-- Counts a fault and tells all tasks. -/
def reportFault (c : ControlLoop) (signal : Int32) : DispatcherState × ControlLoop :=
  let faults := c.dispatcher.faults + 1
  let c := { c with dispatcher := { c.dispatcher with faults := faults } }.note
    [noteFault signal faults]
  let c := { c with system := (c.system.broadcast (faultEnvelope signal)).2 }
  if c.dispatcher.stopOnFault then
    (.terminal, { c with system := c.system.requestShutdown })
  else (.waiting, c)

/-- What an event does, and the state behind it. -/
def react (c : ControlLoop) (now : Instant) : ControlEvent → DispatcherState × ControlLoop
  | .timerFired id => (.waiting, c.deliverTimer now id)
  | .shutdownRequested => (.terminal, { c with system := c.system.requestShutdown })
  | .fault signal => c.reportFault signal
  | .interrupt =>
    let (r, s) := c.system.terminateTasks .core
    (.terminal, { c with system := s.note [noteInterrupted r] })
  | .unrecognized signal => (.waiting, c.note [noteUnrecognized signal])

/-- Handles one event. -/
def handle (c : ControlLoop) (now : Instant) (event : ControlEvent) : ControlLoop :=
  if c.dispatcher.state = .terminal then c.note [noteIgnored event]
  else
    let (next, c) := (c.setState .dispatching).react now event
    c.transition next

/-- Handles events until one of them is final, and answers those that are left. When they run out
first, all senders are gone. -/
def consume (c : ControlLoop) :
    List Occurrence → Except ControlError Unit × ControlLoop × List Occurrence
  | [] =>
    if c.dispatcher.state = .terminal then (.ok (), c, [])
    else (.error .channelClosed, c.note [noteChannelClosed], [])
  | o :: os =>
    if c.dispatcher.state = .terminal then (.ok (), c, o :: os)
    else (c.handle o.time o.event).consume os

/-- Runs the dispatcher on a channel that holds some events and is closed behind them. -/
def run (c : ControlLoop) (events : List Occurrence) :
    Except ControlError Unit × ControlLoop × List Occurrence :=
  c.start.consume events

/-! ## Laws -/

/-- In the terminal state an event changes nothing but the journal. -/
theorem handle_terminal {c : ControlLoop} (h : c.dispatcher.state = .terminal) (now : Instant)
    (event : ControlEvent) : c.handle now event = c.note [noteIgnored event] := by
  simp [handle, h]

end ControlLoop

end TaskMessaging
