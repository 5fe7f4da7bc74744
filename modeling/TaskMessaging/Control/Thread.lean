import TaskMessaging.Config.Basic
import TaskMessaging.Control.Dispatcher
import TaskMessaging.Control.Signal

/-!
# The control thread

A dispatcher that runs on a thread of its own, fed by the timer scheduler, by the signals of the
process and by whoever holds the control thread. Its life is told by the events in its channel:
it is started, handles them, and is joined or dropped, after which the timers are stopped.
-/

namespace TaskMessaging.ControlThread

def speaker : String := "timers::control"

/-- What starting the thread reports. -/
def startNotes (config : Config.DispatcherSection) : Journal :=
  (if config.installSignalMask then [Signal.noteMaskInstalled] else []) ++
    [⟨.info, speaker, "Control thread started",
      [("stop_on_fault", .bool config.stopOnFault),
        ("signal_mask", .bool config.installSignalMask)]⟩]

/-- What joining the thread reports. -/
def joinNotes (outcome : Except ControlError Unit) : Journal :=
  (match outcome with
    | .ok _ => []
    | .error e => [⟨.error, speaker, "Control thread failed", [("error", .text e.message)]⟩]) ++
    [⟨.info, speaker, "Control thread stopped", []⟩]

/-- The loop of a control thread that was just started. -/
def loop (s : TaskSystem) (timers : TimerService) (config : Config.DispatcherSection) :
    ControlLoop :=
  ⟨.create config.stopOnFault, s, timers⟩

/-- The events of a scheduler that looks at the clock once. -/
def scheduled (timers : TimerService) (now : Instant) : List ControlEvent × TimerService :=
  ((timers.popDue now).1.map .timerFired, (timers.popDue now).2)

/-- Handles events at one reading of the clock. -/
def handleAll (c : ControlLoop) (now : Instant) (events : List ControlEvent) : ControlLoop :=
  events.foldl (fun c e ↦ c.handle now e) c

/-- One look of the scheduler at the clock, with everything handled that it finds due. -/
def fire (c : ControlLoop) (now : Instant) : ControlLoop :=
  let (events, timers) := scheduled c.timers now
  handleAll { c with timers := timers } now events

/-- Lets timers fire at their deadlines in turn, up to a horizon, until the system is as awaited.
The number bounds how many deadlines are looked at. -/
def fireUntil (awaited : TaskSystem → Bool) (horizon : Instant) : Nat → ControlLoop → ControlLoop
  | 0, c => c
  | n + 1, c =>
    if awaited c.system || c.timers.stopped then c
    else
      match c.timers.table.nextDeadline with
      | none => c
      | some d => if horizon < d then c else fireUntil awaited horizon n (fire c d)

/-- A control thread that is started and left alone until the system is as awaited. -/
def opened (s : TaskSystem) (timers : TimerService) (config : Config.DispatcherSection)
    (awaited : TaskSystem → Bool) (horizon : Instant) : ControlLoop :=
  fireUntil awaited horizon 1000 (loop s timers config).start

/-- The events that the signals sent to the process put into the channel. -/
def signalled (signals : List Signal) : List ControlEvent :=
  ControlEvent.untilStreamEnds (signals.map Signal.event)

/-- An event after which the dispatcher ends by itself. -/
def isFinal (stopOnFault : Bool) : ControlEvent → Bool
  | .shutdownRequested | .interrupt => true
  | .fault _ => stopOnFault
  | _ => false

end TaskMessaging.ControlThread
