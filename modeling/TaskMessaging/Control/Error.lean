import TaskMessaging.Clock

/-!
# Control errors

What can go wrong with timers and with the control loop.
-/

namespace TaskMessaging

/-- Why arming a timer or running the control loop failed. -/
inductive ControlError where
  /-- The control signals could not be blocked. -/
  | signalMask (cause : String)
  | signalWait (cause : String)
  /-- A thread of the control loop could not be started. -/
  | spawn (thread cause : String)
  /-- All senders are gone although no final event was seen. -/
  | channelClosed
  | zeroInterval (interval : Duration)
  /-- The clock cannot show a deadline. -/
  | delayOverflow (delay : Duration)
  | panicked
deriving DecidableEq

namespace ControlError

/-- The operating system refused a service. -/
def isOsError : ControlError → Bool
  | .signalMask _ | .signalWait _ | .spawn .. => true
  | _ => false

/-- The name of the cause. -/
def name : ControlError → String
  | .signalMask _ => "SignalMask"
  | .signalWait _ => "SignalWait"
  | .spawn .. => "Spawn"
  | .channelClosed => "ChannelClosed"
  | .zeroInterval _ => "ZeroInterval"
  | .delayOverflow _ => "DelayOverflow"
  | .panicked => "Panicked"

/-- The error of a name with the cause and the duration that it may carry. A thread that could not
be started is the control thread. -/
def ofFields? (name cause : String) (duration : Duration) : Option ControlError :=
  match name with
  | "SignalMask" => some (.signalMask cause)
  | "SignalWait" => some (.signalWait cause)
  | "Spawn" => some (.spawn "control" cause)
  | "ChannelClosed" => some .channelClosed
  | "ZeroInterval" => some (.zeroInterval duration)
  | "DelayOverflow" => some (.delayOverflow duration)
  | "Panicked" => some .panicked
  | _ => none

def message : ControlError → String
  | .signalMask cause => "Failed to install control signal mask: " ++ cause
  | .signalWait cause => "Signal wait failed: " ++ cause
  | .spawn thread cause => "Failed to start " ++ thread ++ " thread: " ++ cause
  | .channelClosed => "Control event channel closed before shutdown"
  | .zeroInterval d => "Periodic timer interval must be non-zero (got " ++ d.text ++ ")"
  | .delayOverflow d => "Timer delay " ++ d.text ++ " overflows the monotonic clock"
  | .panicked => "Control thread panicked"

end ControlError

end TaskMessaging
