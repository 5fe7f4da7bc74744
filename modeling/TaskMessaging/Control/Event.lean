import TaskMessaging.Ident

/-!
# Control events

Everything that happens to the process from outside, timer expiry and operating system signals
alike, reaches the dispatcher as one of a few events through one channel.
-/

namespace TaskMessaging

/-- Something for the dispatcher to act on. -/
inductive ControlEvent where
  | timerFired (id : TimerId)
  | shutdownRequested
  /-- A segmentation fault, an abort or a bus error. -/
  | fault (signal : Int32)
  /-- The user asks all tasks to end. -/
  | interrupt
  | unrecognized (signal : Int32)
deriving DecidableEq

namespace ControlEvent

/-- After such an event a source of signals has nothing left to report. -/
def endsSignalStream : ControlEvent → Bool
  | .shutdownRequested | .interrupt => true
  | _ => false

def text : ControlEvent → String
  | .timerFired id => "timer fired (" ++ id.text ++ ")"
  | .shutdownRequested => "shutdown requested"
  | .fault signal => "fault (signal " ++ Decimal.intText signal.toInt ++ ")"
  | .interrupt => "interrupt"
  | .unrecognized signal => "unrecognized signal " ++ Decimal.intText signal.toInt

/-- The events that a source of signals passes on: up to and including the first that ends it. -/
def untilStreamEnds : List ControlEvent → List ControlEvent
  | [] => []
  | e :: es => if e.endsSignalStream then [e] else e :: untilStreamEnds es

end ControlEvent

end TaskMessaging
