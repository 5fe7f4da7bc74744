import TaskMessaging.Control.Dispatcher
import TaskMessaging.TaskSystem.Context

/-!
# The heartbeat task

A task with a periodic timer that counts its expiries. It receives whatever arrives, releases it,
and leaves its loop after the request to terminate; then it disarms its timer.
-/

namespace TaskMessaging.Heartbeat

def id : TaskId := ⟨1⟩

def name : String := "heartbeat"

def speaker : String := "itti_node::heartbeat"

/-- What is said where the task could not be spawned. -/
def spawnFailure : String := "Failed to spawn heartbeat task"

/-- Registers the task and starts its thread. -/
def spawn (s : TaskSystem) : Except TaskError Unit × TaskSystem := s.spawnTask id name

/-- Arms the timer of the task, with the period also as its first delay. -/
def arm (timers : TimerService) (now : Instant) (period : Duration) :
    Except ControlError (TimerId × TimerService) :=
  timers.arm now id period (.periodic period) 0

def noteArmed (timer : TimerId) (period : Duration) : Log.Entry :=
  ⟨.info, speaker, "Heartbeat armed",
    [("timer", .text timer.text), ("period_ms", .nat period.milliseconds)]⟩

def noteNotArmed (e : ControlError) : Log.Entry :=
  ⟨.warn, speaker, "Heartbeat timer could not be armed", [("error", .text e.message)]⟩

def noteBeat (timer : TimerId) (beats : UInt64) : Log.Entry :=
  ⟨.debug, speaker, "Heartbeat", [("timer", .text timer.text), ("beats", .nat beats.toNat)]⟩

def noteNotReleased (e : TaskError) : Log.Entry :=
  ⟨.warn, speaker, "Failed to release heartbeat envelope", [("error", .text e.message)]⟩

def noteStopped (beats : UInt64) : Log.Entry :=
  ⟨.info, speaker, "Heartbeat stopped", [("beats", .nat beats.toNat)]⟩

/-- Where the loop of the task stands. -/
structure Progress where
  /-- Expiries counted so far, modulo 2^64. -/
  beats : UInt64
  /-- The request to terminate was received. -/
  ended : Bool
deriving DecidableEq

/-- What the task does with one envelope. -/
def react (s : TaskSystem) (p : Progress) (e : Envelope) : Progress × TaskSystem :=
  let (beats, s) := match TimerExpiry.ofEnvelope? e with
    | some x => (p.beats + 1, s.note [noteBeat x.timer (p.beats + 1)])
    | none => (p.beats, s)
  let s := match s.releaseEnvelope e with
    | (.ok _, s) => s
    | (.error err, s) => s.note [noteNotReleased err]
  (⟨beats, e.kind = .terminate⟩, s)

/-- Receives up to `count` envelopes, as long as there are any and the loop has not ended. -/
def receive : Nat → TaskSystem → Progress → Progress × TaskSystem
  | 0, s, p => (p, s)
  | count + 1, s, p =>
    if p.ended then (p, s)
    else
      match s.tryReceive id with
      | (.ok (some e), s) =>
        let (p, s) := react s p e
        receive count s p
      | (_, s) => (p, s)

/-- Receives all that waits in the mailbox, up to the request to terminate. -/
def drain (s : TaskSystem) (p : Progress) : Progress × TaskSystem :=
  receive ((s.registry.find? id).elim 0 fun t ↦ t.mailbox.length) s p

/-- The dispatcher handles an event, and the task receives what that sent to it. What the task
reports goes to its own thread, so the journal is that of the dispatcher. -/
def attend (c : ControlLoop) (now : Instant) (p : Progress) (event : ControlEvent) :
    Progress × ControlLoop :=
  let c := c.handle now event
  let (p, s) := drain c.system p
  (p, { c with system := { s with journal := c.system.journal } })

/-- Several events in turn. -/
def attendAll (now : Instant) : List ControlEvent → ControlLoop × Progress → ControlLoop × Progress
  | [], x => x
  | e :: es, (c, p) =>
    let (p, c) := attend c now p e
    attendAll now es (c, p)

/-- Leaves the loop for good. -/
def finish (timers : TimerService) (timer : TimerId) : TimerService := (timers.disarm timer).2

/-- The body of the task, given what waits in its mailbox: where its loop stands, the system and the
timers. Without a timer there is no loop, and one that has not ended waits for more. -/
def run (s : TaskSystem) (timers : TimerService) (now : Instant) (period : Duration) :
    Option Progress × TaskSystem × TimerService :=
  match arm timers now period with
  | .error e => (none, s.note [noteNotArmed e], timers)
  | .ok (timer, timers) =>
    let armed := [TimerService.noteArmed timer id period (.periodic period),
      noteArmed timer period]
    let (p, s) := drain (s.note armed) ⟨0, false⟩
    if p.ended then
      (some p, s.note [TimerService.noteDisarmed timer, noteStopped p.beats], finish timers timer)
    else (some p, s, timers)

/-- All tasks are asked to terminate, the heartbeat does, and every thread is waited for: what the
request reached, how many threads panicked, and the system behind that. What the heartbeat itself
reports goes to its own thread. -/
def leave (s : TaskSystem) (p : Progress) : BroadcastReport × Nat × TaskSystem :=
  let (report, s) := s.terminateTasks .core
  let (panicked, s) := { (drain s p).2 with journal := s.journal }.waitTasksEnd none
  (report, panicked, s)

/-- What is left of a heartbeat that was attended and then left. -/
structure Course where
  terminated : BroadcastReport
  panicked : Nat
  system : TaskSystem
  timers : TimerService

/-- The whole course of a heartbeat whose timer is armed, with the events that are handled in the
meantime. -/
def course (c : ControlLoop) (timer : TimerId) (now : Instant) (events : List ControlEvent) :
    Course :=
  let (c, p) := attendAll now events (c, ⟨0, false⟩)
  let (report, panicked, s) := leave c.system p
  ⟨report, panicked, s, finish c.timers timer⟩

end TaskMessaging.Heartbeat
