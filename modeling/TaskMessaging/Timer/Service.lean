import TaskMessaging.Control.Error
import TaskMessaging.Log
import TaskMessaging.Timer.Table

/-!
# The timer service

Arms and disarms timers and completes their expiry. The clock is never read here: each operation
is given the reading it works with. Once stopped, a service pops no more timers, while arming and
disarming go on as before.
-/

namespace TaskMessaging

/-- The timers of a process. -/
structure TimerService where
  table : TimerTable
  stopped : Bool
  ids : IdSource
deriving DecidableEq

namespace TimerService

def initial : TimerService := ⟨.empty, false, .initial⟩

/-- The name under which the service speaks. -/
def speaker : String := "timers::service"

/-- The first deadline of a timer. A periodic timer needs an interval that is not zero, and its
second deadline must be one that the clock can show. -/
def deadline? (now : Instant) (delay : Duration) (kind : TimerKind) : Except ControlError Instant :=
  match kind with
  | .oneShot => match now.add? delay with
    | none => .error (.delayOverflow delay)
    | some d => .ok d
  | .periodic interval =>
    if interval.isZero then .error (.zeroInterval interval)
    else match now.add? delay with
      | none => .error (.delayOverflow delay)
      | some d => match d.add? interval with
        | none => .error (.delayOverflow interval)
        | some _ => .ok d

/-- Arms a timer that first expires after `delay`. -/
def arm (s : TimerService) (now : Instant) (owner : TaskId) (delay : Duration) (kind : TimerKind)
    (userData : UInt64) : Except ControlError (TimerId × TimerService) :=
  (deadline? now delay kind).map fun deadline ↦
    let id : TimerId := ⟨s.ids.next⟩
    (id, { s with
      table := s.table.insert ⟨id, owner, kind, userData, deadline⟩
      ids := s.ids.take.2 })

/-- What arming a timer reports. -/
def noteArmed (id : TimerId) (owner : TaskId) (delay : Duration) (kind : TimerKind) : Log.Entry :=
  ⟨.debug, speaker, "Timer armed",
    [("timer_id", .text id.text), ("owner", .text owner.text), ("delay", .text delay.text),
      ("kind", .text kind.text)]⟩

/-- Disarms a timer and says whether it was armed. -/
def disarm (s : TimerService) (id : TimerId) : Bool × TimerService :=
  ((s.table.remove id).1.isSome, { s with table := (s.table.remove id).2 })

/-- What disarming an armed timer reports. -/
def noteDisarmed (id : TimerId) : Log.Entry :=
  ⟨.debug, speaker, "Timer disarmed", [("timer_id", .text id.text)]⟩

/-- Completes the expiry of a timer. -/
def expire (s : TimerService) (id : TimerId) (now : Instant) : Option FiredTimer × TimerService :=
  ((s.table.expire id now).1, { s with table := (s.table.expire id now).2 })

def isArmed (s : TimerService) (id : TimerId) : Bool := (s.table.get? id).isSome

/-- How many timers are armed. -/
def armed (s : TimerService) : Nat := s.table.size

/-- What the scheduler finds due. -/
def popDue (s : TimerService) (now : Instant) : List TimerId × TimerService :=
  if s.stopped then ([], s)
  else ((s.table.popDue now).1, { s with table := (s.table.popDue now).2 })

/-- Ends the scheduler; armed timers no longer fire. -/
def stop (s : TimerService) : TimerService := { s with stopped := true }

/-! ## Laws -/

/-- A timer is armed as soon as it has been given an identifier. -/
theorem isArmed_of_arm {s s' : TimerService} {now : Instant} {owner : TaskId} {delay : Duration}
    {kind : TimerKind} {userData : UInt64} {id : TimerId}
    (h : s.arm now owner delay kind userData = .ok (id, s')) : s'.isArmed id = true := by
  unfold arm at h
  cases hd : deadline? now delay kind with
  | error e => simp [hd, Except.map] at h
  | ok d =>
    simp only [hd, Except.map, Except.ok.injEq, Prod.mk.injEq] at h
    obtain ⟨rfl, rfl⟩ := h
    simpa [isArmed] using
      congrArg Option.isSome
        (TimerTable.get?_insert_self s.table ⟨⟨s.ids.next⟩, owner, kind, userData, d⟩)

end TimerService

end TaskMessaging
