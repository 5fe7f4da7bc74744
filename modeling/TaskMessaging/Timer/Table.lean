import TaskMessaging.Clock
import TaskMessaging.Ident

/-!
# The timer table

Armed timers are known by their identifiers. A timer that waits for its deadline is, besides,
scheduled: the schedule holds deadlines and identifiers in ascending order, so the next timer to
expire is its head. Expiry has two halves. Popping takes a due timer off the schedule; expiring it
completes that, and either removes the timer or schedules its next deadline. A timer disarmed
between the halves never expires.
-/

namespace TaskMessaging

/-- How often a timer expires. -/
inductive TimerKind where
  | oneShot
  | periodic (interval : Duration)
deriving DecidableEq

def TimerKind.text : TimerKind → String
  | .oneShot => "OneShot"
  | .periodic interval => "Periodic(" ++ interval.text ++ ")"

/-- An armed timer. -/
structure TimerEntry where
  id : TimerId
  owner : TaskId
  kind : TimerKind
  /-- Handed back with each expiry. -/
  userData : UInt64
  deadline : Instant
deriving DecidableEq

/-- A timer that expired. -/
structure FiredTimer where
  id : TimerId
  owner : TaskId
  userData : UInt64
  /-- The timer stays armed and will expire again. -/
  rearmed : Bool
deriving DecidableEq

/-- A place in the schedule. -/
structure Appointment where
  deadline : Instant
  id : TimerId
deriving DecidableEq

namespace Appointment

/-- Earlier deadlines come first, and among equal ones smaller identifiers. -/
def before (a b : Appointment) : Bool :=
  a.deadline < b.deadline || a.deadline = b.deadline && a.id.number < b.id.number

end Appointment

/-- Armed timers and their schedule. -/
structure TimerTable where
  entries : List TimerEntry
  schedule : List Appointment
deriving DecidableEq

namespace TimerTable

def empty : TimerTable := ⟨[], []⟩

def get? (t : TimerTable) (id : TimerId) : Option TimerEntry := t.entries.find? fun e ↦ e.id = id

def size (t : TimerTable) : Nat := t.entries.length

def isEmpty (t : TimerTable) : Bool := t.entries.isEmpty

/-- How many timers are scheduled. -/
def scheduled (t : TimerTable) : Nat := t.schedule.length

def nextDeadline (t : TimerTable) : Option Instant := t.schedule.head?.map (·.deadline)

/-- Puts an appointment where it belongs; one that is there already stays the only one. -/
def appoint (a : Appointment) : List Appointment → List Appointment
  | [] => [a]
  | b :: bs =>
    if a = b then b :: bs
    else if a.before b then a :: b :: bs
    else b :: appoint a bs

/-- Arms a timer, in place of one with the same identifier. The old timer's appointment is
cancelled last, so a timer that replaces one with the same deadline is armed but not scheduled. -/
def insert (t : TimerTable) (e : TimerEntry) : TimerTable :=
  let schedule := appoint ⟨e.deadline, e.id⟩ t.schedule
  { entries := e :: t.entries.filter fun f ↦ f.id ≠ e.id
    schedule := match t.get? e.id with
      | some old => schedule.erase ⟨old.deadline, old.id⟩
      | none => schedule }

/-- Disarms a timer, whether it is scheduled or not. -/
def remove (t : TimerTable) (id : TimerId) : Option TimerEntry × TimerTable :=
  match t.get? id with
  | none => (none, t)
  | some e =>
    (some e, ⟨t.entries.filter fun f ↦ f.id ≠ id, t.schedule.erase ⟨e.deadline, id⟩⟩)

/-- Takes every due timer off the schedule, the earliest first. -/
def popDue (t : TimerTable) (now : Instant) : List TimerId × TimerTable :=
  ((t.schedule.takeWhile fun a ↦ a.deadline ≤ now).map (·.id),
    { t with schedule := t.schedule.dropWhile fun a ↦ a.deadline ≤ now })

/-- The deadline behind a previous one: an interval later, or an interval from now if that has
passed already. There is none if the clock cannot show it. -/
def nextAfter (previous now : Instant) (interval : Duration) : Option Instant :=
  match previous.add? interval with
  | none => none
  | some next => if now < next then some next else now.add? interval

/-- Completes the expiry of a timer, if it is still armed. A one-shot timer is removed, and so is
a periodic one without a next deadline. -/
def expire (t : TimerTable) (id : TimerId) (now : Instant) : Option FiredTimer × TimerTable :=
  match t.get? id with
  | none => (none, t)
  | some e =>
    let next := match e.kind with
      | .oneShot => none
      | .periodic interval => nextAfter e.deadline now interval
    match next with
    | some deadline =>
      (some ⟨id, e.owner, e.userData, true⟩, t.insert { e with deadline := deadline })
    | none => (some ⟨id, e.owner, e.userData, false⟩, (t.remove id).2)

/-! ## Laws -/

@[simp] theorem get?_insert_self (t : TimerTable) (e : TimerEntry) :
    (t.insert e).get? e.id = some e := by
  simp [insert, get?]

/-- Popping forgets no timer. -/
@[simp] theorem entries_popDue (t : TimerTable) (now : Instant) :
    (t.popDue now).2.entries = t.entries := rfl

/-- What is popped and what stays is the whole schedule. -/
theorem popDue_append (t : TimerTable) (now : Instant) :
    (t.popDue now).1 ++ (t.popDue now).2.schedule.map (·.id) = t.schedule.map (·.id) := by
  simp [popDue, ← List.map_append]

end TimerTable

end TaskMessaging
