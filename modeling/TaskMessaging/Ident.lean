import TaskMessaging.Json.Parse
import TaskMessaging.Json.Render

/-!
# Identifiers

Tasks, message kinds and timers are named by small numbers. Each has a type of its own, so that a
kind is never taken for a task. In JSON an identifier is its bare number; a destination is the
word `broadcast` or an object that names the task.
-/

namespace TaskMessaging

/-- A task of the process. -/
structure TaskId where
  number : UInt16
deriving DecidableEq

/-- What a message means, drawn from an enumeration that the tasks agree on. -/
structure MessageKind where
  number : UInt16
deriving DecidableEq

/-- An armed timer. -/
structure TimerId where
  number : UInt64
deriving DecidableEq

instance : Inhabited TaskId := ⟨⟨0⟩⟩
instance : Inhabited MessageKind := ⟨⟨0⟩⟩
instance : Inhabited TimerId := ⟨⟨0⟩⟩

/-- What is wrong with a number that was offered as an identifier. -/
inductive IdError where
  /-- Zero names nothing. -/
  | null
deriving DecidableEq

def IdError.message : IdError → String
  | .null => "identifier must be non-zero"

/-! ## Tasks -/

namespace TaskId

/-- The messaging core itself: the origin of timer, fault and terminate messages. It is never
registered. -/
def core : TaskId := ⟨0⟩

def isNull (id : TaskId) : Bool := id.number == 0

/-- An identifier, provided it is not zero. -/
def validated? (n : UInt16) : Except IdError TaskId := if n = 0 then .error .null else .ok ⟨n⟩

def text (id : TaskId) : String := "TaskId(" ++ Decimal.text id.number.toNat ++ ")"

def toJson (id : TaskId) : Json.Value := .nat id.number.toNat

def ofJson? (v : Json.Value) : Option TaskId := v.uint16?.map TaskId.mk

/-- The identifier that a JSON text holds. -/
def ofJsonText? (text : String) : Option TaskId := (Json.Value.parse? text).bind ofJson?

end TaskId

/-! ## Message kinds -/

namespace MessageKind

/-- A timer fired. -/
def timerExpired : MessageKind := ⟨1⟩

/-- Asks every task to leave its loop. -/
def terminate : MessageKind := ⟨2⟩

/-- A fault signal was captured. -/
def faultReported : MessageKind := ⟨3⟩

/-- The first kind that tasks may use among themselves. -/
def firstUser : MessageKind := ⟨16⟩

def isNull (kind : MessageKind) : Bool := kind.number == 0

/-- Kinds below the first user kind are emitted by the core. -/
def isBuiltin (kind : MessageKind) : Bool := kind.number < firstUser.number

def validated? (n : UInt16) : Except IdError MessageKind := if n = 0 then .error .null else .ok ⟨n⟩

def text (kind : MessageKind) : String := "MessageKind(" ++ Decimal.text kind.number.toNat ++ ")"

def toJson (kind : MessageKind) : Json.Value := .nat kind.number.toNat

def ofJson? (v : Json.Value) : Option MessageKind := v.uint16?.map MessageKind.mk

/-- The kind that a JSON text holds. -/
def ofJsonText? (text : String) : Option MessageKind := (Json.Value.parse? text).bind ofJson?

end MessageKind

/-! ## Timers -/

namespace TimerId

def isNull (id : TimerId) : Bool := id.number == 0

def validated? (n : UInt64) : Except IdError TimerId := if n = 0 then .error .null else .ok ⟨n⟩

def text (id : TimerId) : String := "TimerId(" ++ Decimal.text id.number.toNat ++ ")"

def toJson (id : TimerId) : Json.Value := .nat id.number.toNat

def ofJson? (v : Json.Value) : Option TimerId := v.uint64?.map TimerId.mk

/-- The identifier that a JSON text holds. -/
def ofJsonText? (text : String) : Option TimerId := (Json.Value.parse? text).bind ofJson?

end TimerId

/-! ## Destinations -/

/-- Where an envelope is to go. -/
inductive Destination where
  | task (id : TaskId)
  | broadcast
deriving DecidableEq

namespace Destination

/-- The one task that is addressed, if it is one. -/
def task? : Destination → Option TaskId
  | .task id => some id
  | .broadcast => none

def isBroadcast : Destination → Bool
  | .task _ => false
  | .broadcast => true

def text : Destination → String
  | .task id => id.text
  | .broadcast => "broadcast"

def toJson : Destination → Json.Value
  | .task id => .object [("task", id.toJson)]
  | .broadcast => .text "broadcast"

/-- The word, or an object with exactly one member: `broadcast` with null or `task` with an
identifier. -/
def ofJson? : Json.Value → Option Destination
  | .text "broadcast" => some .broadcast
  | .object [("broadcast", .null)] => some .broadcast
  | .object [("task", v)] => (TaskId.ofJson? v).map .task
  | _ => none

/-- The destination that a JSON text names. -/
def ofJsonText? (text : String) : Option Destination := (Json.Value.parse? text).bind ofJson?

end Destination

/-! ## Fresh identifiers -/

/-- Hands out consecutive numbers. The count wraps at 2^64. -/
structure IdSource where
  next : UInt64
deriving DecidableEq

namespace IdSource

/-- Starts at one, so that zero stays unused until the count has wrapped. -/
def initial : IdSource := ⟨1⟩

/-- The next number, and the source behind it. -/
def take (s : IdSource) : UInt64 × IdSource := (s.next, ⟨s.next + 1⟩)

@[simp] theorem take_fst (s : IdSource) : s.take.1 = s.next := rfl
@[simp] theorem take_snd (s : IdSource) : s.take.2 = ⟨s.next + 1⟩ := rfl

end IdSource

end TaskMessaging
