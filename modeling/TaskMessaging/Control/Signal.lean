import TaskMessaging.Control.Event
import TaskMessaging.Log

/-!
# Signals

The six control signals are blocked in every thread and waited for by one. The orderly requests
ask for shutdown, hardware and abort signals are faults, and the keyboard interrupts.
-/

namespace TaskMessaging

/-- A signal by its number; numbers from 1 to 31 name signals. -/
structure Signal where
  number : Nat
deriving DecidableEq

namespace Signal

def ofNumber? (n : Nat) : Option Signal := if 1 ≤ n ∧ n ≤ 31 then some ⟨n⟩ else none

/-- A request of the user. -/
def interrupt : Signal := ⟨2⟩
def abort : Signal := ⟨6⟩
def bus : Signal := ⟨7⟩
def user1 : Signal := ⟨10⟩
def segmentation : Signal := ⟨11⟩
def termination : Signal := ⟨15⟩

/-- The signals that are turned into control events, with their names. -/
def controlNames : List (Signal × String) :=
  [(user1, "SIGUSR1"), (termination, "SIGTERM"), (segmentation, "SIGSEGV"), (abort, "SIGABRT"),
    (bus, "SIGBUS"), (interrupt, "SIGINT")]

def isControl (s : Signal) : Bool := controlNames.any fun (c, _) ↦ c = s

/-- Signals that do not end a process which makes no provision for them: a broken pipe, about which
the process hears from its writes, and those about children, stopping and the terminal. -/
def isHarmless (s : Signal) : Bool :=
  s.number = 13 || (17 ≤ s.number && s.number ≤ 23) || s.number = 28

/-- The event that a signal stands for. -/
def event (s : Signal) : ControlEvent :=
  if s = user1 ∨ s = termination then .shutdownRequested
  else if s = segmentation ∨ s = abort ∨ s = bus then .fault (Int32.ofNat s.number)
  else if s = interrupt then .interrupt
  else .unrecognized (Int32.ofNat s.number)

/-- What is reported when the control signals have been blocked. -/
def noteMaskInstalled : Log.Entry :=
  ⟨.info, "timers::signals", "Control signal mask installed",
    [("signals", .text ("[" ++ String.intercalate ", " (controlNames.map (·.2)) ++ "]"))]⟩

end Signal

end TaskMessaging
