/-!
# Delivery counters

Each counter counts one kind of event since the system was created, modulo 2^64.
-/

namespace TaskMessaging

/-- The counters of a task system. -/
structure Metrics where
  tasksSpawned : UInt64
  /-- Attempts to deliver one envelope. -/
  messagesSent : UInt64
  messagesDelivered : UInt64
  mailboxFullEvents : UInt64
  unknownDestinations : UInt64
  broadcasts : UInt64
  /-- Recipients that a broadcast did not reach. -/
  broadcastFailures : UInt64
  /-- Delivered envelopes that report the expiry of a timer. -/
  timerEnvelopes : UInt64
deriving DecidableEq

namespace Metrics

def zero : Metrics := ⟨0, 0, 0, 0, 0, 0, 0, 0⟩

def recordSendAttempt (m : Metrics) : Metrics := { m with messagesSent := m.messagesSent + 1 }

def recordDelivered (m : Metrics) (timer : Bool) : Metrics :=
  { m with
    messagesDelivered := m.messagesDelivered + 1
    timerEnvelopes := if timer then m.timerEnvelopes + 1 else m.timerEnvelopes }

def recordMailboxFull (m : Metrics) : Metrics :=
  { m with mailboxFullEvents := m.mailboxFullEvents + 1 }

def recordUnknownDestination (m : Metrics) : Metrics :=
  { m with unknownDestinations := m.unknownDestinations + 1 }

def recordBroadcast (m : Metrics) (failed : Nat) : Metrics :=
  { m with
    broadcasts := m.broadcasts + 1
    broadcastFailures := m.broadcastFailures + UInt64.ofNat failed }

def recordTaskSpawned (m : Metrics) : Metrics := { m with tasksSpawned := m.tasksSpawned + 1 }

/-- Attempts that did not end in a mailbox. -/
def failed (m : Metrics) : UInt64 :=
  if m.messagesSent < m.messagesDelivered then 0 else m.messagesSent - m.messagesDelivered

/-- All counters, in the order of their declaration. -/
def toList (m : Metrics) : List UInt64 :=
  [m.tasksSpawned, m.messagesSent, m.messagesDelivered, m.mailboxFullEvents,
    m.unknownDestinations, m.broadcasts, m.broadcastFailures, m.timerEnvelopes]

end Metrics

end TaskMessaging
