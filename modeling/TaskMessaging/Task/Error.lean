import TaskMessaging.Envelope

/-!
# Task errors

Why the registry or the dispatch core refused, and why an envelope could not be enqueued. A failed
delivery hands the envelope back, so its sender keeps what it owns.
-/

namespace TaskMessaging

/-- Why an operation of the task system was refused. -/
inductive TaskError where
  | unknownTask (id : TaskId)
  /-- A task registered twice breaks the contract between the tasks. -/
  | duplicateTask (id : TaskId)
  | reservedTask (id : TaskId)
  | mailboxClosed (id : TaskId)
  | spawn (id : TaskId) (cause : String)
  /-- A mailbox without room would refuse every envelope. -/
  | zeroMailboxCapacity
  | pool (error : PoolError)
deriving DecidableEq

namespace TaskError

def isFatal : TaskError → Bool
  | .duplicateTask _ => true
  | .pool e => e.isFatal
  | _ => false

def isBackpressure : TaskError → Bool
  | .pool e => e.isBackpressure
  | _ => false

def category : TaskError → String
  | .unknownTask _ => "addressing"
  | .duplicateTask _ | .reservedTask _ => "registration"
  | .mailboxClosed _ | .spawn .. => "system"
  | .zeroMailboxCapacity => "configuration"
  | .pool e => e.category

/-- The name of the cause; errors of the pools share one. -/
def name : TaskError → String
  | .unknownTask _ => "UnknownTask"
  | .duplicateTask _ => "DuplicateTask"
  | .reservedTask _ => "ReservedTask"
  | .mailboxClosed _ => "MailboxClosed"
  | .spawn .. => "Spawn"
  | .zeroMailboxCapacity => "ZeroMailboxCapacity"
  | .pool _ => "Pool"

/-- The error of a name with the task, the cause and the fields that it may carry. -/
def ofFields? (name : String) (id : TaskId) (cause : String) (field : String → Nat) :
    Option TaskError :=
  match name with
  | "UnknownTask" => some (.unknownTask id)
  | "DuplicateTask" => some (.duplicateTask id)
  | "ReservedTask" => some (.reservedTask id)
  | "MailboxClosed" => some (.mailboxClosed id)
  | "Spawn" => some (.spawn id cause)
  | "ZeroMailboxCapacity" => some .zeroMailboxCapacity
  | _ => (PoolError.ofFields? name field).map .pool

def message : TaskError → String
  | .unknownTask id => "Unknown task " ++ id.text
  | .duplicateTask id => "Task " ++ id.text ++ " is already registered"
  | .reservedTask id => id.text ++ " is reserved for the messaging core"
  | .mailboxClosed id => "Mailbox of task " ++ id.text ++ " is closed"
  | .spawn id cause => "Failed to start thread for task " ++ id.text ++ ": " ++ cause
  | .zeroMailboxCapacity => "Mailbox capacity must be non-zero"
  | .pool e => e.message

end TaskError

/-- Why an envelope was not enqueued. -/
inductive SendFailure where
  | mailboxFull (capacity : Nat)
  | unknownDestination
  /-- Only a broadcast may address all tasks. -/
  | broadcastAddress
  | disconnected
deriving DecidableEq

namespace SendFailure

def isBackpressure : SendFailure → Bool
  | .mailboxFull _ => true
  | _ => false

/-- The name of the cause. -/
def name : SendFailure → String
  | .mailboxFull _ => "MailboxFull"
  | .unknownDestination => "UnknownDestination"
  | .broadcastAddress => "BroadcastAddress"
  | .disconnected => "Disconnected"

/-- The failure of a name with the capacity that it may carry. -/
def ofFields? (name : String) (capacity : Nat) : Option SendFailure :=
  match name with
  | "MailboxFull" => some (.mailboxFull capacity)
  | "UnknownDestination" => some .unknownDestination
  | "BroadcastAddress" => some .broadcastAddress
  | "Disconnected" => some .disconnected
  | _ => none

def message : SendFailure → String
  | .mailboxFull capacity => s!"mailbox full ({capacity} envelopes)"
  | .unknownDestination => "unknown destination task"
  | .broadcastAddress => "broadcast destination requires broadcast()"
  | .disconnected => "mailbox closed"

end SendFailure

/-- A failed delivery with the envelope that was not delivered. -/
structure SendError where
  reason : SendFailure
  envelope : Envelope
deriving DecidableEq

namespace SendError

def isBackpressure (e : SendError) : Bool := e.reason.isBackpressure

def message (e : SendError) : String :=
  "Send of " ++ e.envelope.kind.text ++ " from " ++ e.envelope.origin.text ++ " to " ++
    e.envelope.destination.text ++ " failed: " ++ e.reason.message

end SendError

end TaskMessaging
