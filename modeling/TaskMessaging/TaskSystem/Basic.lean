import TaskMessaging.Catalog
import TaskMessaging.Config.Basic
import TaskMessaging.Metrics
import TaskMessaging.Record
import TaskMessaging.Task.Registry

/-!
# The task system

The state that all tasks of a process share: pools, registered tasks with their mailboxes,
counters and the termination flag. An operation answers a result and the state behind it; what it
reports is appended to the journal.

A fatal error means that a task broke the contract. It is *escalated*: noted in the journal and in
the list of fatal errors. Under the abort policy the process does not survive this, so no result
of the operation is ever seen; under the report policy the error is an ordinary result.
-/

namespace TaskMessaging

/-- The shared state of all tasks. -/
structure TaskSystem where
  allocator : Allocator
  registry : Registry
  catalog : Catalog
  metrics : Metrics
  /-- Numbers the diagnostic records. -/
  sequence : IdSource
  /-- Raised once, when the process is to end. -/
  terminating : Bool
  /-- The records of all deliveries, if somebody taps them. -/
  tap : Option (List MessageRecord)
  policy : FatalPolicy
  /-- The fatal errors that were escalated. -/
  escalated : List TaskError
  journal : Journal
deriving DecidableEq

namespace TaskSystem

/-- The name under which the system speaks. -/
def speaker : String := "actors::system"

/-- The name under which fatal errors are reported. -/
def alarmSpeaker : String := "actors::fatal"

/-- Appends to the journal. -/
def note (s : TaskSystem) (entries : Journal) : TaskSystem :=
  { s with journal := s.journal ++ entries }

/-- The process did not survive an escalated error. -/
def isAborted (s : TaskSystem) : Bool := s.policy == .abort && !s.escalated.isEmpty

/-! ## Creation -/

/-- What can be chosen about a system. -/
structure Settings where
  mailboxCapacity : Nat
  policy : FatalPolicy
  catalog : Catalog
  /-- Keep the record of each delivery. -/
  tapped : Bool
  terminating : Bool

/-- The settings that are in force unless chosen otherwise. -/
def Settings.default : Settings where
  mailboxCapacity := Limits.mailboxCapacity
  policy := .abort
  catalog := .builtin
  tapped := false
  terminating := false

/-- A system without tasks on top of an allocator. Only a mailbox without room is refused. -/
def build (allocator : Allocator) (settings : Settings) : Except TaskError TaskSystem :=
  if settings.mailboxCapacity = 0 then .error .zeroMailboxCapacity
  else .ok {
    allocator := allocator
    registry := .create settings.mailboxCapacity
    catalog := settings.catalog
    metrics := .zero
    sequence := .initial
    terminating := settings.terminating
    tap := if settings.tapped then some [] else none
    policy := settings.policy
    escalated := []
    journal := [⟨.info, speaker, "Task system created",
      [("pools", .nat allocator.poolCount), ("mailbox_capacity", .nat settings.mailboxCapacity),
        ("fatal_policy", .text settings.policy.text),
        ("diagnostics_tap", .bool settings.tapped)]⟩] }

/-- Declares pools one after the other. -/
def declarePools (a : Allocator) :
    List Config.PoolSpec → Except (DeclareFailure TaskError) Allocator
  | [] => .ok a
  | p :: ps =>
    match a.addPool p.itemCount.toNat p.itemSize.toNat with
    | (.error f, _) => .error (f.map .pool)
    | (.ok _, b) => declarePools b ps

/-- What declaring pools reports, up to the declaration that fails. -/
def declarePoolsNotes (a : Allocator) : List Config.PoolSpec → Journal
  | [] => []
  | p :: ps =>
    a.addPoolNotes p.itemCount.toNat p.itemSize.toNat ++
      match a.addPool p.itemCount.toNat p.itemSize.toNat with
      | (.error _, _) => []
      | (.ok _, b) => declarePoolsNotes b ps

/-- The configured pools, in an allocator that is made for exactly these. -/
def configuredAllocator (context : UInt64) (c : Config) :
    Except (DeclareFailure TaskError) (Allocator × Journal) :=
  let a := Allocator.create context c.pools.length
  (declarePools a c.pools).map fun b ↦ (b, declarePoolsNotes a c.pools)

/-- The settings that a configuration asks for. -/
def Settings.ofConfig (c : Config) : Settings :=
  { Settings.default with
    mailboxCapacity := c.mailbox.capacity.toNat
    policy := c.fatalPolicy }

/-- The system that a configuration asks for. -/
def ofConfig (context : UInt64) (c : Config) : Except (DeclareFailure TaskError) TaskSystem := do
  let (a, _) ← configuredAllocator context c
  (build a (.ofConfig c)).mapError .refused

/-! ## Escalation -/

/-- Reports an error if it is fatal. -/
def escalate (s : TaskSystem) (e : TaskError) : TaskSystem :=
  if e.isFatal then
    { s with
      escalated := s.escalated ++ [e]
      journal := s.journal ++ [⟨.error, alarmSpeaker,
        match s.policy with
        | .abort => "Fatal contract violation, aborting"
        | .report => "Fatal contract violation",
        [("error", .text e.message)]⟩] }
  else s

/-! ## Tasks -/

/-- Registers a task. Registering it twice is fatal. -/
def registerTask (s : TaskSystem) (id : TaskId) (name : String) :
    Except TaskError Task × TaskSystem :=
  match s.registry.register id name with
  | .ok (t, r) => (.ok t, { s with registry := r }.note [Registry.noteRegistered t])
  | .error e => (.error e, s.escalate e)

/-- Ends a registration and answers the task that was registered. -/
def unregisterTask (s : TaskSystem) (id : TaskId) : Option Task × TaskSystem :=
  match s.registry.unregister id with
  | (some t, r) => (some t, { s with registry := r }.note [Registry.noteUnregistered t])
  | (none, _) => (none, s)

/-- A task that has to be registered. -/
def lookup (s : TaskSystem) (id : TaskId) : Except TaskError Task × TaskSystem :=
  match s.registry.find? id with
  | some t => (.ok t, s)
  | none => (.error (.unknownTask id), s.note [Registry.noteUnknown id])

/-! ## Items -/

/-- Allocates an item. -/
def allocate (s : TaskSystem) (size : Nat) (tags : Tags) :
    Except TaskError ItemHandle × TaskSystem :=
  match s.allocator.allocate size tags with
  | (.ok h, a) => (.ok h, { s with allocator := a }.note (s.allocator.allocateNotes size tags))
  | (.error e, a) =>
    (.error (.pool e), { s with allocator := a }.note (s.allocator.allocateNotes size tags))

/-- Returns an item. A handle that may not be used is fatal. -/
def free (s : TaskSystem) (h : ItemHandle) (releaseTag : UInt16) :
    Except TaskError Unit × TaskSystem :=
  match s.allocator.free h releaseTag with
  | .ok a => (.ok (), { s with allocator := a }.note (s.allocator.freeNotes h releaseTag))
  | .error e =>
    (.error (.pool e), (s.note (s.allocator.freeNotes h releaseTag)).escalate (.pool e))

/-- Releases the payload of an envelope if it owns one. -/
def releaseEnvelope (s : TaskSystem) (e : Envelope) : Except TaskError Unit × TaskSystem :=
  match e.release s.allocator with
  | .ok a => (.ok (), { s with allocator := a }.note (e.releaseNotes s.allocator))
  | .error err =>
    (.error (.pool err), (s.note (e.releaseNotes s.allocator)).escalate (.pool err))

/-! ## Termination -/

/-- Raises the termination flag; only the first request is reported. -/
def requestShutdown (s : TaskSystem) : TaskSystem :=
  if s.terminating then s
  else { s with terminating := true }.note [⟨.info, speaker, "Shutdown requested", []⟩]

/-! ## Displays -/

def text (s : TaskSystem) : String :=
  "TaskSystem \x7b tasks: " ++ Decimal.text s.registry.size ++ ", pools: " ++
    Decimal.text s.allocator.poolCount ++ ", terminating: " ++
    (if s.terminating then "true" else "false") ++ " \x7d"

end TaskSystem

end TaskMessaging
