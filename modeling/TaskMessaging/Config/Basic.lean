import TaskMessaging.Limits

/-!
# Configuration

What can be configured, the defaults, and which values the core cannot run with. A section that is
left out keeps its defaults, and so does each field that is left out of a section.
-/

namespace TaskMessaging

/-- What the core does when a task breaks its contract. -/
inductive FatalPolicy where
  /-- Log the error and stop the process. -/
  | abort
  /-- Return the error to the caller. -/
  | report
deriving DecidableEq

namespace FatalPolicy

/-- The name in configuration files. -/
def name : FatalPolicy → String
  | .abort => "abort"
  | .report => "report"

/-- The name in logs. -/
def text : FatalPolicy → String
  | .abort => "Abort"
  | .report => "Report"

def ofName? (s : String) : Option FatalPolicy :=
  if s = "abort" then some .abort else if s = "report" then some .report else none

theorem ofName?_name (p : FatalPolicy) : ofName? p.name = some p := by
  cases p <;> decide

end FatalPolicy

namespace Config

/-- One pool to declare. -/
structure PoolSpec where
  itemCount : UInt64
  itemSize : UInt64
deriving DecidableEq

structure MailboxSection where
  capacity : UInt64
deriving DecidableEq

structure DispatcherSection where
  /-- Leave the control loop after a fault signal. -/
  stopOnFault : Bool
  /-- Block the control signals and wait for them synchronously. -/
  installSignalMask : Bool
deriving DecidableEq

structure DiagnosticsSection where
  enabled : Bool
  bindAddress : String
  port : UInt16
  maxConnections : UInt64
  /-- Records kept for a client before it skips some. -/
  buffer : UInt64
deriving DecidableEq

structure LoggingSection where
  level : String
  json : Bool
deriving DecidableEq

end Config

/-- The whole configuration. -/
structure Config where
  /-- Declared in this order. -/
  pools : List Config.PoolSpec
  mailbox : Config.MailboxSection
  dispatcher : Config.DispatcherSection
  diagnostics : Config.DiagnosticsSection
  logging : Config.LoggingSection
  fatalPolicy : FatalPolicy
deriving DecidableEq

namespace Config

/-! ## Defaults -/

def PoolSpec.defaults : List PoolSpec :=
  Limits.pools.map fun (count, size) ↦ ⟨UInt64.ofNat count, UInt64.ofNat size⟩

def MailboxSection.default : MailboxSection := ⟨UInt64.ofNat Limits.mailboxCapacity⟩

def DispatcherSection.default : DispatcherSection := ⟨false, true⟩

def DiagnosticsSection.default : DiagnosticsSection :=
  ⟨true, "0.0.0.0", Limits.diagnosticPort, UInt64.ofNat Limits.diagnosticConnections, 1024⟩

def LoggingSection.default : LoggingSection := ⟨"info", false⟩

/-- The configuration of which nothing is given. -/
def default : Config where
  pools := PoolSpec.defaults
  mailbox := .default
  dispatcher := .default
  diagnostics := .default
  logging := .default
  fatalPolicy := .abort

/-! ## Validation -/

/-- Why a configuration cannot be run. -/
inductive Invalid where
  | noPools
  | emptyPool (index : Nat) (spec : PoolSpec)
  | zeroMailboxCapacity
  | zeroMaxConnections
deriving DecidableEq

def Invalid.message : Invalid → String
  | .noPools => "at least one pool must be declared"
  | .emptyPool index spec =>
    s!"pool #{index} has zero item_count or item_size ({spec.itemCount.toNat} x {spec.itemSize.toNat})"
  | .zeroMailboxCapacity => "mailbox.capacity must be non-zero"
  | .zeroMaxConnections => "diagnostics.max_connections must be non-zero"

/-- A pool without items, or with items of no bytes. -/
def PoolSpec.isEmpty (p : PoolSpec) : Bool := p.itemCount == 0 || p.itemSize == 0

/-- The first empty pool, counting from `index`. -/
def emptyPool? : Nat → List PoolSpec → Option Invalid
  | _, [] => none
  | index, p :: ps => if p.isEmpty then some (.emptyPool index p) else emptyPool? (index + 1) ps

/-- What is wrong first: the pools, then the mailboxes, then the diagnostic listener. -/
def invalid? (c : Config) : Option Invalid :=
  if c.pools.isEmpty then some .noPools
  else
    match emptyPool? 0 c.pools with
    | some e => some e
    | none =>
      if c.mailbox.capacity = 0 then some .zeroMailboxCapacity
      else if c.diagnostics.enabled ∧ c.diagnostics.maxConnections = 0 then some .zeroMaxConnections
      else none

/-- No pool is empty exactly when the search for one fails. -/
theorem emptyPool?_eq_none {ps : List PoolSpec} {index : Nat} :
    emptyPool? index ps = none ↔ ∀ p ∈ ps, p.isEmpty = false := by
  induction ps generalizing index with
  | nil => simp [emptyPool?]
  | cons p ps ih =>
    unfold emptyPool?
    split <;> simp_all

end Config

end TaskMessaging
