import TaskMessaging.Config.Basic
import TaskMessaging.Diagnostics.Channel
import TaskMessaging.Log
import TaskMessaging.Record

/-!
# The diagnostic listener

Clients connect to be told about every delivered envelope, one line of JSON for each. As many
clients as are configured are served at a time; one more is told so and turned away. A client is
greeted with a line of its own and then receives the records that are made while it is attached.
Records are written down only while somebody is attached.
-/

namespace TaskMessaging

/-- An attached client. -/
structure DiagnosticClient where
  number : Nat
  /-- How many lines of the channel it has received or skipped. -/
  seen : Nat
  /-- The lines that were sent to it. -/
  sent : List String
deriving DecidableEq

/-- The listener with its clients and counters. -/
structure DiagnosticListener where
  address : String
  maxConnections : Nat
  channel : Channel
  clients : List DiagnosticClient
  /-- How many connections there were, those turned away included. -/
  connections : Nat
  accepted : UInt64
  rejected : UInt64
  /-- Records that clients skipped because they fell behind. -/
  lagged : UInt64
  /-- Records that were written down for clients. -/
  published : UInt64
deriving DecidableEq

/-- What becomes of a connection. -/
inductive Admission where
  | attached (client : DiagnosticClient)
  /-- The one line that is sent before the connection is closed. -/
  | refused (line : String)

namespace DiagnosticListener

/-! ## Creation -/

/-- The name of the service in greetings, and its version. -/
def service : String := "itti-diagnostics"

def version : String := "0.1.0"

/-- A host and a port as one text. -/
def addressText (host : String) (port : UInt16) : String :=
  host ++ ":" ++ Decimal.text port.toNat

/-- A listener without clients. -/
def create (config : Config.DiagnosticsSection) : DiagnosticListener where
  address := addressText config.bindAddress config.port
  maxConnections := config.maxConnections.toNat
  channel := .create config.buffer.toNat
  clients := []
  connections := 0
  accepted := 0
  rejected := 0
  lagged := 0
  published := 0

/-- How many clients are attached. -/
def subscribers (l : DiagnosticListener) : Nat := l.clients.length

/-! ## Lines -/

/-- What an attached client is told first. -/
def greeting (l : DiagnosticListener) : String :=
  (Json.Value.object [("service", .text service), ("version", .text version),
    ("max_connections", .nat l.maxConnections)]).toText

/-- What a client is told that is turned away. -/
def rejection (l : DiagnosticListener) : String :=
  (Json.Value.object [("error", .text "too many diagnostic connections"),
    ("max_connections", .nat l.maxConnections)]).toText

/-! ## Clients -/

/-- Decides about a connection. Connections are numbered in the order in which they come, those
turned away included. -/
def accept (l : DiagnosticListener) : Admission × DiagnosticListener :=
  if l.clients.length < l.maxConnections then
    let client : DiagnosticClient := ⟨l.connections, l.channel.published, [l.greeting]⟩
    (.attached client, { l with
      clients := l.clients ++ [client]
      connections := l.connections + 1
      accepted := l.accepted + 1 })
  else (.refused l.rejection, { l with
    connections := l.connections + 1
    rejected := l.rejected + 1 })

def client? (l : DiagnosticListener) (number : Nat) : Option DiagnosticClient :=
  l.clients.find? fun c ↦ c.number = number

/-- Ends the attachment of a client. -/
def detach (l : DiagnosticListener) (number : Nat) : DiagnosticListener :=
  { l with clients := l.clients.filter fun c ↦ c.number ≠ number }

/-! ## Records -/

/-- Publishes a record if anybody is attached. -/
def record (l : DiagnosticListener) (r : MessageRecord) : DiagnosticListener :=
  if l.clients.isEmpty then l
  else { l with channel := l.channel.publish r.line, published := l.published + 1 }

/-- Publishes records in turn. -/
def recordAll (l : DiagnosticListener) (rs : List MessageRecord) : DiagnosticListener :=
  rs.foldl record l

/-- One client takes its next line; the number of lines that it skipped is counted. -/
def advance (channel : Channel) (c : DiagnosticClient) : DiagnosticClient × Nat :=
  match channel.receive c.seen with
  | (.line text, seen) => ({ c with seen := seen, sent := c.sent ++ [text] }, 0)
  | (.skipped count, seen) => ({ c with seen := seen }, count)
  | (.nothing, _) => (c, 0)

/-- A client takes its next line. -/
def receive (l : DiagnosticListener) (number : Nat) : DiagnosticListener :=
  match l.client? number with
  | none => l
  | some c =>
    let (c, skipped) := advance l.channel c
    { l with
      clients := l.clients.map fun d ↦ if d.number = number then c else d
      lagged := l.lagged + UInt64.ofNat skipped }

/-- A client takes so many lines. -/
def receiveMany (l : DiagnosticListener) (number : Nat) : Nat → DiagnosticListener
  | 0 => l
  | n + 1 => (l.receive number).receiveMany number n

/-- Every client takes all lines that it has not seen. -/
def drain (l : DiagnosticListener) : DiagnosticListener :=
  l.clients.foldl (fun l c ↦ l.receiveMany c.number (l.channel.kept.length + 1)) l

/-! ## Journal entries -/

def speaker : String := "trace_collector::listener"

def noteBound (l : DiagnosticListener) : Log.Entry :=
  ⟨.info, speaker, "Diagnostic listener bound",
    [("address", .text l.address), ("max_connections", .nat l.maxConnections)]⟩

/-! ## Laws -/

/-- A connection is admitted exactly while fewer clients are attached than may be. -/
theorem accept_attached_iff (l : DiagnosticListener) :
    (∃ c, l.accept.1 = .attached c) ↔ l.subscribers < l.maxConnections := by
  unfold accept subscribers
  split <;> simp_all

/-- Without clients a record leaves no trace. -/
theorem record_of_no_clients {l : DiagnosticListener} (h : l.clients = []) (r : MessageRecord) :
    l.record r = l := by
  simp [record, h]

end DiagnosticListener

end TaskMessaging
