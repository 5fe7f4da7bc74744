import TaskMessaging.Diagnostics.Listener

/-!
# Serving diagnostic clients

A client that is admitted takes one of the listener's slots. It is subscribed to the channel of
records and gets a task of its own, which writes a greeting and then what the subscription receives.
Between two lines it reads, for no other reason than to learn that the client hung up. However the
stream to the client ends, the task ends with it, and its subscription and its slot are given back
before anything else happens.

Slots, subscriptions and tasks are kept apart here: nothing but what the steps do makes their
numbers agree. The slots are the permits of a semaphore, which is given by what can be done with it.
-/

namespace TaskMessaging

/-- A semaphore, by what can be done with it. -/
structure Semaphore (σ : Type) where
  /-- A semaphore with so many permits. -/
  create : Nat → σ
  /-- Takes a permit without waiting for one. -/
  tryAcquire : σ → Option σ
  /-- Gives a permit back. -/
  release : σ → σ

/-- The task that serves a client. -/
structure ClientTask where
  /-- The number of the client's connection. -/
  number : Nat
  /-- How many lines of the channel its subscription has received or skipped. -/
  seen : Nat
  /-- The line that it is about to write. -/
  writing : Option String
  /-- The lines that it wrote. -/
  sent : List String
deriving DecidableEq

/-- The client of a task. The line that is about to be written counts as sent. -/
def ClientTask.client (t : ClientTask) : DiagnosticClient :=
  ⟨t.number, t.seen, t.sent ++ t.writing.toList⟩

/-- Why the stream to a client ended. -/
inductive StreamEnd where
  | writeFailed
  | hungUp
  | readFailed
  | channelClosed
deriving DecidableEq

/-- What reading from a client comes to. -/
inductive ClientInput where
  | bytes
  | hangUp
  | failure
deriving DecidableEq

/-- Something that happens to the service. -/
inductive Incident where
  /-- A connection comes. If it is turned away, it takes the line that says so, or does not. -/
  | connect (takes : Bool)
  /-- A client takes the line that its task is writing, or does not. -/
  | write (number : Nat) (takes : Bool)
  /-- The task of a client reads something. -/
  | input (number : Nat) (i : ClientInput)
  /-- The task of a client asks for its next line. -/
  | receive (number : Nat)
  | record (r : MessageRecord)
  /-- Listener and tap are gone, and the channel with them. -/
  | close
deriving DecidableEq

/-- Something that the service does. -/
inductive ServiceAct where
  | attach (number : Nat)
  | refuse (number : Nat)
  | write (number : Nat) (line : String) (taken : Bool)
  | finish (number : Nat) (cause : StreamEnd)
  /-- The connection is closed. -/
  | hangUp (number : Nat)
deriving DecidableEq

/-- The connection that an act is about. -/
def ServiceAct.number : ServiceAct → Nat
  | attach n | refuse n | write n _ _ | finish n _ | hangUp n => n

/-- A listener that serves clients. -/
structure DiagnosticService (σ : Type) where
  address : String
  maxConnections : Nat
  slots : σ
  channel : Channel
  /-- How many subscriptions to the channel there are. -/
  subscribers : Nat
  tasks : List ClientTask
  connections : Nat
  accepted : UInt64
  rejected : UInt64
  lagged : UInt64
  published : UInt64
  closed : Bool

namespace DiagnosticService

variable {σ : Type}

/-- A service without clients. -/
def create (S : Semaphore σ) (config : Config.DiagnosticsSection) : DiagnosticService σ :=
  let l := DiagnosticListener.create config
  { address := l.address
    maxConnections := l.maxConnections
    slots := S.create l.maxConnections
    channel := l.channel
    subscribers := 0
    tasks := []
    connections := 0
    accepted := 0
    rejected := 0
    lagged := 0
    published := 0
    closed := false }

/-- The listener of the service, for which the clients with a task are those that are attached. -/
def listener (d : DiagnosticService σ) : DiagnosticListener where
  address := d.address
  maxConnections := d.maxConnections
  channel := d.channel
  clients := d.tasks.map ClientTask.client
  connections := d.connections
  accepted := d.accepted
  rejected := d.rejected
  lagged := d.lagged
  published := d.published

def task? (d : DiagnosticService σ) (number : Nat) : Option ClientTask :=
  d.tasks.find? fun t ↦ t.number = number

/-- Replaces the task of a client. -/
def setTask (d : DiagnosticService σ) (t : ClientTask) : DiagnosticService σ :=
  { d with tasks := d.tasks.map fun u ↦ if u.number = t.number then t else u }

/-! ## Connections -/

/-- Decides about a connection. -/
def accept (S : Semaphore σ) (d : DiagnosticService σ) (takes : Bool) :
    List ServiceAct × DiagnosticService σ :=
  let n := d.connections
  match S.tryAcquire d.slots with
  | none =>
    ([.refuse n, .write n d.listener.rejection takes, .hangUp n],
      { d with connections := n + 1, rejected := d.rejected + 1 })
  | some slots =>
    ([.attach n], { d with
      slots := slots
      subscribers := d.subscribers + 1
      tasks := d.tasks ++ [⟨n, d.channel.published, some d.listener.greeting, []⟩]
      connections := n + 1
      accepted := d.accepted + 1 })

/-- The stream to a client ends: its task gives back the subscription and the slot. -/
def finish (S : Semaphore σ) (d : DiagnosticService σ) (number : Nat) (cause : StreamEnd) :
    List ServiceAct × DiagnosticService σ :=
  ([.finish number cause, .hangUp number], { d with
    slots := S.release d.slots
    subscribers := d.subscribers - 1
    tasks := d.tasks.filter fun t ↦ t.number ≠ number })

/-! ## The task of a client -/

/-- Writes the line that is to be written. -/
def write (S : Semaphore σ) (d : DiagnosticService σ) (t : ClientTask) (takes : Bool) :
    List ServiceAct × DiagnosticService σ :=
  match t.writing with
  | none => ([], d)
  | some line =>
    if takes then
      ([.write t.number line true], d.setTask { t with writing := none, sent := t.sent ++ [line] })
    else
      let (acts, d) := d.finish S t.number .writeFailed
      (.write t.number line false :: acts, d)

/-- Whatever the client says is ignored, but not that it says nothing any more. -/
def input (S : Semaphore σ) (d : DiagnosticService σ) (t : ClientTask) :
    ClientInput → List ServiceAct × DiagnosticService σ
  | .bytes => ([], d)
  | .hangUp => d.finish S t.number .hungUp
  | .failure => d.finish S t.number .readFailed

/-- Asks for the next line of the channel. The lines that are left come before the news that the
channel is closed. -/
def receive (S : Semaphore σ) (d : DiagnosticService σ) (t : ClientTask) :
    List ServiceAct × DiagnosticService σ :=
  match d.channel.receive t.seen with
  | (.line text, seen) => ([], d.setTask { t with seen := seen, writing := some text })
  | (.skipped count, seen) =>
    ([], { d.setTask { t with seen := seen } with lagged := d.lagged + UInt64.ofNat count })
  | (.nothing, _) => if d.closed then d.finish S t.number .channelClosed else ([], d)

/-! ## Records -/

/-- Publishes a record if there is a subscription. -/
def record (d : DiagnosticService σ) (r : MessageRecord) : DiagnosticService σ :=
  if d.subscribers = 0 then d
  else { d with channel := d.channel.publish r.line, published := d.published + 1 }

/-! ## Runs -/

/-- What the service does about an incident. A task that has a line to write does nothing else, and
without a listener nobody connects and nothing is recorded. -/
def step (S : Semaphore σ) (d : DiagnosticService σ) :
    Incident → List ServiceAct × DiagnosticService σ
  | .connect takes => if d.closed then ([], d) else d.accept S takes
  | .record r => ([], if d.closed then d else d.record r)
  | .close => ([], { d with closed := true })
  | .write n takes => (d.task? n).elim ([], d) fun t ↦ d.write S t takes
  | .input n i =>
    (d.task? n).elim ([], d) fun t ↦ if t.writing.isSome then ([], d) else d.input S t i
  | .receive n =>
    (d.task? n).elim ([], d) fun t ↦ if t.writing.isSome then ([], d) else d.receive S t

def run (S : Semaphore σ) (d : DiagnosticService σ) (incidents : List Incident) :
    DiagnosticService σ :=
  incidents.foldl (fun d i ↦ (d.step S i).2) d

/-- All that the service does in a run. -/
def acts (S : Semaphore σ) (d : DiagnosticService σ) : List Incident → List ServiceAct
  | [] => []
  | i :: is => (d.step S i).1 ++ (d.step S i).2.acts S is

end DiagnosticService

end TaskMessaging
