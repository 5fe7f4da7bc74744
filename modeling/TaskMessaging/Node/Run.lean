import TaskMessaging.Config.Load
import TaskMessaging.Control.Thread
import TaskMessaging.Diagnostics.Binding
import TaskMessaging.Heartbeat
import TaskMessaging.Node.Arguments
import TaskMessaging.Node.LogFilter

/-!
# A run of the node

The node loads its configuration, opens the diagnostic listener, builds the task system and leaves
the rest to the control thread, until a signal ends it. Then it terminates all tasks, waits for
their threads and tells what was sent. A run is a function of what the node finds when it is
started and of the signals that are sent to it; its journal is that of the main thread.
-/

namespace TaskMessaging.Node

def speaker : String := "itti_node"

def diagnosticsSpeaker : String := "itti_node::diagnostics"

/-! ## What a run needs and what it leaves -/

/-- What the node finds when it is started, and the signals sent to it while it runs. -/
structure Situation where
  arguments : List String
  /-- The files within reach, with their texts. -/
  files : List (String × String)
  environment : List (String × String)
  signals : List Signal

/-- How a run ends. -/
inductive Ending where
  | exited (code : Nat)
  | killed (signal : Signal)
  /-- The signals were not enough: the node still runs. -/
  | unfinished
deriving DecidableEq

/-- The code with which the process exits, if it does. -/
def Ending.code? : Ending → Option Nat
  | .exited code => some code
  | _ => none

/-- What a run leaves. -/
structure Outcome where
  ending : Ending
  /-- The entries of the journal are written as JSON. -/
  json : Bool
  journal : Journal
  /-- What is printed besides the journal. -/
  printed : String
  /-- The first line of what is said about an error. -/
  complaint : Option String
deriving DecidableEq

namespace Outcome

/-- A run that ends before anything is logged. -/
def early (code : Nat) (printed : String) (complaint : Option String) : Outcome :=
  ⟨.exited code, false, [], printed, complaint⟩

/-- The line about an error that ends a run. -/
def errorLine (message : String) : String := "Error: " ++ message

end Outcome

/-! ## Journal entries -/

def noteStarting (c : Config) : Log.Entry :=
  ⟨.info, speaker, "Starting ITTI node",
    [("pools", .nat c.pools.length), ("mailbox_capacity", .nat c.mailbox.capacity.toNat),
      ("fatal_policy", .text c.fatalPolicy.text)]⟩

def noteReporting : Log.Entry :=
  ⟨.warn, speaker, "Fatal errors are reported instead of aborting", []⟩

def noteNoListener : Log.Entry := ⟨.info, speaker, "Diagnostic listener disabled", []⟩

def noteRunning (s : TaskSystem) : Log.Entry :=
  ⟨.info, speaker, "ITTI node running", [("tasks", .nat s.registry.size)]⟩

def notePanicked (panicked : Nat) : Log.Entry :=
  ⟨.warn, speaker, "Some task threads panicked", [("panicked", .nat panicked)]⟩

def noteListenerStopping (l : DiagnosticListener) : Log.Entry :=
  ⟨.info, diagnosticsSpeaker, "Stopping diagnostic listener",
    [("accepted", .nat l.accepted.toNat), ("rejected", .nat l.rejected.toNat),
      ("published", .nat l.published.toNat)]⟩

def noteStopped (m : Metrics) : Log.Entry :=
  ⟨.info, speaker, "ITTI node stopped",
    [("sent", .nat m.messagesSent.toNat), ("delivered", .nat m.messagesDelivered.toNat),
      ("failed", .nat m.failed.toNat)]⟩

def noteStatistics (a : Allocator) : Log.Entry :=
  ⟨.info, speaker, "Pool statistics:\n" ++ a.statistics.text, []⟩

/-! ## Starting -/

/-- Why the node does not get as far as running, with its journal up to there. -/
structure Failure where
  /-- The complaint; there is none if the main thread panicked. -/
  message : Option String
  journal : Journal

/-- The exit code behind a failure. -/
def Failure.code (f : Failure) : Nat := if f.message.isSome then 1 else 101

/-- What is reported before anything is built. -/
def openingNotes (c : Config) : Journal :=
  (if c.dispatcher.installSignalMask then [Signal.noteMaskInstalled] else []) ++
    noteStarting c :: if c.fatalPolicy = .report then [noteReporting] else []

/-- The diagnostic listener, if there is to be one. -/
def openListener (c : Config) (a : Arguments) :
    Except Failure (Option DiagnosticListener × Journal) :=
  if c.diagnostics.enabled && !a.noDiagnostics then
    match DiagnosticListener.bind c.diagnostics with
    | .ok l => .ok (some l, [l.noteBound])
    | .error _ => .error ⟨some DiagnosticListener.startFailure, []⟩
  else .ok (none, [noteNoListener])

/-- The task system of a configuration; what it reports is its journal. -/
def buildSystem (c : Config) (tapped : Bool) : Except Failure TaskSystem :=
  match TaskSystem.configuredAllocator 0 c with
  | .error f =>
    let message := match f with
      | .refused _ => some "Failed to build message pools"
      | .panicked => none
    .error ⟨message, TaskSystem.declarePoolsNotes (.create 0 c.pools.length) c.pools⟩
  | .ok (a, notes) =>
    match TaskSystem.build a { TaskSystem.Settings.ofConfig c with tapped := tapped } with
    | .error _ => .error ⟨some "Invalid task system settings", notes⟩
    | .ok s => .ok { s with journal := notes ++ s.journal }

/-- The reading of the clock when the node starts. -/
def startTime : Instant := ⟨0⟩

/-- The period of a heartbeat in milliseconds is at least one. -/
def heartbeatPeriod (milliseconds : Nat) : Duration := .ofMilliseconds (max milliseconds 1)

/-- Spawns the heartbeat task if it was asked for. Its timer is armed on its own thread. -/
def spawnHeartbeat (a : Arguments) (s : TaskSystem) : Except Failure (TaskSystem × TimerService) :=
  match a.heartbeat with
  | none => .ok (s, .initial)
  | some period =>
    match Heartbeat.spawn s with
    | (.error _, s) => .error ⟨some Heartbeat.spawnFailure, s.journal⟩
    | (.ok _, s) =>
      match Heartbeat.arm .initial startTime (heartbeatPeriod period) with
      | .error _ => .ok (s, .initial)
      | .ok (_, timers) => .ok (s, timers)

/-- The node when it runs. -/
structure Running where
  control : ControlLoop
  listener : Option DiagnosticListener
  /-- What the main thread has reported. -/
  journal : Journal

/-- Starts the node. -/
def start (c : Config) (a : Arguments) : Except Failure Running := do
  let opening := openingNotes c
  let behind (notes : Journal) (f : Failure) : Failure := { f with journal := notes ++ f.journal }
  let (listener, notes) ← (openListener c a).mapError (behind opening)
  let s ← (buildSystem c listener.isSome).mapError (behind (opening ++ notes))
  let s := { s with journal := opening ++ notes ++ s.journal }
  let (s, timers) ← spawnHeartbeat a s
  let s := s.note (ControlThread.startNotes c.dispatcher)
  return ⟨(ControlThread.loop s timers c.dispatcher).start, listener, s.journal ++ [noteRunning s]⟩

/-! ## Signals -/

/-- How the control loop ends. -/
inductive Fate where
  | ended
  | killed (signal : Signal)
  | waiting
deriving DecidableEq

/-- The events that signals stand for, up to the first one that ends the loop or the process. A
control signal that is not blocked kills like any other. -/
def signalEvents (c : Config.DispatcherSection) : List Signal → List ControlEvent × Fate
  | [] => ([], .waiting)
  | s :: ss =>
    if s.isControl && c.installSignalMask then
      if ControlThread.isFinal c.stopOnFault s.event then ([s.event], .ended)
      else (s.event :: (signalEvents c ss).1, (signalEvents c ss).2)
    else if s.isHarmless then signalEvents c ss
    else ([], .killed s)

/-- The loop ends by itself only behind a final event. -/
theorem getLast?_signalEvents {c : Config.DispatcherSection} {ss : List Signal}
    (h : (signalEvents c ss).2 = .ended) :
    ∃ e, (signalEvents c ss).1.getLast? = some e ∧
      ControlThread.isFinal c.stopOnFault e = true := by
  induction ss with
  | nil => cases h
  | cons s ss ih =>
    unfold signalEvents at h ⊢
    split
    · split
      · exact ⟨s.event, rfl, ‹_›⟩
      · obtain ⟨e, he, hf⟩ := ih (by simp_all)
        exact ⟨e, by simp [List.getLast?_cons, he], hf⟩
    · split
      · exact ih (by simp_all)
      · simp_all

/-! ## Stopping -/

/-- Terminates all tasks behind the control loop, and answers the journal of the whole run. -/
def stop (r : Running) (s : TaskSystem) (p : Heartbeat.Progress) : Journal :=
  let (_, panicked, s) := Heartbeat.leave (s.note (ControlThread.joinNotes (.ok ()))) p
  s.journal ++ (if 0 < panicked then [notePanicked panicked] else []) ++
    r.listener.elim [] (fun l ↦ [noteListenerStopping l]) ++
    [noteStopped s.metrics, noteStatistics s.allocator]

/-! ## The whole run -/

/-- Runs the started node. The events are handled on the control thread, whose reports are not
part of the journal. -/
def Running.complete (r : Running) (c : Config) (signals : List Signal) : Ending × Journal :=
  let (events, fate) := signalEvents c.dispatcher signals
  match fate with
  | .killed s => (.killed s, r.journal)
  | .waiting => (.unfinished, r.journal)
  | .ended =>
    let (after, p) := Heartbeat.attendAll startTime events (r.control, ⟨0, false⟩)
    (.exited 0, stop r { after.system with journal := r.journal } p)

/-- The filter of the journal: that of the environment if it makes sense, else that of the command
line, else that of the configuration. -/
def filter? (x : Situation) (a : Arguments) (c : Config) : Option LogFilter :=
  match (x.environment.lookup "RUST_LOG").bind LogFilter.ofText? with
  | some f => some f
  | none => LogFilter.ofText? (a.logLevel.getD c.logging.level)

/-- Runs the node with a configuration. -/
def runWith (x : Situation) (a : Arguments) (c : Config) : Outcome :=
  match filter? x a c with
  | none => .early 1 "" (some (Outcome.errorLine "invalid filter directive"))
  | some filter =>
    match start c a with
    | .error f =>
      ⟨.exited f.code, c.logging.json, f.journal.filter filter.admits, "",
        f.message.map Outcome.errorLine⟩
    | .ok r =>
      let (ending, journal) := r.complete c x.signals
      ⟨ending, c.logging.json, journal.filter filter.admits, "", none⟩

/-- The configuration that the arguments and the environment ask for. -/
def configuration (x : Situation) (a : Arguments) : Except Config.LoadError Config :=
  Config.load (a.config.map (Config.SourceFile.find x.files)) x.environment

/-- Runs the node. There is no way to go on with a path that leads nowhere, so it ends the run like
a broken invariant. -/
def run (x : Situation) : Outcome :=
  match Command.ofArguments x.arguments with
  | .misuse => .early 2 "" (some misuseText)
  | .help => .early 0 helpText none
  | .version => .early 0 versionText none
  | .run a =>
    match configuration x a with
    | .error .position => .early 101 "" none
    | .error _ => .early 1 "" (some (Outcome.errorLine "Failed to load configuration"))
    | .ok c => runWith x a c

end TaskMessaging.Node
