import TaskMessaging.Proofs.Diagnostics.Books
import TaskMessaging.Proofs.Diagnostics.Stream

/-!
# What a service is to its clients

To its clients a service is a listener: neither the semaphore nor a subscription nor a task can be
seen from outside. While the books balance, every step of the service is what a listener does that
counts its clients where the service takes permits, that publishes if it has clients where the
service looks at its subscriptions, and that sends a line as soon as the client asks for it.

So what is known of streams and records under a listener is known of them under a service, whatever
its tasks do in between.
-/

namespace TaskMessaging

open Channel (Received eq_of_receive_nothing)
open ServiceAct (ended)

namespace DiagnosticService

variable {σ : Type} {S : Semaphore σ} {available : σ → Nat} {d : DiagnosticService σ}
  {config : Config.DiagnosticsSection} {past : List ServiceAct} {t t' : ClientTask} {i : Incident}
  {n : Nat} {cause : StreamEnd}

/-- What an incident asks of the listener. -/
def requests (d : DiagnosticService σ) : Incident → List ListenerStep
  | .connect _ => if d.closed then [] else [.accept]
  | .receive n => if (d.task? n).any (·.writing.isNone) then [.receive n] else []
  | .record r => if d.closed then [] else [.record r]
  | .write _ _ | .input _ _ | .close => []

/-- What the listener does in one step of the service. -/
def shadow (S : Semaphore σ) (d : DiagnosticService σ) (i : Incident) : List ListenerStep :=
  d.requests i ++ (ended (d.step S i).1).map .detach

/-- What the listener does in a run of the service. -/
def shadows (S : Semaphore σ) (d : DiagnosticService σ) : List Incident → List ListenerStep
  | [] => []
  | i :: is => d.shadow S i ++ (d.step S i).2.shadows S is

/-! ## Tasks and clients -/

theorem listener_finish (d : DiagnosticService σ) (n : Nat) (cause : StreamEnd) :
    (d.finish S n cause).2.listener = d.listener.detach n := by
  rw [DiagnosticListener.detach]
  have hclients : (d.tasks.filter fun t ↦ t.number ≠ n).map ClientTask.client =
      (d.tasks.map ClientTask.client).filter fun c ↦ c.number ≠ n := by
    rw [List.filter_map]
    rfl
  exact congrArg (fun clients ↦ { d.listener with clients := clients }) hclients

theorem clients_listener_setTask (d : DiagnosticService σ) (t : ClientTask) :
    (d.setTask t).listener.clients =
      d.listener.clients.map fun c ↦ if c.number = t.number then t.client else c := by
  rw [listener, setTask, listener, List.map_map, List.map_map]
  refine List.map_congr_left fun u _ ↦ ?_
  rw [Function.comp_apply, Function.comp_apply]
  exact apply_ite ClientTask.client ..

theorem listener_setTask (d : DiagnosticService σ) (t : ClientTask) :
    (d.setTask t).listener = { d.listener with
      clients := d.listener.clients.map fun c ↦ if c.number = t.number then t.client else c } :=
  congrArg (fun clients ↦ { d.listener with clients := clients }) (clients_listener_setTask d t)

/-- A task that is replaced by another one with the same client does not show. -/
theorem listener_setTask_self (hnodup : d.clients.Nodup) (ht : t ∈ d.tasks)
    (hclient : t'.client = t.client) : (d.setTask t').listener = d.listener := by
  have hnumber : t'.number = t.number := congrArg DiagnosticClient.number hclient
  have hsame : (d.listener.clients.map fun c ↦ if c.number = t'.number then t'.client else c) =
      d.listener.clients := by
    refine (List.map_congr_left fun c hc ↦ ?_).trans (List.map_id _)
    obtain ⟨u, hu, rfl⟩ := List.mem_map.mp hc
    split
    · next h =>
      have hut : u = t := List.inj_on_of_nodup_map hnodup hu ht (h.trans hnumber)
      rw [hclient, hut, id]
    · rfl
  rw [listener_setTask, hsame]

theorem client?_listener (d : DiagnosticService σ) (n : Nat) :
    d.listener.client? n = (d.task? n).map ClientTask.client := by
  rw [DiagnosticListener.client?, listener, List.find?_map]
  rfl

/-- A client takes its next line as the task of the client does. -/
theorem receive_listener (ht : d.task? n = some t)
    (hclient : t'.client = (DiagnosticListener.advance d.channel t.client).1) :
    d.listener.receive n = { (d.setTask t').listener with
      lagged := d.lagged +
        UInt64.ofNat (DiagnosticListener.advance d.channel t.client).2 } := by
  have hnumber : t'.number = n := by
    have h := congrArg DiagnosticClient.number hclient
    rw [DiagnosticListener.advance_eq] at h
    exact h.trans (mem_of_task? ht).2
  rw [DiagnosticListener.receive_eq, client?_listener, ht, listener_setTask, hnumber, hclient]
  rfl

/-! ## One step -/

theorem ended_accept (d : DiagnosticService σ) (takes : Bool) :
    ended (d.accept S takes).1 = [] := by
  rw [accept]
  cases S.tryAcquire d.slots with
  | none => rfl
  | some slots => rfl

theorem listener_accept (h : Balanced available config d.ledger past)
    (hS : S.Counts available config.maxConnections.toNat) (takes : Bool) :
    (d.accept S takes).2.listener = d.listener.accept.2 := by
  have hlimit : d.maxConnections = config.maxConnections.toNat := h.limit
  have hnone := h.tryAcquire_eq_none_iff hS
  have hlength : d.listener.clients.length = d.tasks.length := List.length_map _
  have hmax : d.listener.maxConnections = d.maxConnections := rfl
  rw [accept, DiagnosticListener.accept]
  cases hslots : S.tryAcquire d.slots with
  | none =>
    have hfull := hnone.mp hslots
    rw [if_neg (by omega)]
    rfl
  | some slots =>
    have hroom : ¬ config.maxConnections.toNat ≤ d.tasks.length := by
      rw [← hnone, hslots]
      exact Option.some_ne_none slots
    rw [if_pos (by omega)]
    exact congrArg (fun clients ↦ { d.listener with
      clients := clients
      connections := d.connections + 1
      accepted := d.accepted + 1 }) (List.map_append ..)

theorem listener_record (h : Balanced available config d.ledger past) (r : MessageRecord) :
    (d.record r).listener = d.listener.record r := by
  have hsubscribers : d.subscribers = d.clients.length := h.subscribers
  have hcount : d.listener.subscribers = d.subscribers := by
    rw [hsubscribers, length_clients]
    exact List.length_map _
  rw [record, DiagnosticListener.record_eq, hcount]
  split
  · rfl
  · rfl

theorem listener_write (h : Balanced available config d.ledger past) (ht : t ∈ d.tasks)
    (takes : Bool) :
    (d.write S t takes).2.listener =
      d.listener.run ((ended (d.write S t takes).1).map .detach) := by
  rw [write]
  cases hwriting : t.writing with
  | none => rfl
  | some text =>
    cases takes with
    | true =>
      refine listener_setTask_self h.nodup_clients.of_append_right ht ?_
      rw [ClientTask.client, ClientTask.client, hwriting]
      exact congrArg (DiagnosticClient.mk t.number t.seen) (List.append_nil _)
    | false => exact listener_finish d t.number .writeFailed

theorem listener_input (d : DiagnosticService σ) (t : ClientTask) (i : ClientInput) :
    (d.input S t i).2.listener = d.listener.run ((ended (d.input S t i).1).map .detach) := by
  cases i with
  | bytes => rfl
  | hangUp => exact listener_finish d t.number .hungUp
  | failure => exact listener_finish d t.number .readFailed

theorem listener_receive (h : Balanced available config d.ledger past) (ht : d.task? n = some t)
    (hwriting : t.writing = none) :
    (d.receive S t).2.listener =
      (d.listener.receive n).run ((ended (d.receive S t).1).map .detach) := by
  have hsent : t.client = ⟨t.number, t.seen, t.sent⟩ := by
    rw [ClientTask.client, hwriting]
    exact congrArg (DiagnosticClient.mk t.number t.seen) (List.append_nil _)
  have hanswer : DiagnosticListener.advance d.channel t.client =
      (⟨t.number, (d.channel.receive t.seen).2, t.sent ++ (d.channel.receive t.seen).1.shown⟩,
        (d.channel.receive t.seen).1.gap) := by
    rw [hsent]
    exact DiagnosticListener.advance_eq d.channel _
  have hzero : d.lagged + UInt64.ofNat 0 = d.lagged := UInt64.add_zero d.lagged
  rw [receive]
  rcases hr : d.channel.receive t.seen with ⟨text | count | _, seen⟩
  · rw [hr] at hanswer
    have hclient : ({ t with seen := seen, writing := some text } : ClientTask).client =
        (DiagnosticListener.advance d.channel t.client).1 := by
      rw [hanswer]
      rfl
    rw [receive_listener ht hclient, hanswer, Received.gap, hzero]
    rfl
  · rw [hr] at hanswer
    have hclient : ({ t with seen := seen } : ClientTask).client =
        (DiagnosticListener.advance d.channel t.client).1 := by
      rw [hanswer, ClientTask.client, hwriting]
      rfl
    rw [receive_listener ht hclient, hanswer]
    rfl
  · rw [hr] at hanswer
    have hclient : t.client = (DiagnosticListener.advance d.channel t.client).1 := by
      rw [hanswer, hsent, eq_of_receive_nothing hr]
      exact congrArg (DiagnosticClient.mk t.number t.seen) (List.append_nil _).symm
    have hself := listener_setTask_self h.nodup_clients.of_append_right (mem_of_task? ht).1 rfl
    have hsame : d.listener.receive n = d.listener := by
      rw [receive_listener ht hclient, hself, hanswer, Received.gap, hzero]
      rfl
    rw [hsame]
    cases d.closed with
    | true => exact listener_finish d t.number .channelClosed
    | false => rfl

/-- **One step** of a service is what its listener does. -/
theorem listener_step (h : Balanced available config d.ledger past)
    (hS : S.Counts available config.maxConnections.toNat) (i : Incident) :
    (d.step S i).2.listener = d.listener.run (d.shadow S i) := by
  rw [shadow]
  cases i with
  | connect takes =>
    rw [requests, step]
    cases d.closed with
    | true => rfl
    | false =>
      rw [if_neg Bool.false_ne_true, if_neg Bool.false_ne_true, ended_accept]
      exact listener_accept h hS takes
  | write n takes =>
    rw [requests, step]
    cases ht : d.task? n with
    | none => rfl
    | some t => exact listener_write h (mem_of_task? ht).1 takes
  | input n i =>
    rw [requests, step]
    cases d.task? n with
    | none => rfl
    | some t =>
      rw [Option.elim_some]
      cases t.writing with
      | none => exact listener_input d t i
      | some text => rfl
  | receive n =>
    rw [requests, step]
    cases ht : d.task? n with
    | none => rfl
    | some t =>
      rw [Option.elim_some, Option.any_some]
      cases hwriting : t.writing with
      | none => exact listener_receive h ht hwriting
      | some text => rfl
  | record r =>
    rw [requests, step]
    cases d.closed with
    | true => rfl
    | false => exact listener_record h r
  | close => rfl

/-- **A run** of a service is what its listener does. -/
theorem listener_run (h : Balanced available config d.ledger past)
    (hS : S.Counts available config.maxConnections.toNat) (incidents : List Incident) :
    (d.run S incidents).listener = d.listener.run (d.shadows S incidents) := by
  induction incidents generalizing d past with
  | nil => rfl
  | cons i is ih =>
    rw [shadows, DiagnosticListener.run_append, ← listener_step h hS i]
    exact ih (h.step hS i)

end DiagnosticService

end TaskMessaging
