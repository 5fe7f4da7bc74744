import Mathlib.Data.List.Nodup
import Mathlib.Data.List.Range
import TaskMessaging.Diagnostics.Service

/-!
# The books of a diagnostic service

Whether a connection is admitted is decided by the semaphore alone, which knows nothing of tasks and
subscriptions. That its permits are those of the clients that are not attached is a fact about runs:
a permit that some end of a stream forgot would be missing from then on, and one that was given back
twice would let in a client too many.

A run is looked at through what the service *does*, and what it does is entered into its *books*.
One step enters little: nothing, a line that a client took, a client that is attached, one that is
refused, or a stream that ended. The books balance at the beginning, and each of these five entries
keeps them balanced.
-/

namespace TaskMessaging

/-- The semaphore counts its permits, of which there are so many. -/
structure Semaphore.Counts {σ : Type} (S : Semaphore σ) (available : σ → Nat) (limit : Nat) :
    Prop where
  create : available (S.create limit) = limit
  /-- There is a permit unless all are taken. -/
  refused : ∀ s, S.tryAcquire s = none → available s = 0
  acquired : ∀ s s', S.tryAcquire s = some s' → available s = available s' + 1
  /-- Permits that were taken can be given back. -/
  release : ∀ s, available s < limit → available (S.release s) = available s + 1

namespace ServiceAct

variable {acts more : List ServiceAct} {n : Nat}

/-! ## What is read off acts -/

/-- The connections that were admitted. -/
def attached (acts : List ServiceAct) : List Nat :=
  acts.filterMap fun
    | .attach n => some n
    | _ => none

/-- The connections that were turned away. -/
def refused (acts : List ServiceAct) : List Nat :=
  acts.filterMap fun
    | .refuse n => some n
    | _ => none

/-- The connections whose streams ended. -/
def ended (acts : List ServiceAct) : List Nat :=
  acts.filterMap fun
    | .finish n _ => some n
    | _ => none

/-- The acts that are about a connection. -/
def about (acts : List ServiceAct) (n : Nat) : List ServiceAct := acts.filter (·.number = n)

theorem attached_append (acts more : List ServiceAct) :
    attached (acts ++ more) = attached acts ++ attached more := List.filterMap_append

theorem refused_append (acts more : List ServiceAct) :
    refused (acts ++ more) = refused acts ++ refused more := List.filterMap_append

theorem ended_append (acts more : List ServiceAct) :
    ended (acts ++ more) = ended acts ++ ended more := List.filterMap_append

theorem attached_append_of_nil (acts : List ServiceAct) (h : attached more = []) :
    attached (acts ++ more) = attached acts := by
  rw [attached_append, h, List.append_nil]

theorem refused_append_of_nil (acts : List ServiceAct) (h : refused more = []) :
    refused (acts ++ more) = refused acts := by
  rw [refused_append, h, List.append_nil]

theorem ended_append_of_nil (acts : List ServiceAct) (h : ended more = []) :
    ended (acts ++ more) = ended acts := by
  rw [ended_append, h, List.append_nil]

theorem about_append (acts more : List ServiceAct) (n : Nat) :
    about (acts ++ more) n = about acts n ++ about more n := List.filter_append ..

theorem about_eq_nil (h : ∀ a ∈ acts, a.number ≠ n) : about acts n = [] := by
  rw [about, List.filter_eq_nil_iff]
  intro a ha
  rw [decide_eq_true_iff]
  exact h a ha

theorem about_eq_self (h : ∀ a ∈ acts, a.number = n) : about acts n = acts := by
  rw [about, List.filter_eq_self]
  intro a ha
  rw [decide_eq_true_iff]
  exact h a ha

theorem mem_ended {cause : StreamEnd} (h : .finish n cause ∈ acts) : n ∈ ended acts :=
  List.mem_filterMap.mpr ⟨_, h, rfl⟩

theorem eq_of_finish_mem {m : Nat} {cause cause' : StreamEnd}
    (h : finish n cause ∈ [finish m cause', hangUp m]) : n = m ∧ cause = cause' := by
  rw [List.mem_pair, finish.injEq] at h
  exact h.resolve_right nofun

/-- All that is done about a connection that is turned away. -/
def refusal (l : DiagnosticListener) (n : Nat) (takes : Bool) : List ServiceAct :=
  [.refuse n, .write n l.rejection takes, .hangUp n]

theorem number_of_mem_refusal {l : DiagnosticListener} {takes : Bool} {a : ServiceAct}
    (h : a ∈ refusal l n takes) : a.number = n := by
  rw [refusal, List.mem_cons, List.mem_pair] at h
  rcases h with rfl | rfl | rfl
  · rfl
  · rfl
  · rfl

/-- The end of a stream, before which a line may have been lost, is about one client. -/
theorem number_of_mem_ending {cause : StreamEnd} {lost : List ServiceAct} {a : ServiceAct}
    (hlost : lost = [] ∨ ∃ text, lost = [.write n text false])
    (h : a ∈ lost ++ [.finish n cause, .hangUp n]) : a.number = n := by
  rcases List.mem_append.mp h with hbefore | hend
  · rcases hlost with rfl | ⟨text, rfl⟩
    · exact absurd hbefore List.not_mem_nil
    · obtain rfl := List.mem_singleton.mp hbefore
      rfl
  · rcases List.mem_pair.mp hend with rfl | rfl
    · rfl
    · rfl

end ServiceAct

open ServiceAct (attached refused ended about refusal)

/-- What the books of a service say. -/
structure Ledger (σ : Type) where
  limit : Nat
  slots : σ
  subscribers : Nat
  /-- The connections of the clients that have a task. -/
  clients : List Nat
  connections : Nat
  accepted : UInt64
  rejected : UInt64

namespace DiagnosticListener

theorem rejection_congr {l m : DiagnosticListener} (h : l.maxConnections = m.maxConnections) :
    l.rejection = m.rejection := by
  rw [rejection, rejection, h]

end DiagnosticListener

namespace DiagnosticService

variable {σ : Type} {S : Semaphore σ} {available : σ → Nat} {d : DiagnosticService σ}
  {config : Config.DiagnosticsSection} {b : Ledger σ} {past acts : List ServiceAct}
  {t : ClientTask} {i : Incident} {n : Nat}

/-- The connections of the clients that have a task. -/
def clients (d : DiagnosticService σ) : List Nat := d.tasks.map (·.number)

theorem length_clients (d : DiagnosticService σ) : d.clients.length = d.tasks.length :=
  List.length_map _

def ledger (d : DiagnosticService σ) : Ledger σ :=
  ⟨d.maxConnections, d.slots, d.subscribers, d.clients, d.connections, d.accepted, d.rejected⟩

/-! ## Entries -/

/-- What a step can do, and what the books say after it. -/
inductive Enters (S : Semaphore σ) (d : DiagnosticService σ) :
    List ServiceAct → Ledger σ → Prop where
  | nothing : Enters S d [] d.ledger
  | written {n : Nat} {text : String} (hn : n ∈ d.clients) :
    Enters S d [.write n text true] d.ledger
  | admitted {slots : σ} (hslots : S.tryAcquire d.slots = some slots) :
    Enters S d [.attach d.connections] { d.ledger with
      slots := slots
      subscribers := d.subscribers + 1
      clients := d.clients ++ [d.connections]
      connections := d.connections + 1
      accepted := d.accepted + 1 }
  | turnedAway {takes : Bool} (hslots : S.tryAcquire d.slots = none) :
    Enters S d (refusal d.listener d.connections takes) { d.ledger with
      connections := d.connections + 1
      rejected := d.rejected + 1 }
  /-- A line that was not taken may come before the end. -/
  | left {n : Nat} {cause : StreamEnd} {lost : List ServiceAct} (hn : n ∈ d.clients)
      (hlost : lost = [] ∨ ∃ text, lost = [.write n text false]) :
    Enters S d (lost ++ [.finish n cause, .hangUp n]) { d.ledger with
      slots := S.release d.slots
      subscribers := d.subscribers - 1
      clients := d.clients.filter (· ≠ n) }

theorem mem_of_task? (h : d.task? n = some t) : t ∈ d.tasks ∧ t.number = n := by
  rw [task?] at h
  have hn := List.find?_some h
  exact ⟨List.mem_of_find?_eq_some h, of_decide_eq_true hn⟩

theorem mem_clients_of_task? (h : d.task? n = some t) : t.number ∈ d.clients :=
  List.mem_map_of_mem (mem_of_task? h).1

/-- A task that is replaced keeps its number. -/
theorem clients_setTask (d : DiagnosticService σ) (t : ClientTask) :
    (d.setTask t).clients = d.clients := by
  rw [clients, setTask, List.map_map]
  refine List.map_congr_left fun u _ ↦ ?_
  rw [Function.comp_apply]
  split
  · next h => exact h.symm
  · rfl

theorem ledger_setTask (d : DiagnosticService σ) (t : ClientTask) :
    (d.setTask t).ledger = d.ledger :=
  congrArg (fun clients ↦ { d.ledger with clients := clients }) (clients_setTask d t)

theorem clients_finish (d : DiagnosticService σ) (n : Nat) (cause : StreamEnd) :
    (d.finish S n cause).2.clients = d.clients.filter (· ≠ n) := by
  rw [clients, clients, List.filter_map]
  rfl

theorem ledger_finish (d : DiagnosticService σ) (n : Nat) (cause : StreamEnd) :
    (d.finish S n cause).2.ledger = { d.ledger with
      slots := S.release d.slots
      subscribers := d.subscribers - 1
      clients := d.clients.filter (· ≠ n) } :=
  congrArg (fun clients ↦ { (d.finish S n cause).2.ledger with clients := clients })
    (clients_finish d n cause)

theorem enters_finish (h : n ∈ d.clients) (cause : StreamEnd) :
    Enters S d (d.finish S n cause).1 (d.finish S n cause).2.ledger := by
  rw [ledger_finish]
  exact .left h (Or.inl rfl)

theorem enters_accept (d : DiagnosticService σ) (takes : Bool) :
    Enters S d (d.accept S takes).1 (d.accept S takes).2.ledger := by
  rw [accept]
  cases hslots : S.tryAcquire d.slots with
  | none => exact .turnedAway hslots
  | some slots =>
    simpa only [ledger, clients, List.map_append, List.map_cons, List.map_nil] using
      Enters.admitted hslots

theorem enters_write (h : t.number ∈ d.clients) (takes : Bool) :
    Enters S d (d.write S t takes).1 (d.write S t takes).2.ledger := by
  rw [write]
  cases t.writing with
  | none => exact .nothing
  | some text =>
    cases takes with
    | true =>
      have hwritten : Enters S d [.write t.number text true]
          (d.setTask { t with writing := none, sent := t.sent ++ [text] }).ledger := by
        rw [ledger_setTask]
        exact .written h
      exact hwritten
    | false =>
      have hleft : Enters S d (.write t.number text false :: (d.finish S t.number .writeFailed).1)
          (d.finish S t.number .writeFailed).2.ledger := by
        rw [ledger_finish]
        exact .left h (Or.inr ⟨text, rfl⟩)
      exact hleft

theorem enters_input (h : t.number ∈ d.clients) (i : ClientInput) :
    Enters S d (d.input S t i).1 (d.input S t i).2.ledger := by
  cases i with
  | bytes => exact .nothing
  | hangUp => exact enters_finish h .hungUp
  | failure => exact enters_finish h .readFailed

theorem enters_receive (h : t.number ∈ d.clients) :
    Enters S d (d.receive S t).1 (d.receive S t).2.ledger := by
  rw [receive]
  rcases d.channel.receive t.seen with ⟨text | count | _, seen⟩
  · rw [ledger_setTask]
    exact .nothing
  · have hsame := ledger_setTask d { t with seen := seen }
    have hledger : { d.setTask { t with seen := seen } with
        lagged := d.lagged + UInt64.ofNat count }.ledger = d.ledger := hsame
    rw [hledger]
    exact .nothing
  · cases d.closed with
    | true => exact enters_finish h .channelClosed
    | false => exact .nothing

theorem ledger_record (d : DiagnosticService σ) (r : MessageRecord) :
    (d.record r).ledger = d.ledger := by
  rw [record]
  split
  · rfl
  · rfl

/-- What the service does about a client leaves an entry, whatever that is, if it does for every
client that has a task. -/
theorem enters_elim {f : ClientTask → List ServiceAct × DiagnosticService σ}
    (h : ∀ t, d.task? n = some t → Enters S d (f t).1 (f t).2.ledger) :
    Enters S d ((d.task? n).elim ([], d) f).1 ((d.task? n).elim ([], d) f).2.ledger := by
  cases ht : d.task? n with
  | none => exact .nothing
  | some t => exact h t ht

/-- **One step** enters one of five things. -/
theorem enters_step (S : Semaphore σ) (d : DiagnosticService σ) (i : Incident) :
    Enters S d (d.step S i).1 (d.step S i).2.ledger := by
  cases i with
  | connect takes =>
    rw [step]
    split
    · exact .nothing
    · exact enters_accept d takes
  | write n takes => exact enters_elim fun t ht ↦ enters_write (mem_clients_of_task? ht) takes
  | input n i =>
    refine enters_elim fun t ht ↦ ?_
    split
    · exact .nothing
    · exact enters_input (mem_clients_of_task? ht) i
  | receive n =>
    refine enters_elim fun t ht ↦ ?_
    split
    · exact .nothing
    · exact enters_receive (mem_clients_of_task? ht)
  | record r =>
    rw [step]
    split
    · exact .nothing
    · rw [ledger_record]
      exact .nothing
  | close => exact .nothing

/-! ## Balance -/

/-- The books of a service balance after all that it did. -/
structure Balanced (available : σ → Nat) (config : Config.DiagnosticsSection) (b : Ledger σ)
    (past : List ServiceAct) : Prop where
  limit : b.limit = config.maxConnections.toNat
  /-- A slot is free or taken by a client. -/
  slots : available b.slots + b.clients.length = b.limit
  subscribers : b.subscribers = b.clients.length
  /-- A connection that was admitted has a task until its stream ends. -/
  clients : (attached past).Perm (ended past ++ b.clients)
  /-- A connection was either admitted or turned away. -/
  connections : (attached past ++ refused past).Perm (List.range b.connections)
  accepted : b.accepted = UInt64.ofNat (attached past).length
  rejected : b.rejected = UInt64.ofNat (refused past).length
  known : ∀ a ∈ past, a.number < b.connections
  refusals : ∀ n ∈ refused past, ∃ takes, about past n = refusal (.create config) n takes

namespace Balanced

theorem nodup (h : Balanced available config b past) : (attached past ++ refused past).Nodup :=
  h.connections.nodup_iff.mpr List.nodup_range

theorem nodup_clients (h : Balanced available config b past) : (ended past ++ b.clients).Nodup :=
  h.clients.nodup_iff.mp h.nodup.of_append_left

theorem mem_attached (h : Balanced available config b past) (hn : n ∈ b.clients) :
    n ∈ attached past :=
  h.clients.mem_iff.mpr (List.mem_append_right _ hn)

theorem lt_connections (h : Balanced available config b past)
    (hn : n ∈ attached past ++ refused past) : n < b.connections :=
  List.mem_range.mp (h.connections.mem_iff.mp hn)

theorem client_lt (h : Balanced available config b past) (hn : n ∈ b.clients) :
    n < b.connections :=
  h.lt_connections (List.mem_append_left _ (h.mem_attached hn))

/-- A connection that was turned away has no task. -/
theorem notMem_clients (h : Balanced available config b past) (hn : n ∈ refused past) :
    n ∉ b.clients := fun hc ↦
  (List.disjoint_of_nodup_append h.nodup) (h.mem_attached hc) hn

/-- Nothing more is done about a connection that was turned away. -/
theorem about_append (h : Balanced available config b past)
    (hacts : ∀ a ∈ acts, a.number ∈ b.clients ∨ a.number = b.connections)
    (hn : n ∈ refused past) : about (past ++ acts) n = about past n := by
  have hnone : about acts n = [] := by
    refine ServiceAct.about_eq_nil fun a ha han ↦ ?_
    rcases hacts a ha with hclient | hnew
    · exact h.notMem_clients hn (han ▸ hclient)
    · have hlt := h.lt_connections (List.mem_append_right _ hn)
      omega
  rw [ServiceAct.about_append, hnone, List.append_nil]

/-- The refusals stay complete if nobody else is refused. -/
theorem refusals_append (h : Balanced available config b past)
    (hacts : ∀ a ∈ acts, a.number ∈ b.clients ∨ a.number = b.connections)
    (hnone : refused acts = []) :
    ∀ n ∈ refused (past ++ acts), ∃ takes,
      about (past ++ acts) n = refusal (.create config) n takes := by
  intro n hn
  rw [ServiceAct.refused_append, hnone, List.append_nil] at hn
  rw [h.about_append hacts hn]
  exact h.refusals n hn

theorem known_append (h : Balanced available config b past) {connections : Nat}
    (hle : b.connections ≤ connections) (hacts : ∀ a ∈ acts, a.number < connections) :
    ∀ a ∈ past ++ acts, a.number < connections := by
  intro a ha
  rcases List.mem_append.mp ha with hpast | hnew
  · exact Nat.lt_of_lt_of_le (h.known a hpast) hle
  · exact hacts a hnew

end Balanced

/-- The books balance before anything happens. -/
theorem balanced_create (hS : S.Counts available config.maxConnections.toNat) :
    Balanced available config (create S config).ledger [] where
  limit := rfl
  slots := hS.create
  subscribers := rfl
  clients := .refl _
  connections := .refl _
  accepted := rfl
  rejected := rfl
  known := List.forall_mem_nil _
  refusals := List.forall_mem_nil _

/-- A line that a client took changes nothing in the books. -/
theorem Balanced.written (h : Balanced available config d.ledger past) {text : String}
    (hn : n ∈ d.clients) :
    Balanced available config d.ledger (past ++ [.write n text true]) := by
  have hattached : attached (past ++ [.write n text true]) = attached past :=
    ServiceAct.attached_append_of_nil past rfl
  have hrefused : refused (past ++ [.write n text true]) = refused past :=
    ServiceAct.refused_append_of_nil past rfl
  have hended : ended (past ++ [.write n text true]) = ended past :=
    ServiceAct.ended_append_of_nil past rfl
  refine ⟨h.limit, h.slots, h.subscribers, ?_, ?_, ?_, ?_, ?_, ?_⟩
  · rw [hattached, hended]
    exact h.clients
  · rw [hattached, hrefused]
    exact h.connections
  · rw [hattached]
    exact h.accepted
  · rw [hrefused]
    exact h.rejected
  · exact h.known_append le_rfl (List.forall_mem_singleton.mpr (h.client_lt hn))
  · exact h.refusals_append (List.forall_mem_singleton.mpr (Or.inl hn)) rfl

/-- A client that is admitted takes a slot. -/
theorem Balanced.admitted (h : Balanced available config d.ledger past) {slots : σ}
    (hslots : available d.slots = available slots + 1) :
    Balanced available config { d.ledger with
      slots := slots
      subscribers := d.subscribers + 1
      clients := d.clients ++ [d.connections]
      connections := d.connections + 1
      accepted := d.accepted + 1 } (past ++ [.attach d.connections]) := by
  have hattached : attached (past ++ [.attach d.connections]) = attached past ++ [d.connections] :=
    ServiceAct.attached_append past _
  have hrefused : refused (past ++ [.attach d.connections]) = refused past :=
    ServiceAct.refused_append_of_nil past rfl
  have hended : ended (past ++ [.attach d.connections]) = ended past :=
    ServiceAct.ended_append_of_nil past rfl
  refine ⟨h.limit, ?_, ?_, ?_, ?_, ?_, ?_, ?_, ?_⟩
  · have hold : available d.slots + d.clients.length = d.maxConnections := h.slots
    change available slots + (d.clients ++ [d.connections]).length = d.maxConnections
    rw [List.length_append, List.length_singleton]
    omega
  · have hold : d.subscribers = d.clients.length := h.subscribers
    rw [List.length_append, List.length_singleton, hold]
  · rw [hattached, hended, ← List.append_assoc]
    exact h.clients.append_right _
  · rw [hattached, hrefused, List.range_succ, List.append_assoc]
    refine (List.perm_append_comm.append_left _).trans ?_
    rw [← List.append_assoc]
    exact h.connections.append_right _
  · have hold : d.accepted = UInt64.ofNat (attached past).length := h.accepted
    rw [hattached, List.length_append, List.length_singleton, UInt64.ofNat_add, ← hold]
    rfl
  · rw [hrefused]
    exact h.rejected
  · exact h.known_append (Nat.le_succ _) (List.forall_mem_singleton.mpr (Nat.lt_succ_self _))
  · exact h.refusals_append (List.forall_mem_singleton.mpr (Or.inr rfl)) rfl

/-- A connection that is turned away is counted, and that is all. -/
theorem Balanced.turnedAway (h : Balanced available config d.ledger past) (takes : Bool) :
    Balanced available config { d.ledger with
      connections := d.connections + 1
      rejected := d.rejected + 1 } (past ++ refusal d.listener d.connections takes) := by
  have hattached : attached (past ++ refusal d.listener d.connections takes) = attached past :=
    ServiceAct.attached_append_of_nil past rfl
  have hrefused : refused (past ++ refusal d.listener d.connections takes) =
      refused past ++ [d.connections] := ServiceAct.refused_append past _
  have hended : ended (past ++ refusal d.listener d.connections takes) = ended past :=
    ServiceAct.ended_append_of_nil past rfl
  refine ⟨h.limit, h.slots, h.subscribers, ?_, ?_, ?_, ?_, ?_, ?_⟩
  · rw [hattached, hended]
    exact h.clients
  · rw [hattached, hrefused, List.range_succ, ← List.append_assoc]
    exact h.connections.append_right _
  · rw [hattached]
    exact h.accepted
  · have hold : d.rejected = UInt64.ofNat (refused past).length := h.rejected
    rw [hrefused, List.length_append, List.length_singleton, UInt64.ofNat_add, ← hold]
    rfl
  · refine h.known_append (Nat.le_succ _) fun a ha ↦ ?_
    rw [ServiceAct.number_of_mem_refusal ha]
    exact Nat.lt_succ_self _
  · have hacts : ∀ a ∈ refusal d.listener d.connections takes,
        a.number ∈ d.clients ∨ a.number = d.connections :=
      fun a ha ↦ Or.inr (ServiceAct.number_of_mem_refusal ha)
    intro n hn
    rw [hrefused, List.mem_append, List.mem_singleton] at hn
    rcases hn with hold | rfl
    · rw [h.about_append hacts hold]
      exact h.refusals n hold
    · -- Nothing was done about the connection before it came.
      have hbefore : about past d.connections = [] :=
        ServiceAct.about_eq_nil fun a ha ↦ Nat.ne_of_lt (h.known a ha)
      have hline : d.listener.rejection = (DiagnosticListener.create config).rejection :=
        DiagnosticListener.rejection_congr h.limit
      refine ⟨takes, ?_⟩
      rw [ServiceAct.about_append, hbefore, List.nil_append,
        ServiceAct.about_eq_self fun a ha ↦ ServiceAct.number_of_mem_refusal ha, refusal, hline,
        refusal]

/-- A stream that ends gives back the slot of its client. -/
theorem Balanced.left (h : Balanced available config d.ledger past) {slots : σ}
    {cause : StreamEnd} {lost : List ServiceAct} (hn : n ∈ d.clients)
    (hlost : lost = [] ∨ ∃ text, lost = [.write n text false])
    (hslots : available d.slots < d.maxConnections → available slots = available d.slots + 1) :
    Balanced available config { d.ledger with
      slots := slots
      subscribers := d.subscribers - 1
      clients := d.clients.filter (· ≠ n) } (past ++ (lost ++ [.finish n cause, .hangUp n])) := by
  have hattached : attached (past ++ (lost ++ [.finish n cause, .hangUp n])) = attached past := by
    refine ServiceAct.attached_append_of_nil past ?_
    rcases hlost with rfl | ⟨text, rfl⟩ <;> rfl
  have hrefusedNil : refused (lost ++ [.finish n cause, .hangUp n]) = [] := by
    rcases hlost with rfl | ⟨text, rfl⟩ <;> rfl
  have hrefused := ServiceAct.refused_append_of_nil past hrefusedNil
  have hended : ended (past ++ (lost ++ [.finish n cause, .hangUp n])) = ended past ++ [n] := by
    rw [ServiceAct.ended_append]
    rcases hlost with rfl | ⟨text, rfl⟩ <;> rfl
  have hacts : ∀ a ∈ lost ++ [.finish n cause, .hangUp n], a.number ∈ d.clients := by
    intro a ha
    rw [ServiceAct.number_of_mem_ending hlost ha]
    exact hn
  have hnodup : d.clients.Nodup := h.nodup_clients.of_append_right
  have hfilter : d.clients.filter (· ≠ n) = d.clients.erase n := by
    rw [hnodup.erase_eq_filter n]
    refine List.filter_congr fun m _ ↦ ?_
    rw [bne, decide_not, beq_eq_decide]
  have hlength : (d.clients.erase n).length = d.clients.length - 1 := List.length_erase_of_mem hn
  have hpos : 0 < d.clients.length := List.length_pos_of_mem hn
  rw [hfilter]
  refine ⟨h.limit, ?_, ?_, ?_, ?_, ?_, ?_, ?_, ?_⟩
  · have hold : available d.slots + d.clients.length = d.maxConnections := h.slots
    have hnew := hslots (by omega)
    change available slots + (d.clients.erase n).length = d.maxConnections
    omega
  · have hold : d.subscribers = d.clients.length := h.subscribers
    change d.subscribers - 1 = (d.clients.erase n).length
    omega
  · rw [hattached, hended, List.append_assoc]
    exact h.clients.trans ((List.perm_cons_erase hn).append_left _)
  · rw [hattached, hrefused]
    exact h.connections
  · rw [hattached]
    exact h.accepted
  · rw [hrefused]
    exact h.rejected
  · exact h.known_append le_rfl fun a ha ↦ h.client_lt (hacts a ha)
  · exact h.refusals_append (fun a ha ↦ Or.inl (hacts a ha)) hrefusedNil

/-- **One step** keeps the books balanced. -/
theorem Balanced.step (h : Balanced available config d.ledger past)
    (hS : S.Counts available config.maxConnections.toNat) (i : Incident) :
    Balanced available config (d.step S i).2.ledger (past ++ (d.step S i).1) := by
  have he := enters_step S d i
  generalize (d.step S i).1 = acts at he
  generalize (d.step S i).2.ledger = b at he
  cases he with
  | nothing =>
    rw [List.append_nil]
    exact h
  | written hn => exact h.written hn
  | admitted hslots => exact h.admitted (hS.acquired _ _ hslots)
  | turnedAway => exact h.turnedAway _
  | left hn hlost => exact h.left hn hlost fun hlt ↦ hS.release _ (h.limit ▸ hlt)

/-- While the books balance there is no permit if and only if as many clients are attached as may
be. -/
theorem Balanced.tryAcquire_eq_none_iff (h : Balanced available config d.ledger past)
    (hS : S.Counts available config.maxConnections.toNat) :
    S.tryAcquire d.slots = none ↔ config.maxConnections.toNat ≤ d.tasks.length := by
  have hslots : available d.slots + d.clients.length = d.maxConnections := h.slots
  have hlimit : d.maxConnections = config.maxConnections.toNat := h.limit
  rw [length_clients] at hslots
  constructor
  · intro hnone
    have hzero := hS.refused _ hnone
    omega
  · intro hfull
    cases hacquired : S.tryAcquire d.slots with
    | none => rfl
    | some slots =>
      have hfree := hS.acquired _ _ hacquired
      omega

/-- **A run** keeps the books balanced. -/
theorem Balanced.run (h : Balanced available config d.ledger past)
    (hS : S.Counts available config.maxConnections.toNat) (incidents : List Incident) :
    Balanced available config (d.run S incidents).ledger (past ++ d.acts S incidents) := by
  induction incidents generalizing d past with
  | nil =>
    rw [acts, List.append_nil]
    exact h
  | cons i is ih =>
    rw [acts, ← List.append_assoc]
    exact ih (h.step hS i)

end DiagnosticService

end TaskMessaging
