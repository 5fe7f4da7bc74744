import TaskMessaging.Proofs.Diagnostics.Clients
import TaskMessaging.Proofs.Json.Grammar
import TaskMessaging.Proofs.Json.Line

/-!
# Connection slots

A service attaches as many clients as it has slots. Whatever happens to it, in whatever order, at
every moment the clients that are attached are those that were admitted and whose streams have not
ended; they and the free slots together are as many as may be attached, and every one of them has
one subscription. So a connection is admitted just when fewer clients are attached than may be, and if
not, it is told so in one line of JSON and closed, without ever being subscribed.

There are four ways for a stream to end: the client does not take a line, it hangs up, reading from
it fails, or the channel is closed and has nothing left for it. `Ending` lists them, each with the
incident and the state in which it happens. A step of the service ends a stream exactly in these
cases, and each time one slot comes back.
-/

namespace TaskMessaging

open ServiceAct (attached refused ended about refusal)

/-- A connection comes. -/
def Incident.connects : Incident → Bool
  | .connect _ => true
  | _ => false

/-- How many connections come before the service is closed. -/
def Incident.arrivals (incidents : List Incident) : Nat :=
  (incidents.takeWhile (· ≠ .close)).countP connects

theorem Incident.arrivals_cons (i : Incident) (incidents : List Incident) :
    arrivals (i :: incidents) =
      i.connects.toNat + if i = .close then 0 else arrivals incidents := by
  rw [arrivals, List.takeWhile_cons]
  by_cases h : i = .close
  · rw [if_pos h, if_neg (by simp [h]), h]
    rfl
  · rw [if_neg h, if_pos (decide_eq_true h), List.countP_cons, Nat.add_comm, arrivals]
    cases i.connects with
    | true => rfl
    | false => rfl

namespace DiagnosticService

variable {σ : Type} {S : Semaphore σ} {available : σ → Nat} {d : DiagnosticService σ}
  {config : Config.DiagnosticsSection} {b : Ledger σ} {past acts : List ServiceAct}
  {incidents : List Incident} {t : ClientTask} {i : Incident} {n : Nat} {cause : StreamEnd}

/-! ## The door

How many connections came, and whether one may still come. Tasks and records leave that alone. -/

def door (d : DiagnosticService σ) : Nat × Bool := (d.connections, d.closed)

theorem door_write (d : DiagnosticService σ) (t : ClientTask) (takes : Bool) :
    (d.write S t takes).2.door = d.door := by
  rw [write]
  cases t.writing with
  | none => rfl
  | some text =>
    cases takes with
    | true => rfl
    | false => rfl

theorem door_input (d : DiagnosticService σ) (t : ClientTask) (i : ClientInput) :
    (d.input S t i).2.door = d.door := by
  cases i with
  | bytes => rfl
  | hangUp => rfl
  | failure => rfl

theorem door_receive (d : DiagnosticService σ) (t : ClientTask) :
    (d.receive S t).2.door = d.door := by
  rw [receive]
  rcases d.channel.receive t.seen with ⟨text | count | _, seen⟩
  · rfl
  · rfl
  · dsimp only
    split
    · rfl
    · rfl

theorem door_elim {f : ClientTask → List ServiceAct × DiagnosticService σ}
    (h : ∀ t, (f t).2.door = d.door) : ((d.task? n).elim ([], d) f).2.door = d.door := by
  cases d.task? n with
  | none => rfl
  | some t => exact h t

theorem door_accept (d : DiagnosticService σ) (takes : Bool) :
    (d.accept S takes).2.door = (d.connections + 1, d.closed) := by
  rw [accept]
  cases S.tryAcquire d.slots with
  | none => rfl
  | some slots => rfl

/-- A connection passes the door unless it is closed, and nobody opens it again. -/
theorem door_step (d : DiagnosticService σ) (i : Incident) :
    (d.step S i).2.door =
      (d.connections + if d.closed then 0 else i.connects.toNat,
        d.closed || decide (i = .close)) := by
  have hother : d.door = (d.connections + if d.closed then 0 else 0, d.closed || false) := by
    rw [ite_self, Bool.or_false]
    rfl
  cases i with
  | connect takes =>
    rw [step]
    cases hclosed : d.closed with
    | true => exact congrArg (Prod.mk d.connections) hclosed
    | false => exact (door_accept d takes).trans (congrArg (Prod.mk (d.connections + 1)) hclosed)
  | write n takes => exact (door_elim fun t ↦ door_write d t takes).trans hother
  | input n i =>
    refine (door_elim fun t ↦ ?_).trans hother
    split
    · rfl
    · exact door_input d t i
  | receive n =>
    refine (door_elim fun t ↦ ?_).trans hother
    split
    · rfl
    · exact door_receive d t
  | record r =>
    refine Eq.trans ?_ hother
    rw [step, record]
    split
    · rfl
    · split
      · rfl
      · rfl
  | close =>
    have hnobody : Incident.close.connects.toNat = 0 := rfl
    rw [hnobody, ite_self, decide_eq_true rfl, Bool.or_true]
    rfl

theorem closed_run (d : DiagnosticService σ) (incidents : List Incident) :
    (d.run S incidents).closed = true ↔ d.closed = true ∨ .close ∈ incidents := by
  induction incidents generalizing d with
  | nil => exact (or_iff_left List.not_mem_nil).symm
  | cons i is ih =>
    have hstep : (d.step S i).2.closed = (d.closed || decide (i = .close)) :=
      congrArg Prod.snd (door_step d i)
    refine (ih _).trans ?_
    rw [hstep, Bool.or_eq_true, decide_eq_true_iff, List.mem_cons, or_assoc,
      eq_comm (a := i)]

theorem connections_run (d : DiagnosticService σ) (incidents : List Incident) :
    (d.run S incidents).connections =
      d.connections + if d.closed then 0 else Incident.arrivals incidents := by
  induction incidents generalizing d with
  | nil =>
    have hnobody : Incident.arrivals [] = 0 := rfl
    rw [hnobody, ite_self]
    rfl
  | cons i is ih =>
    have hcame : (d.step S i).2.connections =
        d.connections + if d.closed then 0 else i.connects.toNat :=
      congrArg Prod.fst (door_step d i)
    have hclosed : (d.step S i).2.closed = (d.closed || decide (i = .close)) :=
      congrArg Prod.snd (door_step d i)
    refine (ih _).trans ?_
    rw [hcame, hclosed]
    cases d.closed with
    | true => rfl
    | false =>
      rw [Incident.arrivals_cons, Bool.false_or, Nat.add_assoc]
      simp only [decide_eq_true_iff]
      rfl

/-! ## Streams that end -/

/-- The ways in which the stream to a client ends. -/
inductive Ending (d : DiagnosticService σ) : Incident → Nat → StreamEnd → Prop where
  | writeFailed {n : Nat} {t : ClientTask} {text : String} (ht : d.task? n = some t)
      (hwriting : t.writing = some text) : Ending d (.write n false) n .writeFailed
  | hungUp {n : Nat} {t : ClientTask} (ht : d.task? n = some t) (hwriting : t.writing = none) :
    Ending d (.input n .hangUp) n .hungUp
  | readFailed {n : Nat} {t : ClientTask} (ht : d.task? n = some t) (hwriting : t.writing = none) :
    Ending d (.input n .failure) n .readFailed
  | channelClosed {n : Nat} {t : ClientTask} (ht : d.task? n = some t)
      (hwriting : t.writing = none) (hclosed : d.closed = true)
      (hnothing : (d.channel.receive t.seen).1 = .nothing) :
    Ending d (.receive n) n .channelClosed

theorem Ending.mem_clients (h : d.Ending i n cause) : n ∈ d.clients := by
  cases h with
  | writeFailed ht | hungUp ht | readFailed ht | channelClosed ht =>
    exact (mem_of_task? ht).2 ▸ mem_clients_of_task? ht

/-- However a stream ends, its task ends with it. -/
theorem Ending.step_eq (h : d.Ending i n cause) :
    ∃ lost, (lost = [] ∨ ∃ text, lost = [.write n text false]) ∧
      d.step S i = (lost ++ [.finish n cause, .hangUp n], (d.finish S n cause).2) := by
  cases h with
  | @writeFailed n t text ht hwriting =>
    obtain rfl := (mem_of_task? ht).2
    refine ⟨[.write t.number text false], Or.inr ⟨text, rfl⟩, ?_⟩
    rw [step, ht, Option.elim_some, write, hwriting]
    rfl
  | hungUp ht hwriting =>
    obtain rfl := (mem_of_task? ht).2
    refine ⟨[], Or.inl rfl, ?_⟩
    rw [step, ht, Option.elim_some, hwriting]
    rfl
  | readFailed ht hwriting =>
    obtain rfl := (mem_of_task? ht).2
    refine ⟨[], Or.inl rfl, ?_⟩
    rw [step, ht, Option.elim_some, hwriting]
    rfl
  | @channelClosed n t ht hwriting hclosed hnothing =>
    obtain rfl := (mem_of_task? ht).2
    have hreceive : d.channel.receive t.seen = (.nothing, (d.channel.receive t.seen).2) :=
      Prod.ext hnothing rfl
    refine ⟨[], Or.inl rfl, ?_⟩
    rw [step, ht, Option.elim_some, hwriting, receive, hreceive, hclosed]
    rfl

/-- Whatever is done about a client is done by its task. -/
theorem task_of_mem {f : ClientTask → List ServiceAct × DiagnosticService σ} {a : ServiceAct}
    (h : a ∈ ((d.task? n).elim ([], d) f).1) :
    ∃ t, d.task? n = some t ∧ t.number = n ∧ a ∈ (f t).1 := by
  cases ht : d.task? n with
  | none =>
    rw [ht] at h
    exact absurd h List.not_mem_nil
  | some t =>
    rw [ht] at h
    exact ⟨t, rfl, (mem_of_task? ht).2, h⟩

/-- A task that reads or asks for a line has none to write. -/
theorem idle_of_mem {r : List ServiceAct × DiagnosticService σ} {a : ServiceAct}
    (h : a ∈ (if t.writing.isSome then ([], d) else r).1) : t.writing = none ∧ a ∈ r.1 := by
  cases hwriting : t.writing with
  | none =>
    rw [hwriting] at h
    exact ⟨rfl, h⟩
  | some text =>
    rw [hwriting] at h
    exact absurd h List.not_mem_nil

theorem finish_mem_write {takes : Bool} (h : .finish n cause ∈ (d.write S t takes).1) :
    ∃ text, t.writing = some text ∧ takes = false ∧ n = t.number ∧ cause = .writeFailed := by
  rw [write] at h
  cases hwriting : t.writing with
  | none =>
    rw [hwriting] at h
    exact absurd h List.not_mem_nil
  | some text =>
    rw [hwriting] at h
    cases takes with
    | true => exact absurd (List.mem_singleton.mp h) ServiceAct.noConfusion
    | false =>
      rcases List.mem_cons.mp h with hlost | hend
      · exact ServiceAct.noConfusion hlost
      · exact ⟨text, rfl, rfl, ServiceAct.eq_of_finish_mem hend⟩

theorem finish_mem_receive (h : .finish n cause ∈ (d.receive S t).1) :
    (d.channel.receive t.seen).1 = .nothing ∧ d.closed = true ∧ n = t.number ∧
      cause = .channelClosed := by
  rw [receive] at h
  rcases hr : d.channel.receive t.seen with ⟨text | count | _, seen⟩
  · rw [hr] at h
    exact absurd h List.not_mem_nil
  · rw [hr] at h
    exact absurd h List.not_mem_nil
  · rw [hr] at h
    cases hclosed : d.closed with
    | false =>
      rw [hclosed] at h
      exact absurd h List.not_mem_nil
    | true =>
      rw [hclosed] at h
      exact ⟨rfl, rfl, ServiceAct.eq_of_finish_mem h⟩

/-- A step ends a stream only in one of the ways in which streams end. -/
theorem ending_of_mem (h : .finish n cause ∈ (d.step S i).1) : d.Ending i n cause := by
  cases i with
  | connect takes =>
    rw [step] at h
    cases hclosed : d.closed with
    | true =>
      rw [hclosed] at h
      exact absurd h List.not_mem_nil
    | false =>
      have hended := ServiceAct.mem_ended (hclosed ▸ h)
      rw [if_neg Bool.false_ne_true, ended_accept] at hended
      exact absurd hended List.not_mem_nil
  | write m takes =>
    obtain ⟨t, ht, rfl, hacts⟩ := task_of_mem h
    obtain ⟨text, hwriting, rfl, rfl, rfl⟩ := finish_mem_write hacts
    exact .writeFailed ht hwriting
  | input m i =>
    obtain ⟨t, ht, rfl, hacts⟩ := task_of_mem h
    obtain ⟨hwriting, hread⟩ := idle_of_mem hacts
    cases i with
    | bytes => exact absurd hread List.not_mem_nil
    | hangUp =>
      obtain ⟨rfl, rfl⟩ := ServiceAct.eq_of_finish_mem hread
      exact .hungUp ht hwriting
    | failure =>
      obtain ⟨rfl, rfl⟩ := ServiceAct.eq_of_finish_mem hread
      exact .readFailed ht hwriting
  | receive m =>
    obtain ⟨t, ht, rfl, hacts⟩ := task_of_mem h
    obtain ⟨hwriting, hasked⟩ := idle_of_mem hacts
    obtain ⟨hnothing, hclosed, rfl, rfl⟩ := finish_mem_receive hasked
    exact .channelClosed ht hwriting hclosed hnothing
  | record r => exact absurd h List.not_mem_nil
  | close => exact absurd h List.not_mem_nil

/-- Whatever does not end a stream leaves all clients and gives back no slot. -/
theorem Enters.staying (h : Enters S d acts b)
    (hS : S.Counts available config.maxConnections.toNat)
    (hend : ∀ n cause, .finish n cause ∉ acts) :
    ended acts = [] ∧ d.clients <+: b.clients ∧ available b.slots ≤ available d.slots := by
  cases h with
  | nothing => exact ⟨rfl, List.prefix_rfl, le_rfl⟩
  | written => exact ⟨rfl, List.prefix_rfl, le_rfl⟩
  | admitted hslots =>
    have hfree := hS.acquired _ _ hslots
    exact ⟨rfl, List.prefix_append .., hfree ▸ Nat.le_succ _⟩
  | turnedAway => exact ⟨rfl, List.prefix_rfl, le_rfl⟩
  | left =>
    exact absurd (List.mem_append_right _ List.mem_cons_self) (hend _ _)

/-! ## The law -/

/-- What is true of the slots of a service after all that it did. -/
structure SlotLaw (S : Semaphore σ) (available : σ → Nat) (config : Config.DiagnosticsSection)
    (d : DiagnosticService σ) (past : List ServiceAct) : Prop where
  /-- The clients that are attached are those that were admitted and did not leave. -/
  balance : d.tasks.length + (ended past).length = (attached past).length
  within : d.tasks.length ≤ config.maxConnections.toNat
  slots : available d.slots + d.tasks.length = config.maxConnections.toNat
  subscribers : d.subscribers = d.tasks.length
  accepted : d.accepted = UInt64.ofNat (attached past).length
  rejected : d.rejected = UInt64.ofNat (refused past).length
  seen : (attached past).length + (refused past).length = d.connections
  /-- Nobody is admitted or turned away twice, nor both. -/
  parted : (attached past ++ refused past).Nodup
  /-- No stream ends twice, and one that ended has no task any more. -/
  once : (ended past ++ d.clients).Nodup
  stays : ∀ n, n ∈ attached past ↔ n ∈ ended past ∨ n ∈ d.clients
  /-- While there is room, whoever connects is attached and subscribed. -/
  admission : ∀ takes, d.closed = false → d.tasks.length < config.maxConnections.toNat →
    (d.step S (.connect takes)).1 = [.attach d.connections] ∧
      (d.step S (.connect takes)).2.clients = d.clients ++ [d.connections] ∧
      (d.step S (.connect takes)).2.subscribers = d.subscribers + 1
  /-- Without room, whoever connects is turned away and not subscribed. -/
  rejection : ∀ takes, d.closed = false → config.maxConnections.toNat ≤ d.tasks.length →
    (d.step S (.connect takes)).1 = refusal (.create config) d.connections takes ∧
      (d.step S (.connect takes)).2.clients = d.clients ∧
      (d.step S (.connect takes)).2.subscribers = d.subscribers
  /-- However a stream ends, its connection is closed, and one slot and one subscription come
  back. -/
  ending : ∀ i n cause, d.Ending i n cause →
    n ∈ d.clients ∧ ended (d.step S i).1 = [n] ∧ .hangUp n ∈ (d.step S i).1 ∧
      (d.step S i).2.clients = d.clients.filter (· ≠ n) ∧
      available (d.step S i).2.slots = available d.slots + 1 ∧
      (d.step S i).2.subscribers + 1 = d.subscribers
  /-- Nothing else ends a stream or gives back a slot. -/
  staying : ∀ i, (∀ n cause, ¬ d.Ending i n cause) →
    ended (d.step S i).1 = [] ∧ d.clients <+: (d.step S i).2.clients ∧
      available (d.step S i).2.slots ≤ available d.slots
  /-- Who is turned away is told so in one line, and nothing else is ever done about it. -/
  refusals : ∀ n ∈ refused past, n ∉ attached past ∧ n ∉ d.clients ∧
    ∃ takes, about past n = refusal (.create config) n takes

theorem Balanced.admission (h : Balanced available config d.ledger past)
    (hS : S.Counts available config.maxConnections.toNat) (hclosed : d.closed = false)
    (hroom : d.tasks.length < config.maxConnections.toNat) (takes : Bool) :
    (d.step S (.connect takes)).1 = [.attach d.connections] ∧
      (d.step S (.connect takes)).2.clients = d.clients ++ [d.connections] ∧
      (d.step S (.connect takes)).2.subscribers = d.subscribers + 1 := by
  have hsome : S.tryAcquire d.slots ≠ none := by
    rw [Ne, h.tryAcquire_eq_none_iff hS]
    omega
  obtain ⟨slots, hslots⟩ := Option.ne_none_iff_exists'.mp hsome
  rw [DiagnosticService.step, hclosed, if_neg Bool.false_ne_true, accept, hslots]
  exact ⟨rfl, List.map_append .., rfl⟩

theorem Balanced.rejection (h : Balanced available config d.ledger past)
    (hS : S.Counts available config.maxConnections.toNat) (hclosed : d.closed = false)
    (hfull : config.maxConnections.toNat ≤ d.tasks.length) (takes : Bool) :
    (d.step S (.connect takes)).1 = refusal (.create config) d.connections takes ∧
      (d.step S (.connect takes)).2.clients = d.clients ∧
      (d.step S (.connect takes)).2.subscribers = d.subscribers := by
  have hslots := (h.tryAcquire_eq_none_iff hS).mpr hfull
  have hline : d.listener.rejection = (DiagnosticListener.create config).rejection :=
    DiagnosticListener.rejection_congr h.limit
  rw [DiagnosticService.step, hclosed, if_neg Bool.false_ne_true, accept, hslots, refusal, hline]
  exact ⟨rfl, rfl, rfl⟩

theorem Balanced.ending (h : Balanced available config d.ledger past)
    (hS : S.Counts available config.maxConnections.toNat) (hend : d.Ending i n cause) :
    n ∈ d.clients ∧ ended (d.step S i).1 = [n] ∧ .hangUp n ∈ (d.step S i).1 ∧
      (d.step S i).2.clients = d.clients.filter (· ≠ n) ∧
      available (d.step S i).2.slots = available d.slots + 1 ∧
      (d.step S i).2.subscribers + 1 = d.subscribers := by
  have hn := hend.mem_clients
  have hpos : 0 < d.clients.length := List.length_pos_of_mem hn
  have hlimit : d.maxConnections = config.maxConnections.toNat := h.limit
  have hslots : available d.slots + d.clients.length = d.maxConnections := h.slots
  have hsubscribers : d.subscribers = d.clients.length := h.subscribers
  obtain ⟨lost, hlost, hstep⟩ := hend.step_eq (S := S)
  rw [hstep]
  refine ⟨hn, ?_, ?_, clients_finish d n cause, hS.release _ (by omega), ?_⟩
  · rcases hlost with rfl | ⟨text, rfl⟩
    · rfl
    · rfl
  · exact List.mem_append_right _ (List.mem_cons_of_mem _ (List.mem_singleton_self _))
  · exact Nat.sub_add_cancel (hsubscribers ▸ hpos)

theorem Balanced.slotLaw (h : Balanced available config d.ledger past)
    (hS : S.Counts available config.maxConnections.toNat) :
    SlotLaw S available config d past := by
  have hlimit : d.maxConnections = config.maxConnections.toNat := h.limit
  have hslots : available d.slots + d.clients.length = d.maxConnections := h.slots
  have hlength := d.length_clients
  have hclients := h.clients.length_eq
  have hconnections := h.connections.length_eq
  rw [List.length_append] at hclients hconnections
  rw [List.length_range] at hconnections
  refine ⟨?_, ?_, ?_, ?_, h.accepted, h.rejected, hconnections, h.nodup, h.nodup_clients, ?_,
    fun takes hclosed hroom ↦ h.admission hS hclosed hroom takes,
    fun takes hclosed hfull ↦ h.rejection hS hclosed hfull takes,
    fun i n cause hend ↦ h.ending hS hend, ?_, ?_⟩
  · rw [hclients, Nat.add_comm, ← hlength]
    rfl
  · omega
  · omega
  · rw [← hlength]
    exact h.subscribers
  · intro n
    rw [h.clients.mem_iff, List.mem_append]
    rfl
  · intro i hno
    exact (enters_step S d i).staying hS fun n cause hmem ↦ hno n cause (ending_of_mem hmem)
  · intro n hn
    refine ⟨fun ha ↦ ?_, h.notMem_clients hn, h.refusals n hn⟩
    exact List.disjoint_of_nodup_append h.nodup ha hn

/-- The line for a client that is turned away is one line of JSON. -/
theorem parse?_rejection (config : Config.DiagnosticsSection) :
    Json.Value.parse? (DiagnosticListener.create config).rejection =
      some (.object [("error", .text "too many diagnostic connections"),
        ("max_connections", .nat config.maxConnections.toNat)]) :=
  Json.Value.parse?_toText ⟨trivial, fun _ ↦ rfl, trivial⟩

/-- **Connection slots.** Whatever happens to a service, in whatever order: what is true of its
slots is true at every moment; all connections that came before it was closed were seen; to its
clients it is the listener; and the line for a client that is turned away is one line of JSON that
carries the limit. -/
theorem slot_law (hS : S.Counts available config.maxConnections.toNat)
    (incidents : List Incident) :
    SlotLaw S available config ((create S config).run S incidents)
        ((create S config).acts S incidents) ∧
      ((create S config).run S incidents).connections = Incident.arrivals incidents ∧
      (((create S config).run S incidents).closed = true ↔ .close ∈ incidents) ∧
      ((create S config).run S incidents).listener =
        (DiagnosticListener.create config).run ((create S config).shadows S incidents) ∧
      Json.Value.parse? (DiagnosticListener.create config).rejection =
        some (.object [("error", .text "too many diagnostic connections"),
          ("max_connections", .nat config.maxConnections.toNat)]) ∧
      '\n' ∉ (DiagnosticListener.create config).rejection.toList := by
  have hcreate := balanced_create hS
  refine ⟨(hcreate.run hS incidents).slotLaw hS, ?_, ?_, listener_run hcreate hS incidents,
    parse?_rejection config, Json.Value.newline_notMem_toText _⟩
  · refine (connections_run _ incidents).trans ?_
    exact Nat.zero_add _
  · refine (closed_run _ incidents).trans ?_
    exact or_iff_right Bool.false_ne_true

/-- A semaphore that is the number of its permits. -/
def permits : Semaphore Nat where
  create n := n
  tryAcquire
    | 0 => none
    | n + 1 => some n
  release n := n + 1

theorem permits_counts (limit : Nat) : permits.Counts id limit where
  create := rfl
  refused
    | 0, _ => rfl
  acquired
    | _ + 1, _, rfl => rfl
  release _ _ := rfl

/-- One client at a time. -/
def oneSlot : Config.DiagnosticsSection :=
  { Config.DiagnosticsSection.default with maxConnections := 1 }

/-- Two connections come, the first client is greeted and hangs up, and a third connection comes. -/
def takingTurns : List Incident :=
  [.connect true, .connect true, .write 0 true, .input 0 .hangUp, .connect true]

/-- With one slot the second connection is turned away, and the third one finds the slot free
again. -/
theorem slot_law_takingTurns :
    permits.Counts id oneSlot.maxConnections.toNat ∧
      SlotLaw permits id oneSlot ((create permits oneSlot).run permits takingTurns)
        ((create permits oneSlot).acts permits takingTurns) ∧
      attached ((create permits oneSlot).acts permits takingTurns) = [0, 2] ∧
      refused ((create permits oneSlot).acts permits takingTurns) = [1] ∧
      ended ((create permits oneSlot).acts permits takingTurns) = [0] :=
  ⟨permits_counts _, (slot_law (permits_counts _) takingTurns).1, rfl, rfl, rfl⟩

end DiagnosticService

end TaskMessaging
