import TaskMessaging.Proofs.TaskSystem.Counters

/-!
# What the tap is told

A tapped system hands a record of every delivery to its tap. The deliveries of a run are its *log*:
the envelopes that got into a mailbox, each with its recipient and with the pools as they were at
that moment, because the length in a record is that of the payload when it was delivered. So `log`
follows an operation as `deliveries` does, through the forks that could not be made and the
mailboxes that were full, and only remembers more.

## Numbers without gaps

`Logs s s' drained log` says that between two systems the tap was told of `log`, under the numbers
that follow, and that `drained` was taken off it meanwhile. Since a number is taken only where a
record is made, attempts that fail show in neither, and steps of this kind compose: the number
behind the one is the number before the next.
-/

namespace TaskMessaging

/-! ## Payloads -/

/-- The length of a payload, as a record states it. -/
inductive Payload.Measures (a : Allocator) : Payload → Nat → Prop where
  | empty : Measures a .empty 0
  | inline (data : InlinePayload) : Measures a (.inline data) data.bytes.length
  | text (t : String) : Measures a (.text t) t.utf8ByteSize
  | live {h : ItemHandle} {p : SizeClass} : a.Live h → a.pools[h.pool.toNat]? = some p →
      Measures a (.pooled h) p.itemSize
  | dead {h : ItemHandle} : ¬ a.Live h → Measures a (.pooled h) 0

theorem Payload.measures_length (a : Allocator) (p : Payload) : p.Measures a (p.length a) := by
  cases p with
  | empty => exact .empty
  | inline data => exact .inline data
  | text t => exact .text t
  | pooled h =>
    rw [length, Allocator.itemSize]
    rcases hv : a.validate h with e | ⟨p, s⟩
    · refine .dead ?_
      rintro ⟨p, s, hok⟩
      rw [hv] at hok
      cases hok
    · exact .live ⟨p, s, hv⟩ (Allocator.validate_eq_ok_iff.mp hv).1

/-! ## Records -/

/-- An envelope that got into the mailbox of a task, and the pools at that moment. -/
structure Delivery where
  target : TaskId
  envelope : Envelope
  pools : Allocator

namespace Delivery

/-- The delivery without the pools. -/
def mail (d : Delivery) : TaskId × Envelope := (d.target, d.envelope)

/-- The record of a delivery under a number. -/
def record (d : Delivery) (catalog : Catalog) (sequence : UInt64) : MessageRecord where
  sequence := sequence
  kind := d.envelope.kind
  kindName := catalog.name d.envelope.kind
  origin := d.envelope.origin
  destination := .task d.target
  payloadLength := .ofNat (d.envelope.payload.length d.pools)
  timestamp := 0

/-- The records of deliveries under consecutive numbers. -/
def records (catalog : Catalog) (sequence : UInt64) : List Delivery → List MessageRecord
  | [] => []
  | d :: ds => d.record catalog sequence :: records catalog (sequence + 1) ds

variable {catalog : Catalog} {sequence : UInt64}

theorem length_records (log : List Delivery) :
    (records catalog sequence log).length = log.length := by
  induction log generalizing sequence with
  | nil => rfl
  | cons d ds ih => rw [records, List.length_cons, ih, List.length_cons]

theorem records_append (log others : List Delivery) :
    records catalog sequence (log ++ others) = records catalog sequence log ++
      records catalog (sequence + .ofNat log.length) others := by
  induction log generalizing sequence with
  | nil => exact congrArg (records catalog · others) (UInt64.add_zero sequence).symm
  | cons d ds ih =>
    rw [List.cons_append, records, ih, records, List.cons_append, List.length_cons,
      UInt64.ofNat_add, UInt64.add_comm (UInt64.ofNat ds.length), ← UInt64.add_assoc]
    rfl

/-- The record at a place has the number of the place. -/
theorem getElem?_records (log : List Delivery) (i : Nat) :
    (records catalog sequence log)[i]? = log[i]?.map (·.record catalog (sequence + .ofNat i)) := by
  induction log generalizing sequence i with
  | nil => rfl
  | cons d ds ih =>
    cases i with
    | zero =>
      exact congrArg (fun n ↦ some (d.record catalog n)) (UInt64.add_zero sequence).symm
    | succ i =>
      rw [records, List.getElem?_cons_succ, ih, List.getElem?_cons_succ, UInt64.ofNat_add,
        UInt64.add_comm (UInt64.ofNat i), ← UInt64.add_assoc]
      rfl

end Delivery

/-- The records that an answer hands over. -/
def Answer.drained : Answer → List MessageRecord
  | .records (some rs) => rs
  | _ => []

namespace TaskSystem

variable {s s' s'' t t' : TaskSystem} {target : TaskId} {e : Envelope}

/-! ## The log -/

/-- The delivery of an envelope, if the mailbox of the target accepts it. -/
def handover (s : TaskSystem) (target : TaskId) (e : Envelope) : List Delivery :=
  (s.delivery target e).map fun x ↦ ⟨x.1, x.2, s.allocator⟩

/-- The delivery of a fork, if it can be made. -/
def forkHandover (s : TaskSystem) (e : Envelope) (target : TaskId) : List Delivery :=
  match e.fork target s.allocator with
  | (.ok copy, a) => ({ s with allocator := a }.note (e.forkNotes s.allocator)).handover target copy
  | (.error _, _) => []

/-- The deliveries of an envelope to several tasks. -/
def handoversTo (s : TaskSystem) (e : Envelope) : List TaskId → List Delivery
  | [] => []
  | [last] => s.handover last (e.readdress last)
  | target :: next :: rest =>
    s.forkHandover e target ++ (s.deliverFork e target).2.handoversTo e (next :: rest)

/-- The deliveries that an operation makes, in their order. -/
def handovers (s : TaskSystem) : Operation → List Delivery
  | .send e =>
    match e.destination with
    | .task target => s.handover target e
    | .broadcast => []
  | .broadcast e => s.handoversTo e (s.recipients e.origin)
  | .terminateTasks origin =>
    ({ s with terminating := true }.note [noteTerminating origin]).handoversTo
      (.owning .terminate origin .broadcast .empty) (s.recipients origin)
  | _ => []

/-- The deliveries of a run. -/
def log (s : TaskSystem) : List Operation → List Delivery
  | [] => []
  | op :: ops => s.handovers op ++ (s.perform op).2.log ops

theorem mail_handover (s : TaskSystem) (target : TaskId) (e : Envelope) :
    (s.handover target e).map (·.mail) = s.delivery target e := by
  rw [handover, List.map_map]
  exact List.map_id _

theorem mail_forkHandover (s : TaskSystem) (e : Envelope) (target : TaskId) :
    (s.forkHandover e target).map (·.mail) = s.forkDelivery e target := by
  rw [forkHandover, forkDelivery]
  rcases e.fork target s.allocator with ⟨err | copy, a⟩
  · rfl
  · exact mail_handover _ target copy

theorem mail_handoversTo (s : TaskSystem) (e : Envelope) (targets : List TaskId) :
    (s.handoversTo e targets).map (·.mail) = s.deliveriesTo e targets := by
  induction targets generalizing s with
  | nil => rfl
  | cons target rest ih =>
    cases rest with
    | nil => exact mail_handover s target _
    | cons next rest =>
      rw [handoversTo, List.map_append, mail_forkHandover, ih, deliveriesTo]

theorem mail_handovers (s : TaskSystem) (op : Operation) :
    (s.handovers op).map (·.mail) = s.deliveries op := by
  cases op with
  | send e =>
    rw [handovers, deliveries]
    cases e.destination with
    | task target => exact mail_handover s target e
    | broadcast => rfl
  | broadcast e => exact mail_handoversTo s e _
  | terminateTasks origin => exact mail_handoversTo _ _ _
  | _ => rfl

/-- The log of a run has its deliveries. -/
theorem mail_log (s : TaskSystem) (ops : List Operation) :
    (s.log ops).map (·.mail) = s.delivered ops := by
  induction ops generalizing s with
  | nil => rfl
  | cons op ops ih => rw [log, List.map_append, mail_handovers, ih, delivered]

/-! ## What the tap is told -/

/-- The part of a system that the tap sees. -/
def tapping (s : TaskSystem) : Catalog × Option (List MessageRecord) × IdSource × UInt64 :=
  (s.catalog, s.tap, s.sequence, s.metrics.messagesDelivered)

/-- What the tap was told of between two systems, and what was taken off it. -/
structure Logs (s s' : TaskSystem) (drained : List MessageRecord) (log : List Delivery) :
    Prop where
  catalog : s'.catalog = s.catalog
  delivered : s'.metrics.messagesDelivered = s.metrics.messagesDelivered + .ofNat log.length
  told : ∀ records, s.tap = some records →
    s'.sequence.next = s.sequence.next + .ofNat log.length ∧
      ∃ records', s'.tap = some records' ∧
        records ++ Delivery.records s.catalog s.sequence.next log = drained ++ records'

namespace Logs

variable {drained drained' : List MessageRecord} {l l' : List Delivery}

/-- Nothing was delivered. -/
theorem of_same (h : s'.tapping = s.tapping) : Logs s s' [] [] := by
  simp only [tapping, Prod.mk.injEq] at h
  obtain ⟨hcatalog, htap, hsequence, hdelivered⟩ := h
  refine ⟨hcatalog, ?_, fun records hr ↦ ⟨?_, records, htap.trans hr, List.append_nil _⟩⟩
  · rw [hdelivered]
    exact (UInt64.add_zero _).symm
  · rw [hsequence]
    exact (UInt64.add_zero _).symm

theorem trans (h : Logs s s' drained l) (h' : Logs s' s'' drained' l') :
    Logs s s'' (drained ++ drained') (l ++ l') := by
  refine ⟨h'.catalog.trans h.catalog, ?_, fun records hr ↦ ?_⟩
  · rw [h'.delivered, h.delivered, List.length_append, UInt64.ofNat_add, UInt64.add_assoc]
  · obtain ⟨hnext, records', hr', htold⟩ := h.told records hr
    obtain ⟨hnext', records'', hr'', htold'⟩ := h'.told records' hr'
    rw [hnext, h.catalog] at htold'
    refine ⟨?_, records'', hr'', ?_⟩
    · rw [hnext', hnext, List.length_append, UInt64.ofNat_add, UInt64.add_assoc]
    · rw [Delivery.records_append, ← List.append_assoc, htold, List.append_assoc, htold',
        List.append_assoc]

/-- Only what the tap sees matters, before and after. -/
theorem congr (h : Logs s s' drained l) (ht : t.tapping = s.tapping)
    (ht' : t'.tapping = s'.tapping) : Logs t t' drained l := by
  have h₁ := (of_same ht.symm).trans h
  have h₂ := h₁.trans (of_same ht')
  rwa [List.append_nil, List.append_nil] at h₂

end Logs

theorem tapping_escalate (s : TaskSystem) (err : TaskError) :
    (s.escalate err).tapping = s.tapping := by
  rw [escalate]
  split <;> rfl

theorem tapping_releaseEnvelope (s : TaskSystem) (e : Envelope) :
    (s.releaseEnvelope e).2.tapping = s.tapping := by
  rw [releaseEnvelope]
  split
  · rfl
  · exact tapping_escalate _ _

theorem tapping_discard (s : TaskSystem) (e : Envelope) : (s.discard e).tapping = s.tapping := by
  have hrelease := tapping_releaseEnvelope s e
  rw [discard]
  split
  · next hr => rwa [hr] at hrelease
  · next hr => rwa [hr] at hrelease

/-! ## Deliveries -/

theorem logs_deliver (s : TaskSystem) (target : TaskId) (e : Envelope) :
    Logs s (s.deliver target e).2 [] (s.handover target e) := by
  rw [handover, delivery]
  cases hf : s.registry.find? target with
  | none =>
    simp only [deliver, hf]
    exact .of_same rfl
  | some t =>
    cases hm : t.mailbox.enqueue? e with
    | none =>
      simp only [deliver, hf, hm]
      exact .of_same rfl
    | some m =>
      -- The length was measured before the envelope was enqueued, but in the same pools.
      simp only [deliver, hf, hm, tapDelivery]
      split
      · next htap =>
        refine ⟨rfl, rfl, fun records hr ↦ ?_⟩
        have hnone : s.tap = none := htap
        rw [hnone] at hr
        cases hr
      · next records htap =>
        refine ⟨rfl, rfl, fun records' hr ↦ ⟨rfl, _, rfl, ?_⟩⟩
        obtain rfl : records = records' := Option.some.inj (Eq.trans (Eq.symm htap) hr)
        rfl

theorem logs_deliverOrDiscard (s : TaskSystem) (target : TaskId) (e : Envelope) :
    Logs s (s.deliverOrDiscard target e).2 [] (s.handover target e) := by
  refine (logs_deliver s target e).congr rfl ?_
  rw [deliverOrDiscard]
  rcases s.deliver target e with ⟨err | _, s₁⟩
  · exact tapping_discard s₁ err.envelope
  · rfl

theorem logs_deliverFork (s : TaskSystem) (e : Envelope) (target : TaskId) :
    Logs s (s.deliverFork e target).2 [] (s.forkHandover e target) := by
  rw [deliverFork, forkHandover]
  rcases e.fork target s.allocator with ⟨err | copy, a⟩
  · exact .of_same rfl
  · have hcopied :=
      logs_deliverOrDiscard ({ s with allocator := a }.note (e.forkNotes s.allocator)) target copy
    exact hcopied.congr rfl rfl

theorem logs_deliverAll (s : TaskSystem) (e : Envelope) (targets : List TaskId) :
    Logs s (s.deliverAll e targets).2 [] (s.handoversTo e targets) := by
  induction targets generalizing s with
  | nil => exact .of_same rfl
  | cons target rest ih =>
    cases rest with
    | nil => exact logs_deliverOrDiscard s target (e.readdress target)
    | cons next rest => exact (logs_deliverFork s e target).trans (ih (s.deliverFork e target).2)

theorem logs_broadcast (s : TaskSystem) (e : Envelope) :
    Logs s (s.broadcast e).2 [] (s.handoversTo e (s.recipients e.origin)) := by
  rw [broadcast]
  split
  · next hr =>
    rw [hr]
    exact .of_same (tapping_discard (s.note [noteNoRecipients e]) e)
  · exact (logs_deliverAll s e _).congr rfl rfl

theorem logs_send (s : TaskSystem) (e : Envelope) :
    Logs s (s.send e).2 [] (s.handovers (.send e)) := by
  rw [send, handovers]
  cases e.destination with
  | task target => exact logs_deliver s target e
  | broadcast => exact .of_same rfl

/-! ## Operations -/

theorem tapping_registerTask (s : TaskSystem) (id : TaskId) (name : String) :
    (s.registerTask id name).2.tapping = s.tapping := by
  rw [registerTask]
  split
  · rfl
  · exact tapping_escalate s _

theorem tapping_spawnTask (s : TaskSystem) (id : TaskId) (name : String) :
    (s.spawnTask id name).2.tapping = s.tapping := by
  have hregister := tapping_registerTask s id name
  rw [spawnTask]
  split
  · next hr => rwa [hr] at hregister
  · next hr => rwa [hr] at hregister

theorem tapping_joinThreads (s : TaskSystem) (current : Option TaskId) (tasks : List Task) :
    (s.joinThreads current tasks).2.tapping = s.tapping := by
  induction tasks generalizing s with
  | nil => rfl
  | cons t ts ih =>
    rw [joinThreads]
    split
    · exact ih s
    · split
      · exact ih _
      · split
        · exact ih _
        · exact ih _

theorem tapping_tryReceive (s : TaskSystem) (id : TaskId) :
    (s.tryReceive id).2.tapping = s.tapping := by
  rw [tryReceive, lookup]
  cases s.registry.find? id with
  | none => rfl
  | some t =>
    dsimp only
    cases t.mailbox.dequeue? with
    | none => rfl
    | some r => rfl

theorem logs_drainTap (s : TaskSystem) :
    Logs s s.drainTap.2 (Answer.drained (.records s.drainTap.1)) [] := by
  refine ⟨rfl, (UInt64.add_zero _).symm, fun records hr ↦ ⟨(UInt64.add_zero _).symm, [], ?_, ?_⟩⟩
  · rw [drainTap, hr]
    rfl
  · rw [drainTap, hr]
    rfl

/-- **An operation** tells the tap of its deliveries, and nothing else. -/
theorem logs_perform (s : TaskSystem) (op : Operation) :
    Logs s (s.perform op).2 (s.perform op).1.drained (s.handovers op) := by
  have hnothing {α : Type} {f : α → Answer} (hf : ∀ x, (f x).drained = [])
      (r : Except TaskError α) {s' : TaskSystem} (h : s'.tapping = s.tapping) :
      Logs s s' (Answer.ofResult f r).drained [] := by
    have hanswer : (Answer.ofResult f r).drained = [] := by
      cases r with
      | error err => rfl
      | ok x => exact hf x
    rw [hanswer]
    exact .of_same h
  have haccess (h : ItemHandle) (r : Except PoolError Allocator) :
      Logs s (s.access h r).2 (s.access h r).1.drained [] := by
    cases r with
    | error err => exact .of_same rfl
    | ok a => exact .of_same rfl
  cases op with
  | register id name => exact hnothing (fun _ ↦ rfl) _ (tapping_registerTask s id name)
  | spawn id name => exact hnothing (fun _ ↦ rfl) _ (tapping_spawnTask s id name)
  | unregister id =>
    rw [perform, unregisterTask]
    split
    · exact .of_same rfl
    · exact .of_same rfl
  | lookup id =>
    refine hnothing (fun _ ↦ rfl) _ ?_
    change (s.lookup id).2.tapping = s.tapping
    rw [lookup]
    split <;> rfl
  | recordPanic id => exact .of_same rfl
  | waitTasksEnd current => exact .of_same (tapping_joinThreads s current _)
  | allocate size tags =>
    refine hnothing (fun _ ↦ rfl) _ ?_
    change (s.allocate size tags).2.tapping = s.tapping
    rw [allocate]
    split <;> rfl
  | free h releaseTag =>
    refine hnothing (fun _ ↦ rfl) _ ?_
    change (s.free h releaseTag).2.tapping = s.tapping
    rw [free]
    split
    · rfl
    · exact tapping_escalate _ _
  | duplicate h => exact hnothing (fun _ ↦ rfl) _ rfl
  | read h => exact hnothing (fun _ ↦ rfl) _ rfl
  | write h offset bytes => exact haccess h _
  | update h change => exact haccess h _
  | setInfo h index value => exact haccess h _
  | releasePayload kind p =>
    rw [perform, releasePayload]
    split
    · exact .of_same rfl
    · exact .of_same rfl
  | releaseEnvelope e => exact hnothing (fun _ ↦ rfl) _ (tapping_releaseEnvelope s e)
  | send e =>
    have hanswer : (Answer.ofSend (s.send e).1).drained = [] := by
      cases (s.send e).1 with
      | error err => rfl
      | ok u => rfl
    rw [perform, hanswer]
    exact logs_send s e
  | broadcast e => exact logs_broadcast s e
  | terminateTasks origin =>
    have hall := logs_broadcast ({ s with terminating := true }.note [noteTerminating origin])
      (.owning .terminate origin .broadcast .empty)
    exact hall.congr rfl rfl
  | tryReceive id => exact hnothing (fun _ ↦ rfl) _ (tapping_tryReceive s id)
  | requestShutdown =>
    refine .of_same ?_
    change s.requestShutdown.tapping = s.tapping
    rw [requestShutdown]
    split <;> rfl
  | drainTap => exact logs_drainTap s
  | report entries => exact .of_same rfl

/-! ## Runs -/

/-- **A run** tells the tap of its log. -/
theorem logs_run (s : TaskSystem) (ops : List Operation) :
    Logs s (s.run ops) ((s.answers ops).flatMap Answer.drained) (s.log ops) := by
  induction ops generalizing s with
  | nil => exact .of_same rfl
  | cons op ops ih => exact (logs_perform s op).trans (ih (s.perform op).2)

end TaskSystem

/-- How many deliveries an operation made, as its answer tells. -/
def Operation.deliveryCount : Operation → Answer → Nat
  | .send _, .done => 1
  | _, .delivered r => r.delivered
  | _, _ => 0

theorem Operation.deliveryCount_of_isPlain {op : Operation} {answer : Answer}
    (h : answer.isPlain = true) (hop : ∀ e, op ≠ .send e) : op.deliveryCount answer = 0 := by
  cases op with
  | send e => exact absurd rfl (hop e)
  | _ =>
    cases answer with
    | delivered r => cases h
    | _ => rfl

namespace TaskSystem

/-- An answer tells how many deliveries there were. -/
theorem length_handovers (s : TaskSystem) (op : Operation) :
    (s.handovers op).length = op.deliveryCount (s.perform op).1 := by
  have hmail (op : Operation) : (s.handovers op).length = (s.deliveries op).length := by
    rw [← mail_handovers, List.length_map]
  have hplain {op : Operation} (h : (s.perform op).1.isPlain = true) (hop : ∀ e, op ≠ .send e) :
      0 = op.deliveryCount (s.perform op).1 := (Operation.deliveryCount_of_isPlain h hop).symm
  have haccess (h : ItemHandle) (r : Except PoolError Allocator) :
      (s.access h r).1.isPlain = true := by
    cases r <;> rfl
  cases op with
  | send e =>
    rw [hmail, deliveries, perform, send]
    cases e.destination with
    | broadcast => rfl
    | task target =>
      dsimp only
      rw [delivery]
      cases (s.deliver target e).1 with
      | error err => rfl
      | ok u => rfl
  | broadcast e =>
    rw [hmail, ← delivered_broadcast]
    rfl
  | terminateTasks origin =>
    rw [hmail]
    exact (delivered_broadcast ({ s with terminating := true }.note [noteTerminating origin])
      (.owning .terminate origin .broadcast .empty)).symm
  | register | spawn | lookup | allocate | free | duplicate | read | releaseEnvelope =>
    exact hplain (Answer.isPlain_ofResult (fun _ ↦ rfl) _) (by rintro _ ⟨⟩)
  | write h offset bytes => exact hplain (haccess h _) (by rintro _ ⟨⟩)
  | update h change => exact hplain (haccess h _) (by rintro _ ⟨⟩)
  | setInfo h index value => exact hplain (haccess h _) (by rintro _ ⟨⟩)
  | releasePayload kind p =>
    refine hplain ?_ (by rintro _ ⟨⟩)
    rw [perform, releasePayload]
    split <;> rfl
  | tryReceive id =>
    rw [perform]
    cases (s.tryReceive id).1 <;> rfl
  | unregister | recordPanic | waitTasksEnd | requestShutdown | drainTap | report => rfl

theorem length_log (s : TaskSystem) (ops : List Operation) :
    (s.log ops).length = (List.zipWith Operation.deliveryCount ops (s.answers ops)).sum := by
  induction ops generalizing s with
  | nil => rfl
  | cons op ops ih =>
    rw [log, List.length_append, length_handovers, ih]
    rfl

end TaskSystem

end TaskMessaging
