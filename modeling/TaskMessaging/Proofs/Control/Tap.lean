import TaskMessaging.Proofs.Control.Operation
import TaskMessaging.Proofs.TaskSystem.Tap

/-!
# The tap is the log of deliveries

From the moment a tapped system is built, its tap is told of every delivery in order, under the
numbers from one on, and of nothing else. It makes no difference who delivers: a client that sends
or broadcasts, or the dispatcher that tells of a timer, a fault or an interrupt, since what the
dispatcher does is a list of calls.
-/

namespace TaskMessaging

/-- What the record at a place of the log says of a delivery. -/
structure Delivery.Recorded (d : Delivery) (catalog : Catalog) (i : Nat) (r : MessageRecord) :
    Prop where
  /-- The first record has number one. -/
  sequence : r.sequence = .ofNat (i + 1)
  kind : r.kind = d.envelope.kind
  kindName : r.kindName = catalog.name d.envelope.kind
  origin : r.origin = d.envelope.origin
  destination : r.destination = .task d.target
  payloadLength : ∃ n, d.envelope.payload.Measures d.pools n ∧ r.payloadLength = .ofNat n

theorem Delivery.recorded_record (d : Delivery) (catalog : Catalog) (i : Nat) :
    d.Recorded catalog i (d.record catalog (1 + .ofNat i)) where
  sequence := by
    rw [record, UInt64.ofNat_add]
    exact UInt64.add_comm _ _
  kind := rfl
  kindName := rfl
  origin := rfl
  destination := rfl
  payloadLength := ⟨_, d.envelope.payload.measures_length d.pools, rfl⟩

/-- The records of a run against its deliveries. -/
structure TapLaw (s : TaskSystem) (ops : List Operation) (records : List MessageRecord) : Prop where
  /-- The deliveries are those that got into mailboxes. -/
  delivered : (s.log ops).map (·.mail) = s.delivered ops
  /-- They are as many as the answers to the operations tell. -/
  reported : (s.log ops).length = (List.zipWith Operation.deliveryCount ops (s.answers ops)).sum
  length_eq : records.length = (s.log ops).length
  recorded : ∀ (i : Nat) (d : Delivery), (s.log ops)[i]? = some d →
    ∃ r, records[i]? = some r ∧ d.Recorded s.catalog i r
  counted : (s.run ops).metrics.messagesDelivered = .ofNat records.length

namespace TaskSystem

variable {s : TaskSystem} {a : Allocator} {settings : Settings}

theorem tap_of_build (h : build a settings = .ok s) (ht : settings.tapped = true) :
    s.tap = some [] ∧ s.sequence.next = 1 ∧ s.metrics.messagesDelivered = 0 := by
  rw [build] at h
  split at h
  · cases h
  · cases h
    rw [ht]
    exact ⟨rfl, rfl, rfl⟩

/-- A run from a system just built is told to its tap, some of it taken off meanwhile. -/
theorem exists_tapLaw (hs : build a settings = .ok s) (ht : settings.tapped = true)
    (ops : List Operation) :
    ∃ kept, (s.run ops).tap = some kept ∧
      TapLaw s ops ((s.answers ops).flatMap Answer.drained ++ kept) := by
  obtain ⟨htap, hnext, hzero⟩ := tap_of_build hs ht
  have hlogs := s.logs_run ops
  obtain ⟨-, kept, hkept, htold⟩ := hlogs.told [] htap
  rw [List.nil_append, hnext] at htold
  refine ⟨kept, hkept, ?_⟩
  rw [← htold]
  refine ⟨s.mail_log ops, s.length_log ops, Delivery.length_records _, fun i d hd ↦ ?_, ?_⟩
  · refine ⟨_, ?_, d.recorded_record s.catalog i⟩
    rw [Delivery.getElem?_records, hd]
    rfl
  · rw [hlogs.delivered, hzero, UInt64.zero_add, Delivery.length_records]

end TaskSystem

namespace ControlLoop

variable {c : ControlLoop} {a : Allocator} {settings : TaskSystem.Settings}

/-- **The tap is the exact log of deliveries.** -/
theorem tap_law (hs : TaskSystem.build a settings = .ok c.system) (ht : settings.tapped = true)
    (ops : List ControlOperation) :
    ∃ kept, (c.runAll ops).system.tap = some kept ∧
      TapLaw c.system (c.callsOf ops)
        ((c.system.answers (c.callsOf ops)).flatMap Answer.drained ++ kept) := by
  rw [system_runAll]
  exact TaskSystem.exists_tapLaw hs ht _

/-- A broadcast to three tasks of which the second has a full mailbox, two sends that fail, a fault
that is told to all who have room, and the tap is emptied once in between. -/
def tappedRun : List ControlOperation :=
  [.system (.register ⟨1⟩ "first"), .system (.register ⟨2⟩ "second"),
    .system (.register ⟨3⟩ "third"), .system (.send (.owning ⟨40⟩ ⟨1⟩ (.task ⟨2⟩) (.text "né"))),
    .system (.allocate 8 ⟨0, 0⟩),
    .system (.broadcast (.borrowed ⟨41⟩ ⟨1⟩ .broadcast (.pooled ⟨7, 0, 0, 1⟩))),
    .system .drainTap, .system (.send (.owning ⟨40⟩ ⟨1⟩ .broadcast .empty)),
    .system (.send (.owning ⟨40⟩ ⟨1⟩ (.task ⟨9⟩) .empty)), .system (.free ⟨7, 0, 0, 1⟩ 0),
    .system (.send (.borrowed ⟨41⟩ ⟨3⟩ (.task ⟨1⟩) (.pooled ⟨7, 0, 0, 1⟩))),
    .system (.tryReceive ⟨2⟩), .handle ⟨0⟩ (.fault 11)]

theorem tap_law_tappedRun :
    ∃ s : TaskSystem, TaskSystem.build ((Allocator.create 7 1).addPool 2 16).2
        ⟨1, .report, .withNames [(⟨41⟩, "ITEM")], true, false⟩ = .ok s ∧
      let c : ControlLoop := ⟨.create false, s, .initial⟩
      let drained := (s.answers (c.callsOf tappedRun)).flatMap Answer.drained
      ∃ kept, (c.runAll tappedRun).system.tap = some kept ∧
        TapLaw s (c.callsOf tappedRun) (drained ++ kept) ∧
        (drained ++ kept).map (fun r ↦ (r.sequence, r.kindName, r.destination, r.payloadLength)) =
          [(1, "kind-40", .task ⟨2⟩, 3), (2, "ITEM", .task ⟨3⟩, 16), (3, "ITEM", .task ⟨1⟩, 0),
            (4, "FAULT_REPORTED", .task ⟨2⟩, 4)] := by
  refine ⟨_, rfl, ?_⟩
  intro c drained
  obtain ⟨kept, hkept, hlaw⟩ := @tap_law c ((Allocator.create 7 1).addPool 2 16).2
    ⟨1, .report, .withNames [(⟨41⟩, "ITEM")], true, false⟩ rfl rfl tappedRun
  have hrecords : (drained ++ (c.runAll tappedRun).system.tap.getD []).map
      (fun r ↦ (r.sequence, r.kindName, r.destination, r.payloadLength)) =
      [(1, "kind-40", .task ⟨2⟩, 3), (2, "ITEM", .task ⟨3⟩, 16), (3, "ITEM", .task ⟨1⟩, 0),
        (4, "FAULT_REPORTED", .task ⟨2⟩, 4)] := by decide +kernel
  rw [hkept] at hrecords
  exact ⟨kept, hkept, hlaw, hrecords⟩

end ControlLoop

end TaskMessaging
