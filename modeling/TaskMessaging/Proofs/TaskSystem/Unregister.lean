import TaskMessaging.Proofs.TaskSystem.Mail
import TaskMessaging.Proofs.TaskSystem.Ownership

/-!
# What waits when a registration ends

A task that is unregistered takes its mailbox along, and whatever waits in it. Nobody releases the
envelopes that wait there, so an item that one of them owns stays handed out, and no client and no
mailbox is left that could free it.

`Unregisters` says exactly what is lost. The books of the pools come out even just if no item was
waiting, and the system stays balanced just then, for whatever its clients hold. A registration that
is rolled back at once loses nothing, because its mailbox is still empty.
-/

namespace TaskMessaging

namespace Registry

variable {r : Registry} {id : TaskId} {t : Task}

/-- The items of a mailbox go with the registration of its task. -/
theorem WellFormed.items_unregister (wf : r.WellFormed) (h : r.find? id = some t) :
    r.items.Perm (t.mailbox.items ++ (r.unregister id).2.items) := by
  obtain ⟨before, after, hsplit, hrest⟩ := wf.unregister_split h
  rw [items, items, hsplit, hrest, List.flatMap_append, List.flatMap_cons, List.flatMap_append]
  exact List.perm_append_comm_assoc _ _ _

end Registry

namespace TaskSystem

variable {s : TaskSystem} {id j : TaskId} {m : Mailbox} {held : List ItemHandle}

theorem unregisterTask_of_find? {t : Task} (h : s.registry.find? id = some t) :
    s.unregisterTask id = (some t, { s with registry := (s.registry.unregister id).2 }.note
      [Registry.noteUnregistered t]) := by
  have hr : s.registry.unregister id = (some t, (s.registry.unregister id).2) := Prod.ext h rfl
  rw [unregisterTask, hr]

/-- The live items of a pool that wait in a mailbox. -/
def waiting (s : TaskSystem) (m : Mailbox) (i : Nat) : Nat :=
  m.items.countP fun h ↦ s.allocator.Live h ∧ h.pool.toNat = i

/-- Every pool has as many items less in use as were waiting in the mailbox. -/
def Reclaims (s s' : TaskSystem) (m : Mailbox) : Prop :=
  ∀ i, s'.allocator.inUse i + s.waiting m i = s.allocator.inUse i

/-- What the end of a registration comes to. -/
structure Unregisters (s s' : TaskSystem) (id : TaskId) (m : Mailbox) : Prop where
  gone : s'.mailbox? id = none
  others : ∀ j, j ≠ id → s'.registry.find? j = s.registry.find? j
  /-- No item is freed, whoever owns it. -/
  allocator : s'.allocator = s.allocator
  /-- What waited in the mailbox waits nowhere else. -/
  items : s.registry.items.Perm (m.items ++ s'.registry.items)
  reclaims_iff : Reclaims s s' m ↔ ∀ h ∈ m.items, ¬ s.allocator.Live h
  /-- The items that waited are still handed out, beside those that have an owner. -/
  accounts : ∀ held, Balanced s held →
    s'.allocator.Accounts (m.items ++ (held ++ s'.registry.items))
  balanced_iff : ∀ held, Balanced s held → (Balanced s' held ↔ m.items = [])

theorem waiting_eq_zero_iff (s : TaskSystem) (m : Mailbox) :
    (∀ i, s.waiting m i = 0) ↔ ∀ h ∈ m.items, ¬ s.allocator.Live h := by
  simp only [waiting, List.countP_eq_zero, decide_eq_true_eq, not_and]
  constructor
  · intro hnone h hh hl
    exact hnone h.pool.toNat h hh hl rfl
  · intro hdead i h hh hl
    exact absurd hl (hdead h hh)

/-- Items that nobody owns stand in the way of a balance. -/
theorem Balanced.eq_nil_of_accounts {lost : List ItemHandle} (hb : Balanced s held)
    (ha : s.allocator.Accounts (lost ++ (held ++ s.registry.items))) : lost = [] := by
  refine List.eq_nil_iff_forall_not_mem.mpr fun h hh ↦ ?_
  have hlive := ha.live (List.mem_append_left _ hh)
  exact (List.disjoint_of_nodup_append ha.nodup) hh ((hb.accounts.mem_iff h).mpr hlive)

/-- A registration that ends frees nothing of what waits in its mailbox. -/
theorem WellFormed.unregisters (wf : s.WellFormed) (hm : s.mailbox? id = some m) :
    Unregisters s (s.unregisterTask id).2 id m := by
  obtain ⟨t, hf, rfl⟩ := Option.map_eq_some_iff.mp hm
  have hwf := wf.unregisterTask id
  rw [unregisterTask_of_find? hf] at hwf ⊢
  have hitems := wf.registry.items_unregister hf
  have haccounts (held : List ItemHandle) (hb : Balanced s held) :
      s.allocator.Accounts (t.mailbox.items ++ (held ++ (s.registry.unregister id).2.items)) :=
    hb.accounts.perm ((hitems.append_left held).trans (List.perm_append_comm_assoc _ _ _))
  refine ⟨?_, fun j hj ↦ Registry.find?_unregister_of_ne s.registry hj, rfl, hitems, ?_, haccounts,
    ?_⟩
  · change ((s.registry.unregister id).2.find? id).map (·.mailbox) = none
    rw [Registry.find?_unregister_self]
    rfl
  · rw [← waiting_eq_zero_iff]
    exact forall_congr' fun i ↦ Nat.add_eq_left
  · intro held hb
    constructor
    · -- A balance without the items that waited would count each of them twice.
      intro hb'
      exact hb'.eq_nil_of_accounts (haccounts held hb)
    · intro hnil
      rw [hnil, List.nil_append] at hitems
      exact hb.of_same hwf rfl hitems.symm fun _ hmem ↦ hmem

/-- A task whose thread cannot be started leaves nothing behind. -/
theorem spawnTaskNotStarted_spec (s : TaskSystem) (id : TaskId) (name cause : String) :
    (s.spawnTaskNotStarted id name cause).2.registry = s.registry ∧
      (s.spawnTaskNotStarted id name cause).2.allocator = s.allocator := by
  rw [spawnTaskNotStarted]
  cases hr : s.registry.register id name with
  | error err =>
    rw [registerTask_of_error hr]
    exact ⟨registry_escalate s err, allocator_escalate s err⟩
  | ok x =>
    obtain ⟨t, q⟩ := x
    rw [registerTask_of_ok hr]
    dsimp only
    -- The mailbox that is dropped is the one just made, and nothing was delivered to it.
    have hback : (({ s with registry := q }.note [Registry.noteRegistered t]).note
        [noteNotStarted id cause]).registry.unregister id = (some t, s.registry) :=
      Registry.unregister_register hr
    rw [unregisterTask, hback]
    exact ⟨rfl, rfl⟩

/-! ## The law -/

/-- What the ends of registrations come to in a state. -/
structure UnregistrationLaw (s : TaskSystem) : Prop where
  unregisters : ∀ id m, s.mailbox? id = some m → Unregisters s (s.unregisterTask id).2 id m
  /-- A registration that is rolled back loses nothing. -/
  rolledBack : ∀ id name cause,
    (s.spawnTaskNotStarted id name cause).2.registry = s.registry ∧
      (s.spawnTaskNotStarted id name cause).2.allocator = s.allocator

/-- **The end of a registration** loses the items that wait in its mailbox, and nothing else. -/
theorem Reachable.unregistration_law (r : s.Reachable) : UnregistrationLaw s :=
  ⟨fun _ _ hm ↦ r.wellFormed.unregisters hm, s.spawnTaskNotStarted_spec⟩

/-- An item is on its way to a second task, and a borrowed envelope that names it as well. -/
def strandedRun : List Operation :=
  [.register ⟨1⟩ "first", .register ⟨2⟩ "second", .allocate 8 ⟨0, 0⟩,
    .send (.borrowed ⟨8⟩ ⟨1⟩ (.task ⟨2⟩) (.pooled ⟨7, 0, 0, 1⟩)),
    .send (.owning ⟨9⟩ ⟨1⟩ (.task ⟨2⟩) (.pooled ⟨7, 0, 0, 1⟩))]

theorem unregistration_law_strandedRun :
    ∃ s : TaskSystem, build ((Allocator.create 7 1).declareAll [(2, 8)])
        ⟨2, .report, .builtin, false, false⟩ = .ok s ∧ UnregistrationLaw (s.run strandedRun) ∧
      ∃ m, (s.run strandedRun).mailbox? ⟨2⟩ = some m ∧ m.items = [⟨7, 0, 0, 1⟩] ∧
        (s.run strandedRun).waiting m 0 = 1 := by
  have hpools := (Allocator.Reachable.create 7 1).declareAll [(2, 8)]
  refine ⟨_, rfl, Reachable.unregistration_law (.run (@Reachable.build _
    ⟨2, .report, .builtin, false, false⟩ _ hpools rfl) strandedRun), _, rfl, ?_, ?_⟩
  · decide
  · decide

/-- The items that wait in a mailbox are not given back to their pools. -/
theorem not_reclaims_strandedRun :
    ¬ ∀ s : TaskSystem, s.Reachable → ∀ id m, s.mailbox? id = some m →
      Reclaims s (s.unregisterTask id).2 m := by
  intro h
  have hpools := (Allocator.Reachable.create 7 1).declareAll [(2, 8)]
  have hreclaims := h _ (.run (@Reachable.build _
    ⟨2, .report, .builtin, false, false⟩ _ hpools rfl) strandedRun) ⟨2⟩ _ rfl 0
  revert hreclaims
  decide

end TaskSystem

end TaskMessaging
