import TaskMessaging.Proofs.Control.Oblivious
import TaskMessaging.Proofs.TaskSystem.Offer

/-!
# What the abort policy changes

Under the abort policy a process ends where under the report policy it goes on with an error. Until
then the two policies cannot be told apart: every operation gives the same result, leaves the same
state behind and reports the same. The law compares two runs, step by step, and the relation that it
keeps is that one system stands `under` both policies.

## Who escalates

The dispatcher never does. What it sends on its own carries no item, so its calls are plain, and a
plain call is harmless whatever state the system is in. All that can escalate is what clients ask
for directly.
-/

namespace TaskMessaging

namespace TaskSystem

variable {s : TaskSystem} {e : Envelope}

/-! ## Runs of the system -/

theorem escalated_prefix_run (s : TaskSystem) (ops : List Operation) :
    s.escalated <+: (s.run ops).escalated := by
  induction ops generalizing s with
  | nil => exact List.prefix_refl _
  | cons op ops ih => exact (oblivious_perform s op).grows.trans (ih (s.perform op).2)

theorem policy_run (s : TaskSystem) (ops : List Operation) : (s.run ops).policy = s.policy := by
  induction ops generalizing s with
  | nil => rfl
  | cons op ops ih => exact (ih (s.perform op).2).trans (oblivious_perform s op).policy

/-! ## Harmless calls -/

theorem escalated_spawnTaskNotStarted (s : TaskSystem) (id : TaskId) (name cause : String) :
    (s.spawnTaskNotStarted id name cause).2.escalated = (s.registerTask id name).2.escalated := by
  rw [spawnTaskNotStarted]
  rcases s.registerTask id name with ⟨err | t, s₁⟩
  · rfl
  · exact (silent_unregisterTask (s₁.note [noteNotStarted id cause]) id).escalated

end TaskSystem

/-- An operation that escalates nothing in any state. -/
def Operation.Harmless (op : Operation) : Prop := ∀ s, TaskSystem.Silent (·.perform op) s

namespace Operation

theorem IsPlain.harmless {op : Operation} (h : op.IsPlain) : op.Harmless := by
  intro s
  cases op with
  | broadcast e => exact (TaskSystem.silent_broadcast h s).map Answer.delivered
  | terminateTasks origin => exact (s.silent_terminateTasks origin).map Answer.delivered
  | releaseEnvelope e =>
    exact (TaskSystem.silent_releaseEnvelope h s).map (Answer.ofResult fun _ ↦ .done)
  | send e => exact s.silent_perform _ rfl
  | requestShutdown => exact s.silent_perform _ rfl
  | report entries => exact s.silent_perform _ rfl
  | _ => exact h.elim

end Operation

theorem TaskSystem.escalated_run_of_plain {s : TaskSystem} {ops : List Operation}
    (h : ∀ op ∈ ops, op.IsPlain) : (s.run ops).escalated = s.escalated := by
  induction ops generalizing s with
  | nil => rfl
  | cons op ops ih =>
    obtain ⟨hop, hops⟩ := List.forall_mem_cons.mp h
    exact (ih hops).trans (hop.harmless s).escalated

namespace ControlLoop

open Operation

variable {c d : ControlLoop} {j k : Journal}

/-! ## The calls of the dispatcher are plain -/

theorem plain_timerCalls (c : ControlLoop) (now : Instant) (id : TimerId) :
    ∀ op ∈ c.timerCalls now id, op.IsPlain := by
  intro op hop
  rw [timerCalls] at hop
  split at hop
  · rw [List.mem_singleton.mp hop]
    trivial
  · next f _ =>
    split at hop
    · rw [List.mem_singleton.mp hop]
      rfl
    · simp only [List.mem_cons, List.not_mem_nil, or_false] at hop
      rcases hop with rfl | rfl | rfl
      · rfl
      · trivial
      · rfl

theorem plain_reactCalls (c : ControlLoop) (now : Instant) (event : ControlEvent) :
    ∀ op ∈ c.reactCalls now event, op.IsPlain := by
  intro op hop
  cases event with
  | timerFired id => exact plain_timerCalls c now id op hop
  | shutdownRequested =>
    rw [List.mem_singleton.mp hop]
    trivial
  | fault signal =>
    rw [reactCalls, List.mem_append] at hop
    rcases hop with hfirst | hstop
    · simp only [List.mem_cons, List.not_mem_nil, or_false] at hfirst
      rcases hfirst with rfl | rfl
      · trivial
      · rfl
    · split at hstop
      · rw [List.mem_singleton.mp hstop]
        trivial
      · exact absurd hstop List.not_mem_nil
  | interrupt =>
    simp only [reactCalls, List.mem_cons, List.not_mem_nil, or_false] at hop
    rcases hop with rfl | rfl
    · trivial
    · trivial
  | unrecognized signal =>
    rw [List.mem_singleton.mp hop]
    trivial

theorem plain_handleCalls (c : ControlLoop) (now : Instant) (event : ControlEvent) :
    ∀ op ∈ c.handleCalls now event, op.IsPlain := by
  intro op hop
  rw [handleCalls] at hop
  split at hop
  · rw [List.mem_singleton.mp hop]
    trivial
  · rcases List.mem_append.mp hop with hreact | hnote
    · exact plain_reactCalls c now event op hreact
    · rw [List.mem_singleton.mp hnote]
      trivial

theorem plain_startCalls (c : ControlLoop) : ∀ op ∈ c.startCalls, op.IsPlain := by
  intro op hop
  rw [startCalls] at hop
  split at hop
  · rw [List.mem_singleton.mp hop]
    trivial
  · exact absurd hop List.not_mem_nil

theorem plain_consumeCalls (c : ControlLoop) (events : List Occurrence) :
    ∀ op ∈ c.consumeCalls events, op.IsPlain := by
  induction events generalizing c with
  | nil =>
    intro op hop
    rw [consumeCalls] at hop
    split at hop
    · exact absurd hop List.not_mem_nil
    · rw [List.mem_singleton.mp hop]
      trivial
  | cons o os ih =>
    intro op hop
    rw [consumeCalls] at hop
    split at hop
    · exact absurd hop List.not_mem_nil
    · rcases List.mem_append.mp hop with hfirst | hrest
      · exact plain_handleCalls c o.time o.event op hfirst
      · exact ih _ op hrest

/-! ## What a loop escalates -/

/-- The operations that break the contract between the tasks. -/
def Violates (c : ControlLoop) : ControlOperation → Prop
  | .system op => c.system.Violates op
  | .spawnNotStarted id _ _ => id ≠ .core ∧ id ∈ c.system.registry.ids
  | _ => False

/-- No event makes the dispatcher break it. -/
theorem escalated_perform_of_plain {op : ControlOperation}
    (h : ∀ call ∈ c.calls op, call.IsPlain) :
    (c.perform op).2.system.escalated = c.system.escalated := by
  rw [system_perform]
  exact TaskSystem.escalated_run_of_plain h

theorem escalated_perform_iff (wf : c.system.WellFormed) (op : ControlOperation) :
    (c.perform op).2.system.escalated ≠ c.system.escalated ↔ c.Violates op := by
  have hquiet {op : ControlOperation} (h : ∀ call ∈ c.calls op, call.IsPlain) :
      (c.perform op).2.system.escalated ≠ c.system.escalated ↔ False :=
    iff_false_intro fun hne ↦ hne (escalated_perform_of_plain h)
  cases op with
  | system op => exact wf.escalated_perform_iff op
  | spawnNotStarted id name cause =>
    rw [perform, TaskSystem.escalated_spawnTaskNotStarted]
    exact TaskSystem.escalated_registerTask_iff.not.trans not_not
  | start => exact hquiet c.plain_startCalls
  | handle now event => exact hquiet (c.plain_handleCalls now event)
  | run events =>
    refine hquiet fun call hcall ↦ ?_
    rcases List.mem_append.mp hcall with hstart | hconsume
    · exact c.plain_startCalls call hstart
    · exact c.start.plain_consumeCalls events call hconsume
  | arm | disarm | popDue | stopTimers => exact hquiet (List.forall_mem_nil _)

/-- Then no pool is changed. -/
theorem allocator_of_violates {op : ControlOperation} (h : c.Violates op) :
    (c.perform op).2.system.allocator = c.system.allocator := by
  cases op with
  | system op => exact TaskSystem.allocator_of_violates h
  | spawnNotStarted id name cause =>
    have hreg := c.system.allocator_registerTask id name
    rw [perform, TaskSystem.spawnTaskNotStarted]
    rcases hr : c.system.registerTask id name with ⟨err | t, s₁⟩
    · rw [hr] at hreg
      exact hreg
    · rw [hr] at hreg
      refine Eq.trans (b := s₁.allocator) ?_ hreg
      change ((s₁.note [TaskSystem.noteNotStarted id cause]).unregisterTask id).2.allocator = _
      rw [TaskSystem.unregisterTask]
      split <;> rfl
  | _ => exact h.elim

theorem escalated_prefix_runAll (c : ControlLoop) (ops : List ControlOperation) :
    c.system.escalated <+: (c.runAll ops).system.escalated := by
  rw [system_runAll]
  exact c.system.escalated_prefix_run _

theorem policy_runAll (c : ControlLoop) (ops : List ControlOperation) :
    (c.runAll ops).system.policy = c.system.policy := by
  rw [system_runAll]
  exact c.system.policy_run _

/-! ## Two runs -/

/-- Two loops that differ in nothing but the policies of their systems, one that reports and one
that aborts, and in the journals before some point. -/
def Twins (j k : Journal) (c d : ControlLoop) : Prop :=
  ∃ u : ControlLoop, u.system.policy = .report ∧ c = u.under .report j ∧ d = u.under .abort k

/-- What a sequence of operations does to two loops that differ only in the policy. -/
structure PolicyLaw (j k : Journal) (c d : ControlLoop) (ops : List ControlOperation) : Prop where
  /-- One process has ended exactly if the other one has escalated an error. -/
  aborts : (d.runAll ops).system.isAborted = true ↔ (c.runAll ops).system.escalated ≠ []
  /-- Until then everything that is told agrees. -/
  answers : (c.runAll ops).system.escalated = [] → d.answers ops = c.answers ops
  /-- So does everything that is left behind. -/
  twins : (c.runAll ops).system.escalated = [] → Twins j k (c.runAll ops) (d.runAll ops)
  /-- The next operation escalates an error exactly if it breaks the contract. -/
  escalates (op : ControlOperation) :
    ((c.runAll ops).perform op).2.system.escalated ≠ (c.runAll ops).system.escalated ↔
      (c.runAll ops).Violates op
  /-- Then it changes no pool. -/
  unchanged (op : ControlOperation) : (c.runAll ops).Violates op →
    ((c.runAll ops).perform op).2.system.allocator = (c.runAll ops).system.allocator

/-- Systems that are built alike, but for the policy, are twins. -/
theorem Twins.of_build {a : Allocator} {settings : TaskSystem.Settings} {s t : TaskSystem}
    (hs : TaskSystem.build a { settings with policy := .report } = .ok s)
    (ht : TaskSystem.build a { settings with policy := .abort } = .ok t) (dispatcher : Dispatcher)
    (timers : TimerService) :
    Twins s.journal t.journal ⟨dispatcher, s, timers⟩ ⟨dispatcher, t, timers⟩ := by
  rw [TaskSystem.build] at hs ht
  split at hs
  · cases hs
  · next hcap =>
    rw [if_neg hcap] at ht
    cases hs
    cases ht
    exact ⟨⟨dispatcher, ⟨a, .create settings.mailboxCapacity, settings.catalog, .zero, .initial,
      settings.terminating, if settings.tapped then some [] else none, .report, [], []⟩, timers⟩,
      rfl, rfl, rfl⟩

theorem Twins.policy (h : Twins j k c d) : d.system.policy = .abort := by
  obtain ⟨u, -, -, rfl⟩ := h
  rfl

theorem Twins.escalated (h : Twins j k c d) : d.system.escalated = c.system.escalated := by
  obtain ⟨u, -, rfl, rfl⟩ := h
  rfl

/-- One operation on both: they stay twins, or both escalate. -/
theorem Twins.perform (h : Twins j k c d) (wf : c.system.WellFormed) (op : ControlOperation) :
    ((c.perform op).2.system.escalated = c.system.escalated ∧ (d.perform op).1 = (c.perform op).1 ∧
        Twins j k (c.perform op).2 (d.perform op).2) ∨
      ((c.perform op).2.system.escalated ≠ c.system.escalated ∧
        (d.perform op).2.system.escalated ≠ d.system.escalated) := by
  obtain ⟨u, hu, rfl, rfl⟩ := h
  have hreport := u.perform_under .report j op (.inl hu.symm)
  by_cases hstep : (u.perform op).2.system.escalated = u.system.escalated
  · left
    rw [hreport, u.perform_under .abort k op (.inr hstep)]
    refine ⟨hstep, rfl, (u.perform op).2, ?_, rfl, rfl⟩
    exact (u.policy_runAll [op]).trans hu
  · right
    -- Whether an operation breaks the contract can be asked under any policy.
    have hviolates := (u.escalated_perform_iff ⟨wf.allocator, wf.registry⟩ op).mp hstep
    constructor
    · rw [hreport]
      exact hstep
    · refine ((u.under .abort k).escalated_perform_iff ⟨wf.allocator, wf.registry⟩ op).mpr ?_
      cases op <;> exact hviolates

/-- And any number of them. -/
theorem Twins.runAll (h : Twins j k c d) (r : c.system.Reachable)
    (hnil : c.system.escalated = []) (ops : List ControlOperation) :
    ((c.runAll ops).system.escalated = [] ∧ d.answers ops = c.answers ops ∧
        Twins j k (c.runAll ops) (d.runAll ops)) ∨
      ((c.runAll ops).system.escalated ≠ [] ∧ (d.runAll ops).system.escalated ≠ []) := by
  induction ops generalizing c d with
  | nil => exact .inl ⟨hnil, rfl, h⟩
  | cons op ops ih =>
    -- What is escalated once stays on the list.
    have hkept (c : ControlLoop) (hop : (c.perform op).2.system.escalated ≠ []) :
        (c.runAll (op :: ops)).system.escalated ≠ [] := fun he ↦
      hop (List.prefix_nil.mp (he ▸ (c.perform op).2.escalated_prefix_runAll ops))
    have hd : d.system.escalated = [] := h.escalated.trans hnil
    rcases h.perform r.wellFormed op with ⟨hquiet, hsame, htwins⟩ | ⟨hc, hd'⟩
    · rcases ih htwins (reachable_perform r op) (hquiet.trans hnil) with ⟨he, ha, ht⟩ | hboth
      · exact .inl ⟨he, congrArg₂ List.cons hsame ha, ht⟩
      · exact .inr hboth
    · exact .inr ⟨hkept c (hnil ▸ hc), hkept d (hd ▸ hd')⟩

/-- **The abort policy only truncates.** -/
theorem policy_law (r : c.system.Reachable) (hnil : c.system.escalated = [])
    (h : Twins j k c d) (ops : List ControlOperation) : PolicyLaw j k c d ops := by
  have wf := (reachable_runAll r ops).wellFormed
  have habort : (d.runAll ops).system.isAborted = true ↔ (d.runAll ops).system.escalated ≠ [] := by
    rw [TaskSystem.isAborted, policy_runAll, h.policy]
    simp
  rcases h.runAll r hnil ops with ⟨hn, ha, ht⟩ | ⟨hc, hd⟩
  · exact {
      aborts := by rw [habort, ht.escalated]
      answers := fun _ ↦ ha
      twins := fun _ ↦ ht
      escalates := escalated_perform_iff wf
      unchanged := fun _ ↦ allocator_of_violates }
  · exact {
      aborts := habort.trans (iff_of_true hd hc)
      answers := fun hn ↦ absurd hn hc
      twins := fun hn ↦ absurd hn hc
      escalates := escalated_perform_iff wf
      unchanged := fun _ ↦ allocator_of_violates }

/-- The second of two fatal errors is not seen under the abort policy. -/
def repeatedRegistration : List ControlOperation :=
  [.system (.register ⟨1⟩ "first"), .handle ⟨0⟩ (.fault 11), .system (.register ⟨1⟩ "first"),
    .spawnNotStarted ⟨1⟩ "first" "no threads left"]

theorem policy_law_repeatedRegistration :
    ∃ s t : TaskSystem,
      TaskSystem.build (.create 7 0) ⟨2, .report, .builtin, false, false⟩ = .ok s ∧
      TaskSystem.build (.create 7 0) ⟨2, .abort, .builtin, false, false⟩ = .ok t ∧
      let c : ControlLoop := ⟨.create false, s, .initial⟩
      let d : ControlLoop := ⟨.create false, t, .initial⟩
      PolicyLaw s.journal t.journal c d repeatedRegistration ∧
        (d.runAll (repeatedRegistration.take 2)).system.isAborted = false ∧
        (d.runAll (repeatedRegistration.take 3)).system.isAborted = true := by
  have hbuild : TaskSystem.Reachable _ := @TaskSystem.Reachable.build _
    ⟨2, .report, .builtin, false, false⟩ _ (Allocator.Reachable.create 7 0) rfl
  have htwins := @Twins.of_build (.create 7 0) ⟨2, .report, .builtin, false, false⟩ _ _ rfl rfl
    (.create false) .initial
  refine ⟨_, _, rfl, rfl, policy_law hbuild rfl htwins _, ?_, ?_⟩
  · decide
  · decide

end ControlLoop

end TaskMessaging
