import TaskMessaging.Proofs.Pool.Validation
import TaskMessaging.Proofs.TaskSystem.Mail
import TaskMessaging.Proofs.TaskSystem.Oblivious

/-!
# What is escalated

A second registration of a task is, and the release of an item that is not live. Clients do both
directly, and a broadcast releases what it could not deliver. Its copies are never to blame: a copy
can be made of a live item only, and is live until it is released. So only the envelope itself can
be, when it comes back from the last recipient, or when there is no recipient at all.

A broadcast of an envelope that owns a dead item makes no copy. Every recipient but the last is
missed, which nobody but the journal learns of, and the last one finds the system as it was.
-/

namespace TaskMessaging

namespace Allocator

variable {a b : Allocator} {h : ItemHandle} {err : PoolError}

/-- Whoever frees an item that is not live has lost track of what it owns. -/
theorem isFatal_of_free_error {releaseTag : UInt16} (hf : a.free h releaseTag = .error err) :
    err.isFatal = true := by
  rw [free] at hf
  rcases hv : a.validate h with err' | ⟨p, u⟩
  · rw [hv] at hf
    obtain rfl : err' = err := Except.error.inj hf
    exact (violation_of_validate_error hv).isFatal
  · simp [hv, bind, Except.bind, pure, Except.pure] at hf

end Allocator

namespace TaskSystem

variable {s : TaskSystem} {e : Envelope} {id target last : TaskId} {h : ItemHandle}
  {targets : List TaskId}

/-- What an envelope owns, if it owns an item, is live. -/
def Backed (s : TaskSystem) (e : Envelope) : Prop :=
  ∀ h, e.handle? = some h → s.allocator.Live h

theorem backed_of_none (hn : e.handle? = none) (s : TaskSystem) : s.Backed e := by
  intro h hs
  rw [hn] at hs
  cases hs

theorem not_backed_iff : ¬ s.Backed e ↔ ∃ h, e.handle? = some h ∧ ¬ s.allocator.Live h := by
  simp [Backed]

/-- A task is registered whose mailbox has no room. -/
def IsFull (s : TaskSystem) (id : TaskId) : Prop :=
  ∃ m, s.mailbox? id = some m ∧ m.length = m.capacity

/-- A registered task refuses an envelope only if its mailbox is full. -/
theorem accepts_eq_false_iff (hid : id ∈ s.registry.ids) : s.accepts id = false ↔ s.IsFull id := by
  obtain ⟨t, ht⟩ := Registry.exists_find?_of_mem_ids hid
  have hle := t.mailbox.length_le_capacity
  rw [accepts, IsFull, mailbox?, ht]
  simp only [Option.map_some, Option.getD_some, decide_eq_false_iff_not, Option.some.injEq,
    exists_eq_left']
  omega

/-! ## Direct calls -/

theorem escalated_escalate_iff {err : TaskError} :
    (s.escalate err).escalated = s.escalated ↔ err.isFatal = false := by
  rw [escalate]
  split
  · next hf => simp [hf]
  · next hf => simp [hf]

theorem escalated_registerTask_iff {name : String} :
    (s.registerTask id name).2.escalated = s.escalated ↔ ¬ (id ≠ .core ∧ id ∈ s.registry.ids) := by
  rw [registerTask, Registry.register, ← Registry.contains_iff]
  by_cases hcore : id = .core
  · simp [hcore, escalate, TaskError.isFatal]
  · by_cases hold : s.registry.contains id = true
    · simp [hcore, hold, escalate, TaskError.isFatal]
    · simp [hcore, hold]

theorem escalated_spawnTask (s : TaskSystem) (id : TaskId) (name : String) :
    (s.spawnTask id name).2.escalated = (s.registerTask id name).2.escalated ∧
      (s.spawnTask id name).2.allocator = (s.registerTask id name).2.allocator := by
  rw [spawnTask]
  rcases s.registerTask id name with ⟨err | t, s₁⟩
  · exact ⟨rfl, rfl⟩
  · exact ⟨rfl, rfl⟩

theorem allocator_registerTask (s : TaskSystem) (id : TaskId) (name : String) :
    (s.registerTask id name).2.allocator = s.allocator := by
  rw [registerTask]
  split
  · rfl
  · exact allocator_escalate _ _

theorem escalated_free_iff {releaseTag : UInt16} :
    (s.free h releaseTag).2.escalated = s.escalated ↔ s.allocator.Live h := by
  rw [← Allocator.exists_free_iff releaseTag, free]
  rcases hf : s.allocator.free h releaseTag with err | a
  · have hfatal := Allocator.isFatal_of_free_error hf
    refine iff_of_false (fun he ↦ ?_) (by simp)
    exact absurd (escalated_escalate_iff.mp he) (by simp [TaskError.isFatal, hfatal])
  · exact iff_of_true rfl ⟨a, rfl⟩

theorem allocator_free_of_not_live {releaseTag : UInt16} (hd : ¬ s.allocator.Live h) :
    (s.free h releaseTag).2.allocator = s.allocator := by
  rw [← Allocator.exists_free_iff releaseTag] at hd
  rw [free]
  split
  · next a ha => exact absurd ⟨a, ha⟩ hd
  · simp

/-- Releasing an envelope fails exactly if it owns an item that is not live. -/
theorem exists_release_iff : (∃ a, e.release s.allocator = .ok a) ↔ s.Backed e := by
  cases hs : e.handle? with
  | none => exact iff_of_true ⟨_, Envelope.release_of_none hs _⟩ (backed_of_none hs s)
  | some h =>
    rw [Envelope.release_of_some hs, Allocator.exists_free_iff, Backed, hs]
    simp

theorem escalated_releaseEnvelope_iff :
    (s.releaseEnvelope e).2.escalated = s.escalated ↔ s.Backed e := by
  rw [← exists_release_iff]
  rcases hr : e.release s.allocator with err | a
  · refine iff_of_false (fun he ↦ ?_) (by simp)
    have hfatal : err.isFatal = true := by
      cases hs : e.handle? with
      | none =>
        rw [Envelope.release_of_none hs] at hr
        cases hr
      | some h =>
        rw [Envelope.release_of_some hs] at hr
        exact Allocator.isFatal_of_free_error hr
    rw [releaseEnvelope, hr] at he
    exact absurd (escalated_escalate_iff.mp he) (by simp [TaskError.isFatal, hfatal])
  · exact iff_of_true (releaseEnvelope_of_ok hr).2.2 ⟨a, rfl⟩

theorem escalated_discard_iff : (s.discard e).escalated = s.escalated ↔ s.Backed e := by
  rw [escalated_discard, escalated_releaseEnvelope_iff]

/-! ## Broadcasts -/

theorem escalated_deliverOrDiscard_iff :
    (s.deliverOrDiscard target e).2.escalated = s.escalated ↔
      s.accepts target = true ∨ s.Backed e := by
  have halloc := allocator_deliver s target e
  have hesc := escalated_deliver s target e
  rw [deliverOrDiscard]
  cases ha : s.accepts target with
  | true =>
    obtain ⟨t, m, -, -, hok, -⟩ := deliver_of_accepts ha e
    rcases hd : s.deliver target e with ⟨err | _, s₁⟩
    · rw [hd] at hok
      cases hok
    · rw [hd] at hesc
      exact iff_of_true hesc (.inl rfl)
  | false =>
    obtain ⟨reason, herr, -⟩ := deliver_of_not_accepts ha e
    rcases hd : s.deliver target e with ⟨err | _, s₁⟩
    · rw [hd] at herr halloc hesc
      obtain rfl : err = ⟨reason, e⟩ := Except.error.inj herr
      dsimp only at halloc hesc ⊢
      rw [← hesc, escalated_discard_iff, Backed, Backed, halloc]
      simp
    · rw [hd] at herr
      cases herr

/-- The envelopes whose copies can be released: those without an item, and in a well-formed system
all of them. -/
theorem backed_fork (hwf : e.handle? = none ∨ s.WellFormed) {copy : Envelope} {a : Allocator}
    (hf : e.fork target s.allocator = (.ok copy, a)) : { s with allocator := a }.Backed copy := by
  cases hs : e.handle? with
  | none =>
    rw [Envelope.fork_of_none hs] at hf
    cases hf
    exact backed_of_none hs _
  | some h =>
    have wf : s.WellFormed := hwf.resolve_left (by rw [hs]; exact nofun)
    rw [Envelope.fork_of_some hs] at hf
    rcases hdup : s.allocator.duplicate h with ⟨err | g, b⟩
    · rw [hdup] at hf
      cases hf
    · rw [hdup] at hf
      cases hf
      intro g' hg'
      obtain rfl : g = g' := Option.some.inj ((Envelope.handle?_copy hs _ g).symm.trans hg')
      exact ((Allocator.gains_of_duplicate wf.allocator hdup).2.1.live_iff g).mpr (.inl rfl)

/-- A fork escalates nothing, wherever it ends. -/
theorem escalated_deliverFork (hwf : e.handle? = none ∨ s.WellFormed) (target : TaskId) :
    (s.deliverFork e target).2.escalated = s.escalated := by
  rw [deliverFork]
  rcases hf : e.fork target s.allocator with ⟨err | copy, a⟩
  · rfl
  · exact escalated_deliverOrDiscard_iff.mpr (.inr (backed_fork hwf hf))

theorem backed_deliverFork (hwf : e.handle? = none ∨ s.WellFormed) (hb : s.Backed e)
    (target : TaskId) : (s.deliverFork e target).2.Backed e := by
  intro h hs
  have wf : s.WellFormed := hwf.resolve_left (by rw [hs]; exact nofun)
  -- A dead item would have no bytes to copy, and a fork keeps those of its source.
  have hsource := (deliverFork_spec wf e target).2.source
  rw [source?_of_live hs (hb h hs), source?, hs, Option.bind_some] at hsource
  by_contra hdead
  rw [if_neg hdead] at hsource
  cases hsource

theorem escalated_deliverAll_of_backed (hwf : e.handle? = none ∨ s.WellFormed) (hb : s.Backed e)
    (targets : List TaskId) : (s.deliverAll e targets).2.escalated = s.escalated := by
  induction targets generalizing s with
  | nil => rfl
  | cons target rest ih =>
    cases rest with
    | nil => exact escalated_deliverOrDiscard_iff.mpr (.inr hb)
    | cons next rest =>
      exact (ih (hwf.imp_right (·.deliverFork e target)) (backed_deliverFork hwf hb target)).trans
        (escalated_deliverFork hwf target)

/-- No copy is made of a dead item. -/
theorem deliverFork_of_not_backed (hd : ¬ s.Backed e) (target : TaskId) :
    ∃ j, (s.deliverFork e target).2 = s.note j := by
  obtain ⟨h, hs, hdead⟩ := not_backed_iff.mp hd
  rw [deliverFork, Envelope.fork_of_some hs, Allocator.duplicate]
  rcases hv : s.allocator.validate h with err | ⟨p, u⟩
  · exact ⟨_, rfl⟩
  · exact absurd ⟨p, u, hv⟩ hdead

/-- Then the last recipient is the only one that matters. -/
theorem deliverAll_of_not_backed (hd : ¬ s.Backed e) (targets : List TaskId) (last : TaskId) :
    ∃ j, (s.deliverAll e (targets ++ [last])).2 =
      ((s.note j).deliverOrDiscard last (e.readdress last)).2 := by
  induction targets generalizing s with
  | nil => exact ⟨[], by rw [note, List.append_nil]; rfl⟩
  | cons target rest ih =>
    obtain ⟨j, hj⟩ := deliverFork_of_not_backed hd target
    obtain ⟨k, hk⟩ := ih (s := s.note j) hd
    refine ⟨j ++ k, ?_⟩
    have hstep : (s.deliverAll e (target :: rest ++ [last])).2 =
        ((s.deliverFork e target).2.deliverAll e (rest ++ [last])).2 := by
      cases rest <;> rfl
    rw [hstep, hj, hk, note, note, note, List.append_assoc]

theorem escalated_broadcast_iff (hwf : e.handle? = none ∨ s.WellFormed) :
    (s.broadcast e).2.escalated = s.escalated ↔
      s.Backed e ∨ ∃ last, (s.recipients e.origin).getLast? = some last ∧
        s.accepts last = true := by
  rw [broadcast]
  split
  · next hnil =>
    change ((s.note [noteNoRecipients e]).discard e).escalated =
      (s.note [noteNoRecipients e]).escalated ↔ _
    rw [escalated_discard_iff, hnil]
    simp [Backed]
  · next hne =>
    change (s.deliverAll e (s.recipients e.origin)).2.escalated = _ ↔ _
    by_cases hb : s.Backed e
    · exact iff_of_true (escalated_deliverAll_of_backed hwf hb _) (.inl hb)
    · obtain ⟨last, hlast⟩ : ∃ last, (s.recipients e.origin).getLast? = some last :=
        ⟨_, List.getLast?_eq_some_getLast hne⟩
      -- No copy can be made, so all that can escalate is the last delivery.
      obtain ⟨front, hsplit⟩ := List.getLast?_eq_some_iff.mp hlast
      obtain ⟨j, hj⟩ := deliverAll_of_not_backed hb front last
      rw [hlast, hsplit, hj]
      change _ = (s.note j).escalated ↔ _
      rw [escalated_deliverOrDiscard_iff]
      change s.accepts last = true ∨ s.Backed e ↔ _
      simp [hb]

theorem not_live_of_not_backed (hd : ¬ s.Backed e) :
    ∀ h, e.handle? = some h → ¬ s.allocator.Live h := by
  intro g hg
  obtain ⟨h, hs, hdead⟩ := not_backed_iff.mp hd
  rwa [← Option.some.inj (hs.symm.trans hg)]

/-- The request to terminate owns nothing. -/
theorem silent_terminateTasks (s : TaskSystem) (origin : TaskId) :
    Silent (·.terminateTasks origin) s where
  toOblivious := oblivious_terminateTasks s origin
  escalated := (escalated_broadcast_iff (.inl rfl)).mpr (.inl (backed_of_none rfl _))

/-! ## The contract -/

/-- The last recipient of a broadcast is the registered task with the greatest identifier, the
origin aside. -/
theorem getLast?_recipients_iff (wf : s.WellFormed) :
    (s.recipients id).getLast? = some last ↔
      last ∈ s.recipients id ∧ ∀ j ∈ s.recipients id, j.number ≤ last.number := by
  have hordered : (s.recipients id).Pairwise fun i j ↦ i.number < j.number :=
    wf.registry.ordered.filter _
  have hgreatest (l : TaskId) (hl : (s.recipients id).getLast? = some l) :
      l ∈ s.recipients id ∧ ∀ j ∈ s.recipients id, j.number ≤ l.number := by
    obtain ⟨front, hsplit⟩ := List.getLast?_eq_some_iff.mp hl
    rw [hsplit] at hordered ⊢
    refine ⟨by simp, fun j hj ↦ ?_⟩
    rcases List.mem_append.mp hj with hfront | hend
    · exact UInt16.le_of_lt
        ((List.pairwise_append.mp hordered).2.2 j hfront l (List.mem_singleton_self l))
    · rw [List.mem_singleton.mp hend]
      exact UInt16.le_refl _
  refine ⟨hgreatest last, ?_⟩
  rintro ⟨hmem, hmax⟩
  have hne : s.recipients id ≠ [] := List.ne_nil_of_mem hmem
  have hl := List.getLast?_eq_some_getLast hne
  obtain ⟨hmem', hmax'⟩ := hgreatest _ hl
  rw [hl, Option.some.injEq]
  exact congrArg TaskId.mk (UInt16.le_antisymm (hmax _ hmem') (hmax' _ hmem))

/-- An operation breaks the contract between the tasks: it registers a task that is registered
already, or releases an item that is not live. A broadcast releases an item with its envelope if
nobody takes that. -/
def Violates (s : TaskSystem) : Operation → Prop
  | .register id _ | .spawn id _ => id ≠ .core ∧ id ∈ s.registry.ids
  | .free h _ => ¬ s.allocator.Live h
  | .releaseEnvelope e => ∃ h, e.handle? = some h ∧ ¬ s.allocator.Live h
  | .broadcast e =>
    (∃ h, e.handle? = some h ∧ ¬ s.allocator.Live h) ∧
      (s.recipients e.origin = [] ∨ ∃ last ∈ s.recipients e.origin,
        (∀ id ∈ s.recipients e.origin, id.number ≤ last.number) ∧ s.IsFull last)
  | _ => False

theorem violates_broadcast_iff (wf : s.WellFormed) :
    s.Violates (.broadcast e) ↔ (s.broadcast e).2.escalated ≠ s.escalated := by
  rw [Ne, escalated_broadcast_iff (.inr wf), not_or, Violates, ← not_backed_iff]
  refine and_congr_right fun _ ↦ ?_
  cases hl : (s.recipients e.origin).getLast? with
  | none =>
    rw [List.getLast?_eq_none_iff] at hl
    exact iff_of_true (.inl hl) (by simp)
  | some last =>
    have hne : s.recipients e.origin ≠ [] := by
      rintro hnil
      rw [hnil] at hl
      cases hl
    have hids (id : TaskId) (hid : id ∈ s.recipients e.origin) : id ∈ s.registry.ids :=
      (List.mem_filter.mp hid).1
    rw [or_iff_right hne]
    constructor
    · rintro ⟨l, hmem, hmax, hfull⟩ ⟨l', hl', hacc⟩
      have hsame := (getLast?_recipients_iff wf).mpr ⟨hmem, hmax⟩
      rw [hl] at hsame
      obtain rfl : l = l' := (Option.some.inj hsame).symm.trans (Option.some.inj hl')
      rw [(accepts_eq_false_iff (hids l hmem)).mpr hfull] at hacc
      cases hacc
    · intro hnot
      obtain ⟨hmem, hmax⟩ := (getLast?_recipients_iff wf).mp hl
      refine ⟨last, hmem, hmax, (accepts_eq_false_iff (hids last hmem)).mp ?_⟩
      exact Bool.eq_false_iff.mpr fun hacc ↦ hnot ⟨last, rfl, hacc⟩

/-- **An operation escalates exactly if it breaks the contract.** -/
theorem WellFormed.escalated_perform_iff (wf : s.WellFormed) (op : Operation) :
    (s.perform op).2.escalated ≠ s.escalated ↔ s.Violates op := by
  cases op with
  | register id name => exact escalated_registerTask_iff.not.trans not_not
  | spawn id name =>
    rw [TaskSystem.perform, (escalated_spawnTask s id name).1]
    exact escalated_registerTask_iff.not.trans not_not
  | free h releaseTag => exact escalated_free_iff.not
  | releaseEnvelope e => exact escalated_releaseEnvelope_iff.not.trans not_backed_iff
  | broadcast e => exact (violates_broadcast_iff wf).symm
  | terminateTasks origin =>
    exact iff_of_false (fun h ↦ h (silent_terminateTasks s origin).escalated) id
  | _ => exact iff_of_false (fun h ↦ h (silent_perform s _ rfl).escalated) id

/-- Then it changes no pool. -/
theorem allocator_of_violates {op : Operation} (h : s.Violates op) :
    (s.perform op).2.allocator = s.allocator := by
  cases op with
  | register id name => exact allocator_registerTask s id name
  | spawn id name =>
    rw [perform, (escalated_spawnTask s id name).2]
    exact allocator_registerTask s id name
  | free h' releaseTag => exact allocator_free_of_not_live h
  | releaseEnvelope e =>
    rw [perform, ← allocator_discard]
    exact allocator_discard_of_not_live (not_live_of_not_backed (not_backed_iff.mpr h))
  | broadcast e =>
    exact allocator_broadcast_of_not_live (not_live_of_not_backed (not_backed_iff.mpr h.1))
  | _ => exact h.elim

end TaskSystem

end TaskMessaging
