import Mathlib.Data.List.Nodup
import TaskMessaging.Task.Registry

/-!
# Well-formed registries

The tasks of a registry stand in strictly ascending order of their identifiers, so each identifier
is found at most once, and the order of the list is the order in which a broadcast visits the tasks.

Changing one task is described twice: through `find?`, for arguments that follow one identifier, and
as a split of the list around the task, for arguments that count over all of them.
-/

namespace TaskMessaging.Registry

variable {r q : Registry} {id j : TaskId} {t : Task} {ts : List Task}

/-- What every operation on a registry keeps. -/
structure WellFormed (r : Registry) : Prop where
  ordered : r.ids.Pairwise fun i j ↦ i.number < j.number
  core_notMem : TaskId.core ∉ r.ids

theorem WellFormed.nodup_ids (wf : r.WellFormed) : r.ids.Nodup :=
  wf.ordered.imp fun hlt he ↦ by
    subst he
    exact absurd hlt (UInt16.lt_irrefl _)

theorem mem_ids_of_find? (h : r.find? id = some t) : id ∈ r.ids := by
  obtain ⟨hmem, hid⟩ := find?_eq_some h
  exact List.mem_map.mpr ⟨t, hmem, hid⟩

theorem exists_find?_of_mem_ids (h : id ∈ r.ids) : ∃ t, r.find? id = some t := by
  obtain ⟨t, ht, hid⟩ := List.mem_map.mp h
  rw [← Option.isSome_iff_exists, find?, List.find?_isSome]
  exact ⟨t, ht, by simpa using hid⟩

theorem contains_iff : r.contains id = true ↔ id ∈ r.ids := by
  rw [contains, Option.isSome_iff_exists]
  exact ⟨fun ⟨_, h⟩ ↦ mem_ids_of_find? h, exists_find?_of_mem_ids⟩

theorem wellFormed_create (capacity : Nat) : (create capacity).WellFormed :=
  ⟨List.Pairwise.nil, List.not_mem_nil⟩

/-! ## Registering and unregistering -/

theorem ordered_insertTask (h : (ts.map (·.id)).Pairwise fun i j ↦ i.number < j.number)
    (hnew : t.id ∉ ts.map (·.id)) :
    ((insertTask t ts).map (·.id)).Pairwise fun i j ↦ i.number < j.number := by
  induction ts with
  | nil => simp [insertTask]
  | cons u us ih =>
    rw [List.map_cons, List.pairwise_cons] at h
    rw [List.map_cons, List.mem_cons, not_or] at hnew
    obtain ⟨hu, hus⟩ := h
    rw [insertTask]
    by_cases hlt : t.id.number < u.id.number
    · rw [if_pos hlt, List.map_cons, List.map_cons, List.pairwise_cons, List.pairwise_cons]
      refine ⟨fun i hi ↦ ?_, hu, hus⟩
      rcases List.mem_cons.mp hi with rfl | hmem
      · exact hlt
      · exact UInt16.lt_trans hlt (hu i hmem)
    · rw [if_neg hlt, List.map_cons, List.pairwise_cons]
      refine ⟨fun i hi ↦ ?_, ih hus hnew.2⟩
      obtain ⟨v, hv, rfl⟩ := List.mem_map.mp hi
      rcases mem_insertTask.mp hv with rfl | hmem
      · have hne : v.id.number ≠ u.id.number := fun he ↦
          hnew.1 (congrArg TaskId.mk he)
        exact UInt16.lt_of_le_of_ne (UInt16.not_lt.mp hlt) (Ne.symm hne)
      · exact hu v.id (List.mem_map_of_mem hmem)

/-- A registration that succeeds adds one task with an empty mailbox, and no other has its
identifier. -/
theorem register_eq_ok {name : String} (h : r.register id name = .ok (t, q)) :
    id ≠ .core ∧ id ∉ r.ids ∧ t = ⟨id, name, .create r.mailboxCapacity, none⟩ ∧
      q = { r with tasks := insertTask t r.tasks } := by
  rw [register] at h
  split at h
  · cases h
  · next hcore =>
    split at h
    · cases h
    · next hnew =>
      simp only [Except.ok.injEq, Prod.mk.injEq] at h
      obtain ⟨rfl, rfl⟩ := h
      exact ⟨hcore, fun hmem ↦ hnew (contains_iff.mpr hmem), rfl, rfl⟩

/-- A registration fails for the core, and for a task that is registered already. -/
theorem register_eq_error {name : String} {err : TaskError} (h : r.register id name = .error err) :
    id = .core ∨ r.contains id = true := by
  rw [register] at h
  split at h
  · next hcore => exact Or.inl hcore
  · split at h
    · next hold => exact Or.inr hold
    · cases h

theorem WellFormed.register (wf : r.WellFormed) {name : String}
    (h : r.register id name = .ok (t, q)) : q.WellFormed := by
  obtain ⟨hcore, hnew, rfl, rfl⟩ := register_eq_ok h
  refine ⟨ordered_insertTask wf.ordered hnew, fun hmem ↦ ?_⟩
  obtain ⟨u, hu, hid⟩ := List.mem_map.mp hmem
  rcases mem_insertTask.mp hu with rfl | hold
  · exact hcore hid
  · exact wf.core_notMem (List.mem_map.mpr ⟨u, hold, hid⟩)

theorem WellFormed.unregister (wf : r.WellFormed) (id : TaskId) :
    (r.unregister id).2.WellFormed := by
  have hsub : (r.unregister id).2.ids.Sublist r.ids := List.Sublist.map _ List.filter_sublist
  exact ⟨wf.ordered.sublist hsub, fun hmem ↦ wf.core_notMem (hsub.mem hmem)⟩

/-! ## Looking up after registering and unregistering -/

theorem find?_insertTask_of_ne (h : t.id ≠ j) (ts : List Task) :
    (insertTask t ts).find? (fun u ↦ u.id = j) = ts.find? fun u ↦ u.id = j := by
  have hfirst (us : List Task) : (t :: us).find? (fun u ↦ u.id = j) = us.find? fun u ↦ u.id = j :=
    List.find?_cons_of_neg (by simpa using h)
  induction ts with
  | nil => exact hfirst []
  | cons u us ih =>
    rw [insertTask]
    split
    · exact hfirst (u :: us)
    · rw [List.find?_cons, List.find?_cons, ih]

theorem find?_insertTask_self (h : t.id ∉ ts.map (·.id)) :
    (insertTask t ts).find? (fun u ↦ u.id = t.id) = some t := by
  induction ts with
  | nil => simp [insertTask]
  | cons u us ih =>
    rw [List.map_cons, List.mem_cons, not_or] at h
    rw [insertTask]
    split
    · simp
    · rw [List.find?_cons_of_neg (by simpa using Ne.symm h.1), ih h.2]

theorem find?_register_of_ne {name : String} (h : r.register id name = .ok (t, q)) (hj : j ≠ id) :
    q.find? j = r.find? j := by
  obtain ⟨-, -, rfl, rfl⟩ := register_eq_ok h
  exact find?_insertTask_of_ne (Ne.symm hj) r.tasks

theorem find?_register_self {name : String} (h : r.register id name = .ok (t, q)) :
    q.find? id = some t := by
  obtain ⟨-, hnew, rfl, rfl⟩ := register_eq_ok h
  exact find?_insertTask_self (t := ⟨id, name, .create r.mailboxCapacity, none⟩) hnew

theorem find?_unregister_of_ne (r : Registry) (hj : j ≠ id) :
    (r.unregister id).2.find? j = r.find? j := by
  rw [unregister, find?, find?, List.find?_filter]
  congr 1
  funext t
  by_cases ht : t.id = j
  · simp [ht, hj]
  · simp [ht]

theorem find?_unregister_self (r : Registry) (id : TaskId) :
    (r.unregister id).2.find? id = none := by
  rw [unregister, find?, List.find?_eq_none]
  intro t ht
  simpa using (List.mem_filter.mp ht).2

/-! ## Changing one task -/

theorem ids_update {f : Task → Task} (hf : ∀ t, (f t).id = t.id) : (r.update id f).ids = r.ids := by
  rw [update, ids, ids, List.map_map]
  refine List.map_congr_left fun t _ ↦ ?_
  by_cases ht : t.id = id
  · simp [ht, hf]
  · simp [ht]

@[simp] theorem ids_setMailbox (m : Mailbox) : (r.setMailbox id m).ids = r.ids :=
  ids_update fun _ ↦ rfl

@[simp] theorem ids_setThread (thread : Option TaskThread) : (r.setThread id thread).ids = r.ids :=
  ids_update fun _ ↦ rfl

theorem WellFormed.of_ids (wf : r.WellFormed) (h : q.ids = r.ids) : q.WellFormed :=
  ⟨h ▸ wf.ordered, h ▸ wf.core_notMem⟩

theorem find?_update {f : Task → Task} (hf : ∀ t, (f t).id = t.id) :
    (r.update id f).find? j = (r.find? j).map fun t ↦ if t.id = id then f t else t := by
  rw [find?, update, List.find?_map, find?]
  congr 2
  funext t
  by_cases ht : t.id = id
  · simp [ht, hf]
  · simp [ht]

theorem find?_setMailbox_self (h : r.find? id = some t) (m : Mailbox) :
    (r.setMailbox id m).find? id = some { t with mailbox := m } := by
  rw [setMailbox, find?_update (f := fun t ↦ { t with mailbox := m }) fun _ ↦ rfl, h,
    Option.map_some, if_pos (find?_eq_some h).2]

theorem find?_setMailbox_of_ne (h : j ≠ id) (m : Mailbox) :
    (r.setMailbox id m).find? j = r.find? j := by
  rw [setMailbox, find?_update (f := fun t ↦ { t with mailbox := m }) fun _ ↦ rfl]
  cases ht : r.find? j with
  | none => rfl
  | some t =>
    have hid : t.id ≠ id := (find?_eq_some ht).2 ▸ h
    rw [Option.map_some, if_neg hid]

/-- The tasks around the one that is found have other identifiers. -/
theorem WellFormed.exists_around (wf : r.WellFormed) (h : r.find? id = some t) :
    ∃ before after, r.tasks = before ++ t :: after ∧ (∀ u ∈ before, u.id ≠ id) ∧
      ∀ u ∈ after, u.id ≠ id := by
  obtain ⟨hmem, rfl⟩ := find?_eq_some h
  obtain ⟨before, after, hsplit⟩ := List.append_of_mem hmem
  have hnodup := wf.nodup_ids
  rw [ids, hsplit, List.map_append, List.map_cons, List.nodup_middle, List.nodup_cons,
    List.mem_append, not_or, List.mem_map, List.mem_map] at hnodup
  obtain ⟨⟨hbefore, hafter⟩, -⟩ := hnodup
  exact ⟨before, after, hsplit, fun u hu he ↦ hbefore ⟨u, hu, he⟩,
    fun u hu he ↦ hafter ⟨u, hu, he⟩⟩

/-- The list of tasks around the one that is found, and what changing its mailbox makes of it. -/
theorem WellFormed.exists_split (wf : r.WellFormed) (h : r.find? id = some t) :
    ∃ before after, r.tasks = before ++ t :: after ∧
      ∀ m, (r.setMailbox id m).tasks = before ++ { t with mailbox := m } :: after := by
  obtain ⟨before, after, hsplit, hbefore, hafter⟩ := wf.exists_around h
  have hother (us : List Task) (hus : ∀ u ∈ us, u.id ≠ id) (m : Mailbox) :
      us.map (fun u ↦ if u.id = id then { u with mailbox := m } else u) = us := by
    refine (List.map_congr_left ?_).trans (List.map_id us)
    intro u hu
    exact if_neg (hus u hu)
  refine ⟨before, after, hsplit, ?_⟩
  intro m
  rw [setMailbox, update, hsplit, List.map_append, List.map_cons, if_pos (find?_eq_some h).2,
    hother before hbefore, hother after hafter]

/-- Ending a registration takes the task out of the list, and leaves those around it. -/
theorem WellFormed.unregister_split (wf : r.WellFormed) (h : r.find? id = some t) :
    ∃ before after, r.tasks = before ++ t :: after ∧
      (r.unregister id).2.tasks = before ++ after := by
  obtain ⟨before, after, hsplit, hbefore, hafter⟩ := wf.exists_around h
  have hother (us : List Task) (hus : ∀ u ∈ us, u.id ≠ id) :
      us.filter (fun u ↦ decide (u.id ≠ id)) = us :=
    List.filter_eq_self.mpr fun u hu ↦ decide_eq_true (hus u hu)
  refine ⟨before, after, hsplit, ?_⟩
  change r.tasks.filter _ = _
  rw [hsplit, List.filter_append, List.filter_cons_of_neg (by simp [(find?_eq_some h).2]),
    hother before hbefore, hother after hafter]

theorem filter_insertTask (h : t.id ∉ ts.map (·.id)) :
    (insertTask t ts).filter (fun u ↦ u.id ≠ t.id) = ts := by
  induction ts with
  | nil => simp [insertTask]
  | cons u us ih =>
    have hne (v : Task) (hv : v ∈ u :: us) : decide (v.id ≠ t.id) = true :=
      decide_eq_true fun he ↦ h (List.mem_map.mpr ⟨v, hv, he⟩)
    rw [insertTask]
    split
    · rw [List.filter_cons_of_neg (by simp)]
      exact List.filter_eq_self.mpr hne
    · rw [List.filter_cons, if_pos (hne u List.mem_cons_self),
        ih fun hmem ↦ h (List.mem_cons_of_mem _ hmem)]

/-- A registration that ends at once leaves the registry as it was. -/
theorem unregister_register {name : String} (h : r.register id name = .ok (t, q)) :
    q.unregister id = (some t, r) := by
  rw [unregister, find?_register_self h]
  obtain ⟨-, hnew, rfl, rfl⟩ := register_eq_ok h
  have hback := filter_insertTask (t := ⟨id, name, .create r.mailboxCapacity, none⟩) hnew
  dsimp only at hback ⊢
  rw [hback]

end TaskMessaging.Registry
