import Mathlib.Data.List.Perm.Basic
import TaskMessaging.Proofs.Timer.Schedule

/-!
# Appointments and timers

The schedule is a second index of a timer table, and the four operations change it at different
moments: an appointment is made before the old one is cancelled, and taken off long before its timer
expires. Between any two operations it is nevertheless no more than an index: every appointment is
that of a timer in the table, under the deadline of this timer. So no timer has two, there are no
more appointments than timers, and whatever is popped is known.

## Timers that are gone

A timer that was removed has no appointment left, and of all operations only arming brings it back.
An expiry arms timers too, but none that it does not find. So a timer that is disarmed between the
two halves of its expiry stays silent, however late the second half comes.
-/

namespace TaskMessaging.TimerTable

variable {t : TimerTable} {e : TimerEntry} {a : Appointment} {id : TimerId}

/-! ## Identifiers -/

/-- A timer has as many appointments as its identifier occurs in the schedule. -/
theorem count_schedule (t : TimerTable) (id : TimerId) :
    (t.schedule.map (·.id)).count id = (t.deadlines id).length := by
  rw [List.count, List.countP_map, List.countP_eq_length_filter, deadlines, List.length_map]
  rfl

/-- No timer has two appointments. -/
theorem WellFormed.nodup_schedule (wf : t.WellFormed) : (t.schedule.map (·.id)).Nodup := by
  rw [List.nodup_iff_count_le_one]
  intro id
  rw [count_schedule]
  rcases wf.place id with hd | ⟨e, -, hd⟩
  · rw [hd]
    exact Nat.zero_le 1
  · rw [hd]
    exact Nat.le_refl 1

/-- An appointment is that of a timer in the table, under its deadline. -/
theorem WellFormed.entry_of_appointment (wf : t.WellFormed) (ha : a ∈ t.schedule) :
    ∃ e, t.get? a.id = some e ∧ e.deadline = a.deadline := by
  have hd : a.deadline ∈ t.deadlines a.id := mem_deadlines.mpr ha
  cases hget : t.get? a.id with
  | none =>
    rw [wf.deadlines_of_not_armed hget] at hd
    cases hd
  | some e => exact ⟨e, rfl, (wf.eq_of_mem_deadlines hget hd).symm⟩

theorem mem_entries_of_get? (h : t.get? id = some e) : id ∈ t.entries.map (·.id) :=
  List.mem_map.mpr ⟨e, List.mem_of_find?_eq_some h, id_of_get? h⟩

theorem WellFormed.scheduled_le_size (wf : t.WellFormed) : t.scheduled ≤ t.size := by
  have hsub : t.schedule.map (·.id) ⊆ t.entries.map (·.id) := by
    intro id hid
    obtain ⟨a, ha, rfl⟩ := List.mem_map.mp hid
    obtain ⟨e, he, -⟩ := wf.entry_of_appointment ha
    exact mem_entries_of_get? he
  have hle := wf.nodup_schedule.length_le_of_subset hsub
  rwa [List.length_map, List.length_map] at hle

theorem WellFormed.get?_of_mem_popDue (wf : t.WellFormed) {now : Instant}
    (h : id ∈ (t.popDue now).1) : ∃ e, (t.popDue now).2.get? id = some e := by
  obtain ⟨d, hd, -⟩ := (mem_popDue wf.ordered).mp h
  obtain ⟨e, he, -⟩ := wf.entry_of_appointment (mem_deadlines.mp hd)
  exact ⟨e, he⟩

/-! ## Distinct timers -/

/-- No two timers of a table have the same identifier. -/
def Distinct (t : TimerTable) : Prop := (t.entries.map (·.id)).Nodup

theorem distinct_empty : empty.Distinct := List.nodup_nil

theorem Distinct.filter (h : t.Distinct) (id : TimerId) :
    ((t.entries.filter fun f ↦ f.id ≠ id).map (·.id)).Nodup :=
  h.sublist (List.filter_sublist.map _)

theorem Distinct.insert (h : t.Distinct) (e : TimerEntry) : (t.insert e).Distinct := by
  refine List.nodup_cons.mpr ⟨?_, h.filter e.id⟩
  intro hmem
  obtain ⟨f, hf, hid⟩ := List.mem_map.mp hmem
  exact of_decide_eq_true (List.mem_filter.mp hf).2 hid

theorem Distinct.remove (h : t.Distinct) (id : TimerId) : (t.remove id).2.Distinct := by
  rw [TimerTable.remove]
  split
  · exact h
  · exact h.filter id

theorem Distinct.perform (h : t.Distinct) (op : TimerOperation) : (t.perform op).Distinct := by
  cases op with
  | insert e => exact h.insert e
  | remove id => exact h.remove id
  | popDue now => exact h
  | expire id now =>
    change (t.expire id now).2.Distinct
    rcases expire_cases t id now with ⟨-, hx⟩ | ⟨e, -, ⟨interval, next, -, -, hx⟩ | hx⟩
    · rw [hx]
      exact h
    · rw [hx]
      exact h.insert _
    · rw [hx]
      exact h.remove id

theorem Distinct.run (h : t.Distinct) (ops : List TimerOperation) : (t.run ops).Distinct := by
  induction ops generalizing t with
  | nil => exact h
  | cons op ops ih => exact ih (h.perform op)

/-! ## Timers that are gone -/

/-- Nothing is left of a timer. -/
structure Gone (t : TimerTable) (id : TimerId) : Prop where
  entry : t.get? id = none
  appointment : ∀ a ∈ t.schedule, a.id ≠ id
  /-- An expiry that is completed now comes to nothing. -/
  silent : ∀ now, t.expire id now = (none, t)

theorem WellFormed.gone (wf : t.WellFormed) (h : t.get? id = none) : t.Gone id := by
  refine ⟨h, ?_, expire_of_not_armed h⟩
  rintro a ha rfl
  obtain ⟨e, he, -⟩ := wf.entry_of_appointment ha
  cases h.symm.trans he

/-- Only arming it brings a timer into the table. -/
theorem get?_perform_of_none (h : t.get? id = none) {op : TimerOperation}
    (hop : ∀ e, op = .insert e → e.id ≠ id) : (t.perform op).get? id = none := by
  cases op with
  | insert e =>
    change (t.insert e).get? id = none
    rw [get?_insert, if_neg (Ne.symm (hop e rfl)), h]
  | remove j =>
    change (t.remove j).2.get? id = none
    rw [get?_remove, h, ite_self]
  | popDue now => exact h
  | expire j now =>
    change (t.expire j now).2.get? id = none
    rw [get?_expire]
    split
    · next hid => rw [← hid, h, Option.bind_none]
    · exact h

theorem get?_run_of_none (h : t.get? id = none) {ops : List TimerOperation}
    (hops : ∀ e, .insert e ∈ ops → e.id ≠ id) : (t.run ops).get? id = none := by
  induction ops generalizing t with
  | nil => exact h
  | cons op ops ih =>
    refine ih (get?_perform_of_none h ?_) ?_
    · rintro e rfl
      exact hops e List.mem_cons_self
    · intro e he
      exact hops e (List.mem_cons_of_mem _ he)

/-! ## The law -/

/-- What the schedule of a table tells about its timers. -/
structure IndexLaw (t : TimerTable) : Prop where
  /-- An appointment is that of a timer in the table, under its deadline. -/
  entry : ∀ a ∈ t.schedule, ∃ e, t.get? a.id = some e ∧ e.deadline = a.deadline
  /-- No timer has two. -/
  once : (t.schedule.map (·.id)).Nodup
  distinct : t.Distinct
  scheduled_le : t.scheduled ≤ t.size
  /-- What is popped is still in the table, and comes up once. -/
  known : ∀ now, ∀ id ∈ (t.popDue now).1, ∃ e, (t.popDue now).2.get? id = some e
  popped : ∀ now, (t.popDue now).1.Nodup
  /-- Nothing is left of a timer that was removed, until it is armed again. -/
  gone : ∀ id ops, (∀ e, .insert e ∈ ops → e.id ≠ id) → ((t.remove id).2.run ops).Gone id

/-- **The law of the two indices.** Whatever is asked of a table, in any order, its schedule lists
timers that are there, each of them once. -/
theorem index_law (ops : List TimerOperation) : IndexLaw (empty.run ops) := by
  have wf := wellFormed_empty.run ops
  refine ⟨fun _ ↦ wf.entry_of_appointment, wf.nodup_schedule, distinct_empty.run ops,
    wf.scheduled_le_size, fun _ _ ↦ wf.get?_of_mem_popDue, wf.nodup_popDue, ?_⟩
  intro id later hlater
  have hnone : ((empty.run ops).remove id).2.get? id = none := by
    rw [get?_remove, if_pos rfl]
  exact ((wf.remove id).run later).gone (get?_run_of_none hnone hlater)

end TaskMessaging.TimerTable
