import Mathlib.Data.List.Nodup
import TaskMessaging.Proofs.FirstRun
import TaskMessaging.Proofs.Timer.Table

/-!
# The schedule of a timer table

A table has two indices: its timers by identifier, and the appointments of those that wait, in the
order of their deadlines. Whatever is asked of a table, the appointments stay in that order, and an
appointment is one of a timer that is there, under the deadline of that timer. A timer therefore has
one appointment or none, and what is due is found at the head of the schedule.

## Arming a timer twice

A timer that replaces another is given its appointment first, and that of the timer it replaces is
cancelled afterwards. If both have the same deadline these are one appointment, which is gone in the
end: the timer is armed and never comes up. Every other timer is scheduled by arming it.
-/

namespace TaskMessaging

namespace Appointment

variable {a b c : Appointment}

theorem before_iff : a.before b = true ↔ a.deadline.nanoseconds < b.deadline.nanoseconds ∨
    a.deadline.nanoseconds = b.deadline.nanoseconds ∧ a.id.number.toNat < b.id.number.toNat := by
  rw [before, Bool.or_eq_true, Bool.and_eq_true, decide_eq_true_eq, decide_eq_true_eq,
    decide_eq_true_eq, Instant.lt_def, UInt64.lt_iff_toNat_lt, Instant.mk.injEq]

theorem ne_of_before (h : a.before b = true) : a ≠ b := by
  rintro rfl
  rw [before_iff] at h
  omega

theorem before_trans (hab : a.before b = true) (hbc : b.before c = true) : a.before c = true := by
  rw [before_iff] at *
  omega

/-- Of two appointments one comes before the other. -/
theorem before_of_not (hne : a ≠ b) (h : ¬ a.before b = true) : b.before a = true := by
  have hid : a.deadline.nanoseconds = b.deadline.nanoseconds →
      a.id.number.toNat ≠ b.id.number.toNat := by
    rintro hd hi
    obtain ⟨⟨d⟩, ⟨i⟩⟩ := a
    obtain ⟨⟨d'⟩, ⟨i'⟩⟩ := b
    obtain rfl := hd
    obtain rfl := UInt64.toNat_inj.mp hi
    exact hne rfl
  rw [before_iff] at *
  omega

theorem deadline_le_of_before (h : a.before b = true) : a.deadline ≤ b.deadline := by
  rw [before_iff] at h
  rw [Instant.le_def]
  omega

end Appointment

/-- A request to a timer table. -/
inductive TimerOperation where
  | insert (e : TimerEntry)
  | remove (id : TimerId)
  | popDue (now : Instant)
  | expire (id : TimerId) (now : Instant)

namespace TimerTable

variable {t : TimerTable} {e : TimerEntry} {a b : Appointment} {l : List Appointment}
  {id : TimerId} {now : Instant} {d : Instant}

/-! ## Making an appointment -/

theorem mem_appoint : b ∈ appoint a l ↔ b = a ∨ b ∈ l := by
  induction l with
  | nil => rw [appoint, List.mem_singleton, or_iff_left List.not_mem_nil]
  | cons c l ih =>
    rw [appoint]
    split
    · next h => rw [h, List.mem_cons, ← or_assoc, or_self]
    · split
      · exact List.mem_cons
      · rw [List.mem_cons, ih, List.mem_cons, or_left_comm]

theorem ordered_appoint (ho : l.Pairwise fun a b ↦ a.before b = true) :
    (appoint a l).Pairwise fun a b ↦ a.before b = true := by
  induction l with
  | nil => exact List.pairwise_singleton _ _
  | cons c l ih =>
    obtain ⟨hc, hl⟩ := List.pairwise_cons.mp ho
    rw [appoint]
    split
    · exact ho
    · next hne =>
      split
      · next hac =>
        refine List.pairwise_cons.mpr ⟨?_, ho⟩
        intro b hb
        rcases List.mem_cons.mp hb with rfl | hb
        · exact hac
        · exact Appointment.before_trans hac (hc b hb)
      · next hac =>
        refine List.pairwise_cons.mpr ⟨?_, ih hl⟩
        intro b hb
        rcases mem_appoint.mp hb with rfl | hb
        · exact Appointment.before_of_not hne hac
        · exact hc b hb

/-! ## The two indices -/

/-- What every request leaves of the two indices: appointments in order, and at most one for each
timer, under its deadline. -/
structure WellFormed (t : TimerTable) : Prop where
  ordered : t.schedule.Pairwise fun a b ↦ a.before b = true
  place : ∀ id, t.deadlines id = [] ∨ ∃ e, t.get? id = some e ∧ t.deadlines id = [e.deadline]

theorem mem_deadlines : d ∈ t.deadlines id ↔ ⟨d, id⟩ ∈ t.schedule := by
  rw [deadlines, List.mem_map]
  constructor
  · rintro ⟨a, ha, rfl⟩
    obtain ⟨hmem, hid⟩ := List.mem_filter.mp ha
    obtain rfl := of_decide_eq_true hid
    exact hmem
  · intro h
    exact ⟨⟨d, id⟩, List.mem_filter.mpr ⟨h, decide_eq_true rfl⟩, rfl⟩

/-- There is a timer already that has the identifier and the deadline of another. -/
def Repeats (t : TimerTable) (e : TimerEntry) : Prop :=
  (t.get? e.id).map (·.deadline) = some e.deadline

instance (t : TimerTable) (e : TimerEntry) : Decidable (t.Repeats e) :=
  inferInstanceAs (Decidable (_ = _))

/-- No deadline stands twice, as no appointment comes before itself. -/
theorem nodup_deadlines (ho : t.schedule.Pairwise fun a b ↦ a.before b = true) (id : TimerId) :
    (t.deadlines id).Nodup := by
  rw [deadlines, List.Nodup, List.pairwise_map]
  refine (ho.filter _).imp_of_mem ?_
  intro a b ha hb hab hd
  have hid : a.id = b.id :=
    (of_decide_eq_true (List.mem_filter.mp ha).2).trans
      (of_decide_eq_true (List.mem_filter.mp hb).2).symm
  refine Appointment.ne_of_before hab ?_
  obtain ⟨d, i⟩ := a
  rw [Appointment.mk.injEq]
  exact ⟨hd, hid⟩

theorem WellFormed.deadlines_of_armed (wf : t.WellFormed) (h : t.get? id = some e) :
    t.deadlines id = [e.deadline] ∨ t.deadlines id = [] := by
  refine (wf.place id).symm.imp_left ?_
  rintro ⟨f, hf, hd⟩
  obtain rfl := Option.some.inj (h.symm.trans hf)
  exact hd

theorem WellFormed.deadlines_of_not_armed (wf : t.WellFormed) (h : t.get? id = none) :
    t.deadlines id = [] := by
  rcases wf.place id with hd | ⟨e, he, -⟩
  · exact hd
  · cases h.symm.trans he

theorem WellFormed.eq_of_mem_deadlines (wf : t.WellFormed) (h : t.get? id = some e)
    (hd : d ∈ t.deadlines id) : d = e.deadline := by
  rcases wf.deadlines_of_armed h with hone | hnone
  · rw [hone] at hd
    exact List.mem_singleton.mp hd
  · rw [hnone] at hd
    cases hd

/-! ## What requests leave of them -/

theorem wellFormed_empty : empty.WellFormed := ⟨List.Pairwise.nil, fun _ ↦ Or.inl rfl⟩

theorem ordered_insert (ho : t.schedule.Pairwise fun a b ↦ a.before b = true) (e : TimerEntry) :
    (t.insert e).schedule.Pairwise fun a b ↦ a.before b = true := by
  rw [insert]
  dsimp only
  split
  · exact (ordered_appoint ho).sublist List.erase_sublist
  · exact ordered_appoint ho

/-- A timer is scheduled under its deadline, unless that was the deadline before. -/
theorem WellFormed.mem_deadlines_insert (wf : t.WellFormed) :
    d ∈ (t.insert e).deadlines e.id ↔
      d = e.deadline ∧ (t.get? e.id).map (·.deadline) ≠ some d := by
  have hmem (d : Instant) : (⟨d, e.id⟩ : Appointment) ∈ appoint ⟨e.deadline, e.id⟩ t.schedule ↔
      d = e.deadline ∨ d ∈ t.deadlines e.id := by
    rw [mem_appoint, mem_deadlines, Appointment.mk.injEq, and_iff_left rfl]
  rw [TimerTable.mem_deadlines, insert]
  dsimp only
  cases hget : t.get? e.id with
  | none =>
    dsimp only
    rw [hmem, wf.deadlines_of_not_armed hget, or_iff_left List.not_mem_nil, Option.map_none]
    exact (and_iff_left (Option.some_ne_none d).symm).symm
  | some old =>
    dsimp only
    have hnodup : (appoint ⟨e.deadline, e.id⟩ t.schedule).Nodup :=
      (ordered_appoint wf.ordered).imp Appointment.ne_of_before
    rw [hnodup.mem_erase_iff, hmem, id_of_get? hget, Option.map_some, ne_eq, Appointment.mk.injEq,
      and_iff_left rfl]
    constructor
    · rintro ⟨hne, hd⟩
      -- Whatever else the timer is scheduled under is its old deadline.
      have hnew : d ∉ t.deadlines e.id := mt (wf.eq_of_mem_deadlines hget) hne
      exact ⟨hd.resolve_right hnew, fun h ↦ hne (Option.some.inj h).symm⟩
    · rintro ⟨hd, hne⟩
      exact ⟨fun h ↦ hne (congrArg some h.symm), Or.inl hd⟩

/-- **Arming a timer schedules it**, and only once, unless that was its deadline before. -/
theorem WellFormed.deadlines_insert (wf : t.WellFormed) (e : TimerEntry) :
    (t.insert e).deadlines e.id = if t.Repeats e then [] else [e.deadline] := by
  split
  · next h =>
    rw [List.eq_nil_iff_forall_not_mem]
    rintro d hd
    obtain ⟨rfl, hne⟩ := wf.mem_deadlines_insert.mp hd
    exact hne h
  · next h =>
    refine List.perm_singleton.mp ((List.perm_ext_iff_of_nodup
      (nodup_deadlines (ordered_insert wf.ordered e) e.id) (List.pairwise_singleton _ _)).mpr ?_)
    intro d
    rw [wf.mem_deadlines_insert, List.mem_singleton]
    exact and_iff_left_of_imp fun hd ↦ hd ▸ h

theorem WellFormed.insert (wf : t.WellFormed) (e : TimerEntry) : (t.insert e).WellFormed := by
  refine ⟨ordered_insert wf.ordered e, ?_⟩
  intro id
  by_cases hid : id = e.id
  · rw [hid, wf.deadlines_insert, get?_insert_self]
    split
    · exact Or.inl rfl
    · exact Or.inr ⟨e, rfl, rfl⟩
  · rw [deadlines_insert_of_ne hid, get?_insert, if_neg hid]
    exact wf.place id

/-- Behind the removal of a timer nothing is scheduled for it. -/
theorem WellFormed.deadlines_remove (wf : t.WellFormed) (id : TimerId) :
    (t.remove id).2.deadlines id = [] := by
  cases hget : t.get? id with
  | none =>
    rw [TimerTable.remove, hget]
    exact wf.deadlines_of_not_armed hget
  | some e => exact deadlines_remove_self hget (wf.deadlines_of_armed hget)

theorem WellFormed.remove (wf : t.WellFormed) (j : TimerId) : (t.remove j).2.WellFormed := by
  constructor
  · rw [TimerTable.remove]
    split
    · exact wf.ordered
    · exact wf.ordered.sublist List.erase_sublist
  · intro id
    by_cases hid : id = j
    · rw [hid]
      exact Or.inl (wf.deadlines_remove j)
    · rw [deadlines_remove_of_ne hid, get?_remove, if_neg hid]
      exact wf.place id

theorem WellFormed.popDue (wf : t.WellFormed) (now : Instant) : (t.popDue now).2.WellFormed := by
  refine ⟨wf.ordered.sublist (List.dropWhile_sublist _), ?_⟩
  intro id
  -- Of one appointment at most, what is left is that one or none.
  obtain ⟨due, hsplit, -⟩ := deadlines_popDue t now id
  rcases wf.place id with hd | ⟨e, he, hd⟩
  · rw [hd] at hsplit
    exact Or.inl (List.append_eq_nil_iff.mp hsplit.symm).2
  · rw [hd] at hsplit
    rcases List.append_eq_singleton_iff.mp hsplit.symm with ⟨-, hleft⟩ | ⟨-, hleft⟩
    · exact Or.inr ⟨e, he, hleft⟩
    · exact Or.inl hleft

theorem WellFormed.expire (wf : t.WellFormed) (id : TimerId) (now : Instant) :
    (t.expire id now).2.WellFormed := by
  rcases expire_cases t id now with ⟨-, hx⟩ | ⟨e, -, ⟨interval, next, -, -, hx⟩ | hx⟩
  · rw [hx]
    exact wf
  · rw [hx]
    exact wf.insert _
  · rw [hx]
    exact wf.remove id

/-! ## Runs -/

/-- The table behind a request. -/
def perform (t : TimerTable) : TimerOperation → TimerTable
  | .insert e => t.insert e
  | .remove id => (t.remove id).2
  | .popDue now => (t.popDue now).2
  | .expire id now => (t.expire id now).2

def run (t : TimerTable) (ops : List TimerOperation) : TimerTable := ops.foldl perform t

theorem WellFormed.perform (wf : t.WellFormed) (op : TimerOperation) :
    (t.perform op).WellFormed := by
  cases op with
  | insert e => exact wf.insert e
  | remove id => exact wf.remove id
  | popDue now => exact wf.popDue now
  | expire id now => exact wf.expire id now

/-- **The two indices agree** whatever is asked of a table, in any order. -/
theorem WellFormed.run (wf : t.WellFormed) (ops : List TimerOperation) :
    (t.run ops).WellFormed := by
  induction ops generalizing t with
  | nil => exact wf
  | cons op ops ih => exact ih (wf.perform op)

/-! ## What is due -/

/-- Whoever comes before an appointment that is due is due. -/
theorem due_of_before (ho : t.schedule.Pairwise fun a b ↦ a.before b = true) (now : Instant) :
    t.schedule.Pairwise fun a b ↦
      decide (b.deadline ≤ now) = true → decide (a.deadline ≤ now) = true := by
  refine ho.imp ?_
  intro a b hab hb
  exact decide_eq_true (Nat.le_trans (Appointment.deadline_le_of_before hab) (of_decide_eq_true hb))

theorem popDue_fst (ho : t.schedule.Pairwise fun a b ↦ a.before b = true) (now : Instant) :
    (t.popDue now).1 = (t.schedule.filter fun a ↦ a.deadline ≤ now).map (·.id) := by
  rw [popDue, takeWhile_eq_filter (due_of_before ho now)]

theorem schedule_popDue (ho : t.schedule.Pairwise fun a b ↦ a.before b = true) (now : Instant) :
    (t.popDue now).2.schedule = t.schedule.filter fun a ↦ !decide (a.deadline ≤ now) :=
  dropWhile_eq_filter (due_of_before ho now)

theorem mem_popDue (ho : t.schedule.Pairwise fun a b ↦ a.before b = true) :
    id ∈ (t.popDue now).1 ↔ ∃ d ∈ t.deadlines id, d ≤ now := by
  rw [popDue_fst ho, List.mem_map]
  constructor
  · rintro ⟨a, ha, rfl⟩
    obtain ⟨hmem, hdue⟩ := List.mem_filter.mp ha
    exact ⟨a.deadline, mem_deadlines.mpr hmem, of_decide_eq_true hdue⟩
  · rintro ⟨d, hd, hdue⟩
    exact ⟨⟨d, id⟩, List.mem_filter.mpr ⟨mem_deadlines.mp hd, decide_eq_true hdue⟩, rfl⟩

/-- A timer is taken off the schedule as often as it is due. -/
theorem count_popDue (ho : t.schedule.Pairwise fun a b ↦ a.before b = true) (now : Instant)
    (id : TimerId) : (t.popDue now).1.count id = (t.deadlines id).countP fun d ↦ d ≤ now := by
  rw [popDue_fst ho, List.count, List.countP_map, List.countP_filter, deadlines, List.countP_map,
    List.countP_filter]
  congr 1
  funext a
  exact Bool.and_comm _ _

theorem WellFormed.nodup_popDue (wf : t.WellFormed) (now : Instant) : (t.popDue now).1.Nodup := by
  rw [List.nodup_iff_count_le_one]
  intro id
  rw [count_popDue wf.ordered]
  refine Nat.le_trans List.countP_le_length ?_
  rcases wf.place id with hd | ⟨e, -, hd⟩
  · rw [hd]
    exact Nat.zero_le 1
  · rw [hd]
    exact Nat.le_refl 1

/-- Nothing that is left is due. -/
theorem lt_of_nextDeadline (ho : t.schedule.Pairwise fun a b ↦ a.before b = true)
    (h : (t.popDue now).2.nextDeadline = some d) : now < d := by
  rw [nextDeadline, Option.map_eq_some_iff] at h
  obtain ⟨a, ha, rfl⟩ := h
  have hmem := List.mem_of_head? ha
  rw [schedule_popDue ho, List.mem_filter, Bool.not_eq_true', decide_eq_false_iff_not] at hmem
  exact Nat.lt_of_not_le hmem.2

section

variable {s u : Instant}

/-- What is due at one moment is due at any later one. -/
theorem due_mono (h : s ≤ u) (a : Appointment) (ha : decide (a.deadline ≤ s) = true) :
    decide (a.deadline ≤ u) = true := decide_eq_true (Nat.le_trans (of_decide_eq_true ha) h)

theorem popDue_append_popDue (t : TimerTable) (h : s ≤ u) :
    (t.popDue s).1 ++ ((t.popDue s).2.popDue u).1 = (t.popDue u).1 := by
  rw [popDue, popDue, popDue, ← List.map_append, takeWhile_append_takeWhile (due_mono h)]

theorem popDue_popDue (t : TimerTable) (h : s ≤ u) :
    ((t.popDue s).2.popDue u).2 = (t.popDue u).2 := by
  rw [popDue, popDue, popDue, dropWhile_dropWhile (due_mono h)]

theorem popDue_popDue_of_le (t : TimerTable) (h : s ≤ u) :
    (t.popDue u).2.popDue s = ([], (t.popDue u).2) := by
  have hnone : ((t.popDue u).2.schedule.takeWhile fun a ↦ a.deadline ≤ s) = [] :=
    takeWhile_dropWhile (due_mono h)
  have hsame := List.takeWhile_append_dropWhile (p := fun a : Appointment ↦ decide (a.deadline ≤ s))
    (l := (t.popDue u).2.schedule)
  rw [hnone, List.nil_append] at hsame
  rw [popDue, hnone, hsame, List.map_nil]

end

/-- What popping does with the appointments of a table. -/
structure PopLaw (t : TimerTable) : Prop where
  /-- They are in the order of deadlines and then of identifiers, and so is what is popped. -/
  ordered : t.schedule.Pairwise fun a b ↦ a.before b = true
  /-- Precisely the timers that are due are popped, each of them once. -/
  due : ∀ now, (t.popDue now).1 = (t.schedule.filter fun a ↦ a.deadline ≤ now).map (·.id)
  once : ∀ now, (t.popDue now).1.Nodup
  /-- Precisely these leave the schedule, and no timer is forgotten. -/
  left : ∀ now, (t.popDue now).2.schedule = t.schedule.filter fun a ↦ !decide (a.deadline ≤ now)
  entries : ∀ now, (t.popDue now).2.entries = t.entries
  next : ∀ now d, (t.popDue now).2.nextDeadline = some d → now < d
  /-- Popping early and late is popping late. -/
  twice : ∀ s u, s ≤ u → (t.popDue s).1 ++ ((t.popDue s).2.popDue u).1 = (t.popDue u).1 ∧
    ((t.popDue s).2.popDue u).2 = (t.popDue u).2
  /-- Popping late and then early finds nothing. -/
  nothing : ∀ s u, s ≤ u → (t.popDue u).2.popDue s = ([], (t.popDue u).2)

/-- **The law of popping.** Whatever was asked of a table, popping takes what is due off its
schedule, in order, and nothing else. -/
theorem pop_law (ops : List TimerOperation) : PopLaw (empty.run ops) := by
  have wf := wellFormed_empty.run ops
  exact ⟨wf.ordered, popDue_fst wf.ordered, wf.nodup_popDue, schedule_popDue wf.ordered,
    entries_popDue _, fun _ _ ↦ lt_of_nextDeadline wf.ordered,
    fun _ _ h ↦ ⟨popDue_append_popDue _ h, popDue_popDue _ h⟩,
    fun _ _ h ↦ popDue_popDue_of_le _ h⟩

/-! ## Arming -/

/-- What arming a timer does to a table. -/
structure InsertLaw (t : TimerTable) (e : TimerEntry) : Prop where
  entry : (t.insert e).get? e.id = some e
  /-- The timer gets an appointment, and only this one. -/
  appointment : ¬ t.Repeats e → (t.insert e).deadlines e.id = [e.deadline]
  /-- It comes up once, at its deadline. -/
  due : ¬ t.Repeats e → ∀ now, e.deadline ≤ now → ((t.insert e).popDue now).1.count e.id = 1
  early : ∀ now, now < e.deadline → e.id ∉ ((t.insert e).popDue now).1
  /-- If it replaces one with its deadline it never does. -/
  never : t.Repeats e → (t.insert e).deadlines e.id = [] ∧
    ∀ now, e.id ∉ ((t.insert e).popDue now).1
  others : ∀ id, id ≠ e.id →
    (t.insert e).get? id = t.get? id ∧ (t.insert e).deadlines id = t.deadlines id

/-- **The law of arming.** In any table that requests lead to, a timer is scheduled by arming it
unless it replaces one with the same deadline. -/
theorem insert_law (ops : List TimerOperation) (e : TimerEntry) : InsertLaw (empty.run ops) e := by
  have wf := wellFormed_empty.run ops
  have ho := ordered_insert wf.ordered e
  refine ⟨get?_insert_self _ e, ?_, ?_, ?_, ?_, ?_⟩
  · intro h
    rw [wf.deadlines_insert, if_neg h]
  · intro h now hnow
    rw [count_popDue ho, wf.deadlines_insert, if_neg h]
    exact List.countP_cons_of_pos (decide_eq_true hnow)
  · intro now hnow hmem
    obtain ⟨d, hd, hdue⟩ := (mem_popDue ho).mp hmem
    obtain ⟨rfl, -⟩ := wf.mem_deadlines_insert.mp hd
    exact Nat.not_le_of_lt hnow hdue
  · intro h
    have hnone : ((empty.run ops).insert e).deadlines e.id = [] := by
      rw [wf.deadlines_insert, if_pos h]
    refine ⟨hnone, fun now hmem ↦ ?_⟩
    obtain ⟨d, hd, -⟩ := (mem_popDue ho).mp hmem
    rw [hnone] at hd
    cases hd
  · intro id hid
    exact ⟨by rw [get?_insert, if_neg hid], deadlines_insert_of_ne hid⟩

/-- Arming a timer gives it an appointment, without exception. -/
def Schedules (t : TimerTable) (e : TimerEntry) : Prop := (t.insert e).deadlines e.id = [e.deadline]

/-- A timer that is armed twice. -/
def twiceArmed : TimerEntry := ⟨⟨1⟩, ⟨1⟩, .oneShot, 7, ⟨5⟩⟩

/-- Armed for a second time while it waits, a timer is there for good and never comes up. -/
theorem not_schedules_twiceArmed :
    ((empty.run [.insert twiceArmed]).insert twiceArmed).get? ⟨1⟩ = some twiceArmed ∧
      ((empty.run [.insert twiceArmed]).insert twiceArmed).schedule = [] ∧
      (((empty.run [.insert twiceArmed]).insert twiceArmed).popDue ⟨6⟩).1 = [] ∧
      ¬ Schedules (empty.run [.insert twiceArmed]) twiceArmed := by
  refine ⟨rfl, rfl, rfl, ?_⟩
  intro h
  exact List.cons_ne_nil (⟨5⟩ : Instant) [] h.symm

end TimerTable

end TaskMessaging
