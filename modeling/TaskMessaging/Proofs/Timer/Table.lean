import Mathlib.Data.List.TakeWhile
import TaskMessaging.Timer.Service

/-!
# The timer table by identifier

Seen from one identifier, a table is an entry that may be there and a list of deadlines under which
the identifier is scheduled. Every operation is described by what it does to these two, for the
identifier that it is about and for all others.

A timer that is armed again replaces itself. Its old appointment is cancelled after the new one is
made, which would cancel the new one if both had the same deadline. They never do, because the next
deadline of a timer with an interval lies behind its previous one.
-/

namespace TaskMessaging

theorem Duration.pos_of_not_isZero {d : Duration} (h : d.isZero = false) : 0 < d.nanoseconds :=
  Nat.pos_of_ne_zero (beq_eq_false_iff_ne.mp h)

namespace TimerTable

variable {t : TimerTable} {e : TimerEntry} {a : Appointment} {l : List Appointment}
  {id j : TimerId} {now previous d : Instant} {interval : Duration}

/-- The deadlines under which an identifier is scheduled. -/
def deadlines (t : TimerTable) (id : TimerId) : List Instant :=
  (t.schedule.filter fun a ↦ a.id = id).map (·.deadline)

theorem id_of_get? (h : t.get? id = some e) : e.id = id := by
  simpa using List.find?_some h

/-! ## Entries -/

theorem get?_filter_ne (l : List TimerEntry) (s : List Appointment) (j id : TimerId) :
    get? ⟨l.filter fun f ↦ f.id ≠ j, s⟩ id = if id = j then none else get? ⟨l, s⟩ id := by
  rw [get?, get?, List.find?_filter]
  by_cases h : id = j
  · rw [if_pos h, List.find?_eq_none]
    intro f _
    simp [h]
  · rw [if_neg h]
    congr 1
    funext f
    by_cases hf : f.id = id
    · simp [hf, h]
    · simp [hf]

theorem get?_insert (t : TimerTable) (e : TimerEntry) (id : TimerId) :
    (t.insert e).get? id = if id = e.id then some e else t.get? id := by
  by_cases h : id = e.id
  · rw [if_pos h, h, get?_insert_self]
  · have hrest := get?_filter_ne t.entries t.schedule e.id id
    rw [if_neg h] at hrest
    rw [if_neg h, ← hrest, get?, get?, insert, List.find?_cons_of_neg]
    simpa using fun he ↦ h he.symm

theorem remove_fst (t : TimerTable) (id : TimerId) : (t.remove id).1 = t.get? id := by
  rw [remove]
  split
  · next h => exact h.symm
  · next h => exact h.symm

theorem get?_remove (t : TimerTable) (j id : TimerId) :
    (t.remove j).2.get? id = if id = j then none else t.get? id := by
  rw [remove]
  split
  · next h =>
    by_cases hid : id = j
    · rw [if_pos hid, hid, h]
    · rw [if_neg hid]
  · exact get?_filter_ne t.entries _ j id

/-! ## Appointments -/

theorem filter_appoint_of_ne (h : a.id ≠ id) :
    ((appoint a l).filter fun b ↦ b.id = id) = l.filter fun b ↦ b.id = id := by
  induction l with
  | nil => simp [appoint, h]
  | cons b bs ih =>
    rw [appoint]
    split
    · rfl
    · split
      · simp [h]
      · rw [List.filter_cons, List.filter_cons, ih]

theorem filter_appoint_self (h : (l.filter fun b ↦ b.id = a.id) = []) :
    ((appoint a l).filter fun b ↦ b.id = a.id) = [a] := by
  induction l with
  | nil => simp [appoint]
  | cons b bs ih =>
    have hb : b.id ≠ a.id := by
      intro hb
      simp [hb] at h
    have hbs : (bs.filter fun b ↦ b.id = a.id) = [] := by simpa [hb] using h
    have hne : a ≠ b := by
      rintro rfl
      exact hb rfl
    rw [appoint, if_neg hne]
    split
    · rw [List.filter_cons, if_pos (by simp), h]
    · rw [List.filter_cons, if_neg (by simpa using hb), ih hbs]

theorem filter_erase_of_ne (h : a.id ≠ id) :
    ((l.erase a).filter fun b ↦ b.id = id) = l.filter fun b ↦ b.id = id := by
  induction l with
  | nil => rfl
  | cons b bs ih =>
    rw [List.erase_cons]
    by_cases hb : b = a
    · simp [hb, h]
    · rw [if_neg (by simpa using hb), List.filter_cons, List.filter_cons, ih]

theorem filter_erase_self :
    ((l.erase a).filter fun b ↦ b.id = a.id) = (l.filter fun b ↦ b.id = a.id).erase a := by
  induction l with
  | nil => rfl
  | cons b bs ih =>
    rw [List.erase_cons]
    by_cases hb : b = a
    · simp [hb]
    · rw [if_neg (by simpa using hb), List.filter_cons, List.filter_cons, ih]
      split
      · rw [List.erase_cons, if_neg (by simpa using hb)]
      · rfl

theorem deadlines_insert_of_ne (h : id ≠ e.id) : (t.insert e).deadlines id = t.deadlines id := by
  have hne : e.id ≠ id := Ne.symm h
  rw [deadlines, insert, deadlines]
  split
  · next old hold =>
    rw [filter_erase_of_ne (by rw [id_of_get? hold]; exact hne), filter_appoint_of_ne hne]
  · rw [filter_appoint_of_ne hne]

/-- A timer that is not scheduled is scheduled once by arming it, unless it replaces one with the
same deadline. -/
theorem deadlines_insert_self (h : t.deadlines e.id = [])
    (hold : ∀ old, t.get? e.id = some old → old.deadline ≠ e.deadline) :
    (t.insert e).deadlines e.id = [e.deadline] := by
  have hone : ((appoint ⟨e.deadline, e.id⟩ t.schedule).filter fun a ↦ a.id = e.id) =
      [⟨e.deadline, e.id⟩] := by
    rw [deadlines, List.map_eq_nil_iff] at h
    exact filter_appoint_self (a := ⟨e.deadline, e.id⟩) h
  rw [deadlines, insert]
  split
  · next old hget =>
    have hid := id_of_get? hget
    have herase := filter_erase_self (l := appoint ⟨e.deadline, e.id⟩ t.schedule)
      (a := ⟨old.deadline, old.id⟩)
    rw [hid, hone, List.erase_cons, if_neg] at herase
    · rw [hid, herase]
      rfl
    · simpa using fun he ↦ hold old hget he.symm
  · rw [hone]
    rfl

/-- Disarming takes a timer off the schedule, wherever it is. -/
theorem deadlines_remove_self (h : t.get? id = some e)
    (hd : t.deadlines id = [e.deadline] ∨ t.deadlines id = []) :
    (t.remove id).2.deadlines id = [] := by
  rw [remove, h, deadlines]
  dsimp only
  have herase := filter_erase_self (l := t.schedule) (a := ⟨e.deadline, id⟩)
  rw [herase]
  rcases hd with hone | hnone
  · rw [deadlines, List.map_eq_singleton_iff] at hone
    obtain ⟨a, ha, hdead⟩ := hone
    have hid : a.id = id := by
      have hmem : a ∈ t.schedule.filter fun b ↦ b.id = id := by
        rw [ha]
        exact List.mem_singleton.mpr rfl
      simpa using (List.mem_filter.mp hmem).2
    obtain rfl : a = ⟨e.deadline, id⟩ := by
      obtain ⟨d, i⟩ := a
      simp_all
    rw [ha]
    simp
  · rw [List.map_eq_nil_iff.mp hnone]
    rfl

theorem deadlines_remove_of_ne (h : id ≠ j) : (t.remove j).2.deadlines id = t.deadlines id := by
  rw [remove]
  split
  · rfl
  · rw [deadlines, filter_erase_of_ne (Ne.symm h), deadlines]

/-- Popping hands over every identifier as often as it is taken off the schedule, and takes off
only what is due. -/
theorem deadlines_popDue (t : TimerTable) (now : Instant) (id : TimerId) :
    ∃ due, t.deadlines id = due ++ (t.popDue now).2.deadlines id ∧
      (t.popDue now).1.count id = due.length ∧ ∀ d ∈ due, d ≤ now := by
  refine ⟨((t.schedule.takeWhile fun a ↦ a.deadline ≤ now).filter fun a ↦ a.id = id).map
    (·.deadline), ?_, ?_, ?_⟩
  · rw [deadlines, deadlines, popDue, ← List.map_append, ← List.filter_append,
      List.takeWhile_append_dropWhile]
  · rw [popDue, List.count, List.countP_map, List.countP_eq_length_filter, List.length_map]
    congr 1
  · intro d hd
    obtain ⟨a, ha, rfl⟩ := List.mem_map.mp hd
    simpa using List.mem_takeWhile_imp (List.mem_filter.mp ha).1

/-! ## The next deadline -/

/-- A deadline is followed by one an interval later or, if that has passed, by one an interval from
now. -/
theorem nextAfter_eq_some_iff : nextAfter previous now interval = some d ↔
    ∃ next, previous.add? interval = some next ∧
      (now < next ∧ d = next ∨ next ≤ now ∧ now.add? interval = some d) := by
  rw [nextAfter]
  cases previous.add? interval with
  | none => exact ⟨nofun, nofun⟩
  | some next =>
    dsimp only
    split
    · next h =>
      constructor
      · intro hd
        exact ⟨next, rfl, Or.inl ⟨h, (Option.some.inj hd).symm⟩⟩
      · rintro ⟨_, ⟨⟩, ⟨-, rfl⟩ | ⟨hle, -⟩⟩
        · rfl
        · exact absurd h (Nat.not_lt_of_le hle)
    · next h =>
      constructor
      · intro hd
        exact ⟨next, rfl, Or.inr ⟨Nat.le_of_not_lt h, hd⟩⟩
      · rintro ⟨_, ⟨⟩, ⟨hlt, -⟩ | ⟨-, hd⟩⟩
        · exact absurd hlt h
        · exact hd

/-- In numbers: the later of two sums. -/
theorem nanoseconds_nextAfter (h : nextAfter previous now interval = some d) :
    previous.nanoseconds + interval.nanoseconds ≤ d.nanoseconds ∧
      d.nanoseconds ≤ max previous.nanoseconds now.nanoseconds + interval.nanoseconds ∧
      (interval.isZero = false → now < d) := by
  obtain ⟨next, hnext, hcase⟩ := nextAfter_eq_some_iff.mp h
  obtain ⟨-, rfl⟩ := Instant.add?_eq_some.mp hnext
  rcases hcase with ⟨hlt, rfl⟩ | ⟨hle, hadd⟩
  · exact ⟨Nat.le_refl _, Nat.add_le_add_right (Nat.le_max_left ..) _, fun _ ↦ hlt⟩
  · obtain ⟨-, rfl⟩ := Instant.add?_eq_some.mp hadd
    refine ⟨?_, Nat.add_le_add_right (Nat.le_max_right ..) _, ?_⟩
    · exact Nat.le_trans hle (Nat.le_add_right _ _)
    · intro hi
      exact Nat.lt_add_of_pos_right (Duration.pos_of_not_isZero hi)

/-- The next deadline of a timer with an interval lies behind its previous one. -/
theorem lt_nextAfter {next : Instant} (hi : interval.isZero = false)
    (h : nextAfter previous now interval = some next) : previous < next :=
  Nat.lt_of_lt_of_le (Nat.lt_add_of_pos_right (Duration.pos_of_not_isZero hi))
    (nanoseconds_nextAfter h).1

end TimerTable

/-! ## Expiry -/

/-- The timer that an expiry arms in place of another, if it does. -/
def TimerEntry.next? (e : TimerEntry) (now : Instant) : Option TimerEntry :=
  match e.kind with
  | .oneShot => none
  | .periodic interval =>
    (TimerTable.nextAfter e.deadline now interval).map fun d ↦ { e with deadline := d }

namespace TimerTable

variable {t : TimerTable} {e e' : TimerEntry} {id j : TimerId} {now : Instant}
  {interval : Duration}

theorem next?_of_periodic (hk : e.kind = .periodic interval) (now : Instant) :
    e.next? now = (nextAfter e.deadline now interval).map fun d ↦ { e with deadline := d } := by
  rw [TimerEntry.next?, hk]

theorem next?_eq_some (h : e.next? now = some e') : ∃ interval d, e.kind = .periodic interval ∧
    nextAfter e.deadline now interval = some d ∧ e' = { e with deadline := d } := by
  rw [TimerEntry.next?] at h
  split at h
  · cases h
  · next interval hk =>
    obtain ⟨d, hd, rfl⟩ := Option.map_eq_some_iff.mp h
    exact ⟨interval, d, hk, hd, rfl⟩

theorem id_of_next? (h : e.next? now = some e') : e'.id = e.id := by
  obtain ⟨interval, d, -, -, rfl⟩ := next?_eq_some h
  rfl

theorem expire_of_armed (h : t.get? id = some e) (now : Instant) :
    t.expire id now = match e.next? now with
      | some e' => (some ⟨id, e.owner, e.userData, true⟩, t.insert e')
      | none => (some ⟨id, e.owner, e.userData, false⟩, (t.remove id).2) := by
  rw [expire, h, TimerEntry.next?]
  dsimp only
  cases e.kind with
  | oneShot => rfl
  | periodic interval =>
    dsimp only
    cases nextAfter e.deadline now interval with
    | none => rfl
    | some next => rfl

theorem expire_of_not_armed (h : t.get? id = none) (now : Instant) :
    t.expire id now = (none, t) := by
  rw [expire, h]

/-- An expiry of a timer that is armed either arms a periodic timer again or retires the timer, and
one of any other timer does nothing. -/
theorem expire_cases (t : TimerTable) (id : TimerId) (now : Instant) :
    (t.get? id = none ∧ t.expire id now = (none, t)) ∨ ∃ e, t.get? id = some e ∧
      ((∃ interval next, e.kind = .periodic interval ∧
          nextAfter e.deadline now interval = some next ∧ t.expire id now =
            (some ⟨id, e.owner, e.userData, true⟩, t.insert { e with deadline := next })) ∨
        t.expire id now = (some ⟨id, e.owner, e.userData, false⟩, (t.remove id).2)) := by
  cases h : t.get? id with
  | none => exact Or.inl ⟨rfl, expire_of_not_armed h now⟩
  | some e =>
    refine Or.inr ⟨e, rfl, ?_⟩
    rw [expire_of_armed h]
    cases hn : e.next? now with
    | none => exact Or.inr rfl
    | some e' =>
      obtain ⟨interval, next, hk, hnext, rfl⟩ := next?_eq_some hn
      exact Or.inl ⟨interval, next, hk, hnext, rfl⟩

theorem get?_expire (t : TimerTable) (j id : TimerId) (now : Instant) :
    (t.expire j now).2.get? id =
      if id = j then (t.get? j).bind fun e ↦ e.next? now else t.get? id := by
  cases h : t.get? j with
  | none =>
    rw [expire_of_not_armed h]
    split
    · next hid => rw [hid, h, Option.bind_none]
    · rfl
  | some e =>
    rw [expire_of_armed h, Option.bind_some]
    cases hn : e.next? now with
    | none => exact get?_remove t j id
    | some e' =>
      dsimp only
      rw [get?_insert, id_of_next? hn, id_of_get? h]

theorem deadlines_expire_of_ne (h : id ≠ j) (now : Instant) :
    (t.expire j now).2.deadlines id = t.deadlines id := by
  cases hget : t.get? j with
  | none => rw [expire_of_not_armed hget]
  | some e =>
    rw [expire_of_armed hget]
    cases hn : e.next? now with
    | none => exact deadlines_remove_of_ne h
    | some e' =>
      refine deadlines_insert_of_ne ?_
      rw [id_of_next? hn, id_of_get? hget]
      exact h

end TimerTable

/-- An expiry that the table does not complete leaves it as it is. -/
theorem TimerService.expire_eq_of_none {s : TimerService} {id : TimerId} {now : Instant}
    (h : (s.expire id now).1 = none) : s.expire id now = (none, s) := by
  rcases TimerTable.expire_cases s.table id now with
    ⟨-, hx⟩ | ⟨e, -, ⟨interval, next, -, -, hx⟩ | hx⟩
  · rw [expire, hx]
  · rw [expire, hx] at h
    cases h
  · rw [expire, hx] at h
    cases h

end TaskMessaging
