import TaskMessaging.Proofs.Timer.Run
import TaskMessaging.Proofs.Timer.Schedule

/-!
# Periods

A periodic timer that expires is armed again, one interval behind its previous deadline. Deadlines
are counted from deadlines, not from readings of the clock, so a timer that is served late does not
drift, as long as it is served before its next deadline. Behind that the missed deadlines are
skipped, and the next one is an interval from now.

## What a run leaves of one timer

Requests about other timers, and what is taken off the schedule, leave an entry as it is. What
becomes of a timer in a run is therefore a matter of the readings of the clock at its own expiries
(`get?_run`), until it is disarmed or armed anew. Everything about whole runs follows from this and
from one expiry.
-/

namespace TaskMessaging

/-! ## What a run leaves of one timer -/

namespace TimerOperation

/-- Arms a timer anew, or disarms it. -/
def overrules (id : TimerId) : TimerOperation → Bool
  | .insert e => e.id = id
  | .remove j => j = id
  | .popDue _ | .expire _ _ => false

/-- The reading of the clock at which a timer is to expire. -/
def reading? (id : TimerId) : TimerOperation → Option Instant
  | .expire j now => if j = id then some now else none
  | _ => none

end TimerOperation

/-- The readings of the clock at the expiries of a timer. -/
def readings (id : TimerId) (ops : List TimerOperation) : List Instant :=
  ops.filterMap (·.reading? id)

/-- What expiries at such readings leave of a timer. -/
def TimerEntry.after? (e : TimerEntry) : List Instant → Option TimerEntry
  | [] => some e
  | now :: rest => (e.next? now).bind fun e ↦ e.after? rest

/-- The clock can show when a timer comes up next: an interval behind its deadline or, if that has
passed, an interval from now. -/
def TimerEntry.Continues (e : TimerEntry) (interval : Duration) (now : Instant) : Prop :=
  ∃ next, e.deadline.add? interval = some next ∧ (now < next ∨ ∃ d, now.add? interval = some d)

namespace TimerTable

variable {t : TimerTable} {e : TimerEntry} {id : TimerId} {now d : Instant} {interval : Duration}
  {op : TimerOperation} {ops : List TimerOperation}

theorem get?_perform (h : op.overrules id = false) : (t.perform op).get? id =
    match op.reading? id with
      | some now => (t.get? id).bind fun e ↦ e.next? now
      | none => t.get? id := by
  cases op with
  | insert e =>
    have hid : id ≠ e.id := fun hid ↦ of_decide_eq_false h hid.symm
    exact (get?_insert t e id).trans (if_neg hid)
  | remove j =>
    have hid : id ≠ j := fun hid ↦ of_decide_eq_false h hid.symm
    exact (get?_remove t j id).trans (if_neg hid)
  | popDue now => rfl
  | expire j now =>
    rw [TimerOperation.reading?, perform, get?_expire]
    by_cases hid : j = id
    · rw [hid, if_pos rfl, if_pos rfl]
    · rw [if_neg (Ne.symm hid), if_neg hid]

/-- **What a run leaves of a timer** is what its expiries leave of it, unless it is armed anew or
disarmed. -/
theorem get?_run (h : ∀ op ∈ ops, op.overrules id = false) :
    (t.run ops).get? id = (t.get? id).bind fun e ↦ e.after? (readings id ops) := by
  induction ops generalizing t with
  | nil => exact (Option.bind_fun_some _).symm
  | cons op ops ih =>
    obtain ⟨hop, hops⟩ := List.forall_mem_cons.mp h
    change ((t.perform op).run ops).get? id = _
    rw [ih hops, get?_perform hop]
    cases hr : op.reading? id with
    | none => rw [readings, readings, List.filterMap_cons_none hr]
    | some now =>
      rw [readings, readings, List.filterMap_cons_some hr]
      exact Option.bind_assoc ..

/-- A timer that does not expire in a run stays as it is. -/
theorem get?_run_of_no_readings (h : ∀ op ∈ ops, op.overrules id = false)
    (hr : readings id ops = []) : (t.run ops).get? id = t.get? id := by
  rw [get?_run h, hr]
  exact Option.bind_fun_some _

/-- **No drift.** A timer that is always served before its next deadline comes up in steps of one
interval. -/
theorem after?_eq_some (hk : e.kind = .periodic interval) {times : List Instant}
    (hb : e.deadline.nanoseconds + times.length * interval.nanoseconds < Instant.bound)
    (h : ∀ (k : Nat) (now : Instant), times[k]? = some now →
      now.nanoseconds < e.deadline.nanoseconds + (k + 1) * interval.nanoseconds) :
    e.after? times = some { e with
      deadline := ⟨e.deadline.nanoseconds + times.length * interval.nanoseconds⟩ } := by
  induction times generalizing e with
  | nil => simp [TimerEntry.after?]
  | cons now rest ih =>
    rw [List.length_cons, Nat.succ_mul] at hb
    have hnow : now.nanoseconds < e.deadline.nanoseconds + interval.nanoseconds := by
      simpa using h 0 now rfl
    have hnext : nextAfter e.deadline now interval =
        some ⟨e.deadline.nanoseconds + interval.nanoseconds⟩ :=
      nextAfter_eq_some_iff.mpr
        ⟨_, Instant.add?_eq_some.mpr ⟨by omega, rfl⟩, Or.inl ⟨hnow, rfl⟩⟩
    rw [TimerEntry.after?, next?_of_periodic hk, hnext, Option.map_some, Option.bind_some]
    have hrest := ih (e := { e with
      deadline := ⟨e.deadline.nanoseconds + interval.nanoseconds⟩ }) hk (by dsimp only; omega) ?_
    · rw [hrest, List.length_cons, Nat.succ_mul, Nat.add_assoc, Nat.add_comm interval.nanoseconds]
    · intro k u hu
      have hstep := h (k + 1) u hu
      rw [Nat.succ_mul] at hstep
      dsimp only
      omega

/-! ## Expiries of a periodic timer -/

theorem exists_nextAfter_iff :
    (∃ d, nextAfter e.deadline now interval = some d) ↔ e.Continues interval now := by
  constructor
  · rintro ⟨d, hd⟩
    obtain ⟨next, hnext, h⟩ := nextAfter_eq_some_iff.mp hd
    exact ⟨next, hnext, h.imp And.left fun h ↦ ⟨d, h.2⟩⟩
  · rintro ⟨next, hnext, hlt⟩
    by_cases h : now < next
    · exact ⟨next, nextAfter_eq_some_iff.mpr ⟨next, hnext, Or.inl ⟨h, rfl⟩⟩⟩
    · obtain ⟨d, hd⟩ := hlt.resolve_left h
      exact ⟨d, nextAfter_eq_some_iff.mpr ⟨next, hnext, Or.inr ⟨Nat.le_of_not_lt h, hd⟩⟩⟩

theorem WellFormed.deadline_of_mem_popDue (wf : t.WellFormed) (he : t.get? id = some e)
    (h : id ∈ (t.popDue now).1) : e.deadline ≤ now := by
  obtain ⟨d, hd, hdue⟩ := (mem_popDue wf.ordered).mp h
  obtain rfl := wf.eq_of_mem_deadlines he hd
  exact hdue

/-- A timer that is armed again, under its next deadline. -/
structure Rearmed (t : TimerTable) (e : TimerEntry) (interval : Duration) (now d : Instant) :
    Prop where
  entry : (t.expire e.id now).2.get? e.id = some { e with deadline := d }
  appointment : (t.expire e.id now).2.deadlines e.id = [d]
  later : now < d
  previous : e.deadline < d
  /-- The deadline is at most an interval away. -/
  soon : d.nanoseconds ≤ max e.deadline.nanoseconds now.nanoseconds + interval.nanoseconds
  onTime : ∀ next, e.deadline.add? interval = some next → now < next → d = next
  behind : ∀ next, e.deadline.add? interval = some next → next ≤ now → now.add? interval = some d
  /-- Up to now the timer does not come up again, whatever is asked about others. -/
  quiet : ∀ ops, (∀ op ∈ ops, op.overrules e.id = false) → readings e.id ops = [] → ∀ u, u ≤ now →
    e.id ∉ (((t.expire e.id now).2.run ops).popDue u).1

/-- What an expiry does with a periodic timer. -/
structure ExpiryLaw (t : TimerTable) (e : TimerEntry) (interval : Duration) (now : Instant) :
    Prop where
  /-- The timer fires, and it is armed again as long as the clock can show its next deadline. -/
  fires : ∃ rearmed, (t.expire e.id now).1 = some ⟨e.id, e.owner, e.userData, rearmed⟩ ∧
    (rearmed = true ↔ e.Continues interval now)
  again : e.Continues interval now → ∃ d, Rearmed t e interval now d
  /-- Otherwise that was the last time. -/
  last : ¬ e.Continues interval now → (t.expire e.id now).2.get? e.id = none ∧
    (t.expire e.id now).2.deadlines e.id = [] ∧
      ∀ u, (t.expire e.id now).2.expire e.id u = (none, (t.expire e.id now).2)
  others : ∀ id, id ≠ e.id → (t.expire e.id now).2.get? id = t.get? id ∧
    (t.expire e.id now).2.deadlines id = t.deadlines id

theorem WellFormed.rearmed (wf : t.WellFormed) (he : t.get? e.id = some e)
    (hk : e.kind = .periodic interval) (hi : interval.isZero = false)
    (hd : nextAfter e.deadline now interval = some d) : Rearmed t e interval now d := by
  have hexpire : (t.expire e.id now).2 = t.insert { e with deadline := d } := by
    rw [expire_of_armed he, next?_of_periodic hk, hd]
    rfl
  have hentry : (t.expire e.id now).2.get? e.id = some { e with deadline := d } := by
    rw [hexpire]
    exact get?_insert_self t { e with deadline := d }
  have hprevious : e.deadline < d := lt_nextAfter hi hd
  obtain ⟨-, hsoon, hlater⟩ := nanoseconds_nextAfter hd
  obtain ⟨next, hnext, hcase⟩ := nextAfter_eq_some_iff.mp hd
  refine ⟨hentry, ?_, hlater hi, hprevious, hsoon, ?_, ?_, ?_⟩
  · -- The appointment that is cancelled is not the new one.
    have hnew : ¬ t.Repeats { e with deadline := d } := by
      rw [Repeats, he]
      intro h
      exact Nat.ne_of_lt hprevious (congrArg Instant.nanoseconds (Option.some.inj h))
    rw [hexpire]
    exact (wf.deadlines_insert { e with deadline := d }).trans (if_neg hnew)
  · intro next' hnext' hlt
    obtain rfl := Option.some.inj (hnext.symm.trans hnext')
    exact (hcase.resolve_right fun h ↦ Nat.not_lt_of_le h.1 hlt).2
  · intro next' hnext' hle
    obtain rfl := Option.some.inj (hnext.symm.trans hnext')
    exact (hcase.resolve_left fun h ↦ Nat.not_lt_of_le hle h.1).2
  · intro ops hops hr u hu hmem
    have hget := (get?_run_of_no_readings hops hr).trans hentry
    have hdue := ((wf.expire e.id now).run ops).deadline_of_mem_popDue hget hmem
    exact Nat.not_lt_of_le (Nat.le_trans hdue hu) (hlater hi)

theorem WellFormed.expiryLaw (wf : t.WellFormed) (he : t.get? e.id = some e)
    (hk : e.kind = .periodic interval) (hi : interval.isZero = false) (now : Instant) :
    ExpiryLaw t e interval now := by
  have hothers (id : TimerId) (hid : id ≠ e.id) : (t.expire e.id now).2.get? id = t.get? id ∧
      (t.expire e.id now).2.deadlines id = t.deadlines id :=
    ⟨by rw [get?_expire, if_neg hid], deadlines_expire_of_ne hid now⟩
  cases hd : nextAfter e.deadline now interval with
  | some d =>
    have hcontinues : e.Continues interval now := exists_nextAfter_iff.mp ⟨d, hd⟩
    refine ⟨⟨true, ?_, iff_of_true rfl hcontinues⟩, fun _ ↦ ⟨d, wf.rearmed he hk hi hd⟩,
      fun h ↦ absurd hcontinues h, hothers⟩
    rw [expire_of_armed he, next?_of_periodic hk, hd]
    rfl
  | none =>
    have hstops : ¬ e.Continues interval now := fun h ↦ by
      obtain ⟨d, hd'⟩ := exists_nextAfter_iff.mpr h
      cases hd.symm.trans hd'
    have hexpire : t.expire e.id now =
        (some ⟨e.id, e.owner, e.userData, false⟩, (t.remove e.id).2) := by
      rw [expire_of_armed he, next?_of_periodic hk, hd]
      rfl
    have hgone : (t.remove e.id).2.get? e.id = none := by
      rw [get?_remove, if_pos rfl]
    refine ⟨⟨false, by rw [hexpire], iff_of_false Bool.false_ne_true hstops⟩,
      fun h ↦ absurd h hstops, fun _ ↦ ?_, hothers⟩
    rw [hexpire]
    exact ⟨hgone, wf.deadlines_remove e.id, expire_of_not_armed hgone⟩

end TimerTable

/-! ## The first expiry -/

namespace TimerService

variable {now d : Instant} {delay interval : Duration}

/-- A timer with an interval is armed only if the clock can show its first two deadlines. -/
theorem deadline?_periodic_eq_ok (h : deadline? now delay (.periodic interval) = .ok d) :
    now.add? delay = some d ∧ ∃ next, d.add? interval = some next := by
  rw [deadline?] at h
  split at h
  · cases h
  · split at h
    · cases h
    · next hd =>
      split at h
      · cases h
      · next next hnext =>
        cases h
        exact ⟨hd, next, hnext⟩

end TimerService

namespace TimerTable

/-- What arming a periodic timer promises. -/
structure PromiseLaw (t : TimerTable) (now : Instant) (owner : TaskId) (delay interval : Duration)
    (userData : UInt64) (id : TimerId) (d : Instant) : Prop where
  entry : t.get? id = some ⟨id, owner, .periodic interval, userData, d⟩
  deadline : now.add? delay = some d
  /-- However late it is served first, up to its second deadline it is armed again. -/
  first : ∀ ops, (∀ op ∈ ops, op.overrules id = false) → readings id ops = [] →
    ∀ u, u.nanoseconds < d.nanoseconds + interval.nanoseconds →
      ((t.run ops).expire id u).1 = some ⟨id, owner, userData, true⟩ ∧
        ((t.run ops).expire id u).2.get? id = some ⟨id, owner, .periodic interval, userData,
          ⟨d.nanoseconds + interval.nanoseconds⟩⟩

/-- What a table does with its periodic timers. -/
structure PeriodLaw (t : TimerTable) : Prop where
  expiry : ∀ e interval now, t.get? e.id = some e → e.kind = .periodic interval →
    interval.isZero = false → ExpiryLaw t e interval now
  /-- A timer that is always served before its next deadline comes up in steps of one interval. -/
  steady : ∀ e interval ops, t.get? e.id = some e → e.kind = .periodic interval →
    (∀ op ∈ ops, op.overrules e.id = false) →
    (∀ (k : Nat) (now : Instant), (readings e.id ops)[k]? = some now →
      now.nanoseconds < e.deadline.nanoseconds + (k + 1) * interval.nanoseconds) →
    e.deadline.nanoseconds + (readings e.id ops).length * interval.nanoseconds < Instant.bound →
    (t.run ops).get? e.id = some { e with deadline :=
      ⟨e.deadline.nanoseconds + (readings e.id ops).length * interval.nanoseconds⟩ }
  armed : ∀ stopped ids now owner delay interval userData id (s' : TimerService),
    TimerService.arm ⟨t, stopped, ids⟩ now owner delay (.periodic interval) userData =
      .ok (id, s') → ∃ d, PromiseLaw s'.table now owner delay interval userData id d

/-- **The law of periods.** Whatever was asked of a table, its periodic timers are armed again in
steps of their interval, for as long as the clock can show the next one. -/
theorem period_law (ops : List TimerOperation) : PeriodLaw (empty.run ops) := by
  refine ⟨fun e interval now he hk hi ↦ (wellFormed_empty.run ops).expiryLaw he hk hi now, ?_, ?_⟩
  · intro e interval ops' he hk hops htimes hb
    rw [get?_run hops, he, Option.bind_some]
    exact after?_eq_some hk hb htimes
  · intro stopped ids now owner delay interval userData id s' harm
    obtain ⟨d, hd, -, rfl⟩ := TimerService.arm_eq_ok harm
    obtain ⟨hdelay, next, hnext⟩ := TimerService.deadline?_periodic_eq_ok hd
    obtain ⟨-, rfl⟩ := Instant.add?_eq_some.mp hnext
    have hentry := get?_insert_self (empty.run ops) ⟨id, owner, .periodic interval, userData, d⟩
    refine ⟨d, hentry, hdelay, ?_⟩
    intro ops' hops hr u hu
    have hget := (get?_run_of_no_readings hops hr).trans hentry
    have hafter : nextAfter d u interval = some ⟨d.nanoseconds + interval.nanoseconds⟩ :=
      nextAfter_eq_some_iff.mpr ⟨_, hnext, Or.inl ⟨hu, rfl⟩⟩
    have hexpire := expire_of_armed hget u
    rw [next?_of_periodic rfl, hafter] at hexpire
    rw [hexpire]
    exact ⟨rfl, get?_insert_self _
      ⟨id, owner, .periodic interval, userData, ⟨d.nanoseconds + interval.nanoseconds⟩⟩⟩

/-- On time, on time, and far too late. -/
example : (empty.run [.insert ⟨⟨1⟩, ⟨1⟩, .periodic ⟨10⟩, 7, ⟨5⟩⟩, .expire ⟨1⟩ ⟨6⟩, .expire ⟨1⟩ ⟨20⟩,
    .expire ⟨1⟩ ⟨60⟩]).schedule = [⟨⟨70⟩, ⟨1⟩⟩] := by decide

end TimerTable

end TaskMessaging
