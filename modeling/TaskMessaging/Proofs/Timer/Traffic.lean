import TaskMessaging.Proofs.Timer.Run

/-!
# Timers and the channel

The scheduler takes due timers off the schedule and passes them on, one event each, through the
channel that the dispatcher serves first in, first out. Clients arm and disarm timers at any moment
in between, and other events share the channel.

## The invariant

Every armed timer has one token, which lies in the schedule, under the deadline of the timer, or is
in flight. The scheduler moves tokens from the schedule into flight, in a batch that it then passes
on event by event. The dispatcher takes them out of the channel: the token of a periodic timer goes
back into the schedule, under a later deadline, and that of any other timer goes with the timer. A
timer that is disarmed leaves its token in flight, if it is there, but no armed timer ever has the
same identifier, because identifiers are handed out in ascending order.
-/

namespace TaskMessaging

/-- The timer that an event is about. -/
def ControlEvent.timer? : ControlEvent → Option TimerId
  | .timerFired id => some id
  | _ => none

/-- The control loop with all that is on its way to it. -/
structure Traffic where
  loop : ControlLoop
  /-- Timers that were taken off the schedule and not passed on yet. -/
  batch : List TimerId
  channel : List ControlEvent
  /-- The latest reading of the clock by the scheduler or the dispatcher. -/
  clock : Instant
  /-- How many timers were armed so far. -/
  armed : Nat

/-- Something that happens to the timers or to the events on their way. -/
inductive TrafficMove where
  /-- Which reading of the clock a timer is armed with makes no difference. -/
  | arm (now : Instant) (owner : TaskId) (delay : Duration) (kind : TimerKind) (userData : UInt64)
  | disarm (id : TimerId)
  | stop
  /-- Somebody else changes the system. -/
  | elsewhere (s : TaskSystem)
  /-- The scheduler takes a batch off the schedule, once it has passed on the one before. -/
  | pop (now : Instant)
  /-- The scheduler passes on the next timer of its batch. -/
  | push
  /-- Somebody else puts an event into the channel, of a signal for example. -/
  | post (event : ControlEvent)
  | start
  /-- The dispatcher handles the next event. -/
  | dispatch (now : Instant)

namespace Traffic

variable {w w' : Traffic} {id j : TimerId} {e : TimerEntry} {now : Instant}

def table (w : Traffic) : TimerTable := w.loop.timers.table

/-- The timers that were taken off the schedule and not handled yet. -/
def inFlight (w : Traffic) : List TimerId := w.channel.filterMap ControlEvent.timer? ++ w.batch

/-- The state behind a move, if the move is possible. -/
def step (w : Traffic) : TrafficMove → Option Traffic
  | .arm now owner delay kind userData =>
    match w.loop.timers.arm now owner delay kind userData with
    | .ok (_, timers) =>
      some { w with loop := { w.loop with timers := timers }, armed := w.armed + 1 }
    | .error _ => some w
  | .disarm id => some { w with loop := w.loop.act (.disarm id) }
  | .stop => some { w with loop := w.loop.act .stop }
  | .elsewhere s => some { w with loop := w.loop.act (.elsewhere s) }
  | .pop now =>
    if w.batch = [] ∧ w.clock ≤ now then
      some { w with
        loop := w.loop.act (.pop now), batch := (w.loop.timers.popDue now).1, clock := now }
    else none
  | .push => match w.batch with
    | [] => none
    | id :: rest => some { w with batch := rest, channel := w.channel ++ [.timerFired id] }
  | .post event =>
    if event.timer? = none then some { w with channel := w.channel ++ [event] } else none
  | .start => some { w with loop := w.loop.start }
  | .dispatch now => match w.channel with
    | [] => none
    | event :: rest =>
      if w.loop.dispatcher.state ≠ .terminal ∧ w.clock ≤ now then
        some { w with loop := w.loop.handle now event, channel := rest, clock := now }
      else none

/-- The states that moves lead to from timers of which none was ever armed. -/
inductive Reachable : Traffic → Prop where
  | initial {c : ControlLoop} (clock : Instant) :
      c.timers = .initial → Reachable ⟨c, [], [], clock, 0⟩
  | move {w w' : Traffic} (m : TrafficMove) : Reachable w → w.step m = some w' → Reachable w'

/-- Where the token of every timer is. -/
structure Tokens (w : Traffic) : Prop where
  next : w.loop.timers.ids.next = UInt64.ofNat (w.armed + 1)
  known : ∀ id e, w.table.get? id = some e → id.number.toNat ≤ w.armed
  knownInFlight : ∀ id ∈ w.inFlight, id.number.toNat ≤ w.armed
  interval : ∀ id e interval, w.table.get? id = some e → e.kind = .periodic interval →
    interval.isZero = false
  place : ∀ id e, w.table.get? id = some e →
    (w.table.deadlines id = [e.deadline] ∧ w.inFlight.count id = 0) ∨
      (w.table.deadlines id = [] ∧ w.inFlight.count id = 1 ∧ e.deadline ≤ w.clock)
  unarmed : ∀ id, w.table.get? id = none → w.table.deadlines id = []

/-! ## Moves that leave the tokens where they are -/

/-- A move that touches neither the table nor what is in flight. -/
theorem Tokens.of_same (t : Tokens w) (htimers : w'.loop.timers.table = w.loop.timers.table)
    (hids : w'.loop.timers.ids = w.loop.timers.ids) (hflight : w'.inFlight = w.inFlight)
    (harmed : w'.armed = w.armed) (hclock : w.clock ≤ w'.clock) : Tokens w' := by
  have htable : w'.table = w.table := htimers
  refine ⟨?_, ?_, ?_, ?_, ?_, ?_⟩
  · rw [hids, harmed]
    exact t.next
  · rw [htable, harmed]
    exact t.known
  · rw [hflight, harmed]
    exact t.knownInFlight
  · rw [htable]
    exact t.interval
  · rw [htable, hflight]
    intro id e he
    rcases t.place id e he with hplace | ⟨hd, hc, hle⟩
    · exact Or.inl hplace
    · exact Or.inr ⟨hd, hc, Nat.le_trans hle hclock⟩
  · rw [htable]
    exact t.unarmed

/-- Passing a timer on leaves it in flight. -/
theorem Tokens.push (t : Tokens w) (h : w.step .push = some w') : Tokens w' := by
  rw [step] at h
  split at h
  · cases h
  · next id rest hb =>
    obtain rfl := Option.some.inj h
    refine t.of_same rfl rfl ?_ rfl (Nat.le_refl _)
    rw [inFlight, inFlight, hb, List.filterMap_append, List.append_assoc]
    rfl

theorem Tokens.post (t : Tokens w) {event : ControlEvent} (h : w.step (.post event) = some w') :
    Tokens w' := by
  rw [step] at h
  split at h
  · next hnone =>
    obtain rfl := Option.some.inj h
    refine t.of_same rfl rfl ?_ rfl (Nat.le_refl _)
    rw [inFlight, inFlight, List.filterMap_append, List.filterMap_cons_none hnone,
      List.filterMap_nil, List.append_nil]
  · cases h

/-! ## Arming and disarming -/

/-- An entry whose token lies in the schedule, and which replaces at most one of the same timer. -/
theorem Tokens.insert (t : Tokens w) (htable : w'.table = w.table.insert e)
    (hself : w'.table.deadlines e.id = [e.deadline]) (hzero : w'.inFlight.count e.id = 0)
    (hcount : ∀ j, j ≠ e.id → w'.inFlight.count j = w.inFlight.count j)
    (hinterval : ∀ interval, e.kind = .periodic interval → interval.isZero = false)
    (hknown : e.id.number.toNat ≤ w'.armed)
    (hnext : w'.loop.timers.ids.next = UInt64.ofNat (w'.armed + 1)) (harmed : w.armed ≤ w'.armed)
    (hclock : w.clock ≤ w'.clock) : Tokens w' := by
  have hget (j : TimerId) : w'.table.get? j = if j = e.id then some e else w.table.get? j := by
    rw [htable, TimerTable.get?_insert]
  have hother {j : TimerId} (hj : j ≠ e.id) : w'.table.deadlines j = w.table.deadlines j := by
    rw [htable]
    exact TimerTable.deadlines_insert_of_ne hj
  refine ⟨hnext, ?_, ?_, ?_, ?_, ?_⟩
  · intro j f hf
    rw [hget] at hf
    split at hf
    · next hj =>
      rw [hj]
      exact hknown
    · exact Nat.le_trans (t.known j f hf) harmed
  · intro j hmem
    have hj : j ≠ e.id := by
      rintro rfl
      exact List.count_eq_zero.mp hzero hmem
    have hpos := List.count_pos_iff.mpr hmem
    rw [hcount j hj] at hpos
    exact Nat.le_trans (t.knownInFlight j (List.count_pos_iff.mp hpos)) harmed
  · intro j f interval hf hk
    rw [hget] at hf
    split at hf
    · obtain rfl := Option.some.inj hf
      exact hinterval interval hk
    · exact t.interval j f interval hf hk
  · intro j f hf
    rw [hget] at hf
    split at hf
    · next hj =>
      obtain rfl := Option.some.inj hf
      rw [hj]
      exact Or.inl ⟨hself, hzero⟩
    · next hj =>
      rw [hother hj, hcount j hj]
      rcases t.place j f hf with hplace | ⟨hd, hc, hle⟩
      · exact Or.inl hplace
      · exact Or.inr ⟨hd, hc, Nat.le_trans hle hclock⟩
  · intro j hf
    rw [hget] at hf
    split at hf
    · cases hf
    · next hj =>
      rw [hother hj]
      exact t.unarmed j hf

/-- A timer that is armed gets a token in the schedule, and its identifier has no other. -/
theorem Tokens.arm (t : Tokens w) (hn : w.armed + 1 < UInt64.size) {owner : TaskId}
    {delay : Duration} {kind : TimerKind} {userData : UInt64} {timers : TimerService}
    (h : w.loop.timers.arm now owner delay kind userData = .ok (id, timers)) :
    Tokens { w with loop := { w.loop with timers := timers }, armed := w.armed + 1 } := by
  obtain ⟨d, hd, hid, rfl⟩ := TimerService.arm_eq_ok h
  have hnumber : id.number.toNat = w.armed + 1 := by
    rw [hid, t.next]
    exact UInt64.toNat_ofNat_of_lt' hn
  -- No number up to here was as large, so neither the table nor the channel knows the timer.
  have hfresh : w.table.get? id = none := by
    cases hget : w.table.get? id with
    | none => rfl
    | some e =>
      have := t.known id e hget
      omega
  have hflight : w.inFlight.count id = 0 := by
    rw [List.count_eq_zero]
    intro hmem
    have := t.knownInFlight id hmem
    omega
  have hself := TimerTable.deadlines_insert_self (e := ⟨id, owner, kind, userData, d⟩)
    (t.unarmed id hfresh) fun old hold ↦ by rw [hfresh] at hold; cases hold
  refine t.insert rfl hself hflight (fun _ _ ↦ rfl) ?_ (Nat.le_of_eq hnumber) ?_ (Nat.le_succ _)
    (Nat.le_refl _)
  · rintro interval rfl
    exact TimerService.isZero_of_deadline? hd
  · change w.loop.timers.ids.next + 1 = _
    rw [t.next, ← UInt64.ofNat_one, ← UInt64.ofNat_add]

/-- Behind the removal of a timer its identifier is not scheduled. -/
theorem Tokens.deadlines_remove (t : Tokens w) (id : TimerId) :
    (w.table.remove id).2.deadlines id = [] := by
  cases hget : w.table.get? id with
  | none =>
    rw [TimerTable.remove, hget]
    exact t.unarmed id hget
  | some e =>
    refine TimerTable.deadlines_remove_self hget ?_
    rcases t.place id e hget with ⟨hd, -⟩ | ⟨hd, -⟩
    · exact Or.inl hd
    · exact Or.inr hd

/-- Removing a timer touches no token but its own. -/
theorem Tokens.remove (t : Tokens w) (id : TimerId) (htable : w'.table = (w.table.remove id).2)
    (hids : w'.loop.timers.ids = w.loop.timers.ids) (hsub : ∀ j ∈ w'.inFlight, j ∈ w.inFlight)
    (hcount : ∀ j, j ≠ id → w'.inFlight.count j = w.inFlight.count j)
    (harmed : w'.armed = w.armed) (hclock : w.clock ≤ w'.clock) : Tokens w' := by
  have hget (j : TimerId) : w'.table.get? j = if j = id then none else w.table.get? j := by
    rw [htable, TimerTable.get?_remove]
  have hof {j : TimerId} {e : TimerEntry} (he : w'.table.get? j = some e) :
      j ≠ id ∧ w.table.get? j = some e := by
    rw [hget] at he
    split at he
    · cases he
    · next hj => exact ⟨hj, he⟩
  refine ⟨?_, ?_, ?_, ?_, ?_, ?_⟩
  · rw [hids, harmed]
    exact t.next
  · intro j e he
    rw [harmed]
    exact t.known j e (hof he).2
  · intro j hj
    rw [harmed]
    exact t.knownInFlight j (hsub j hj)
  · intro j e interval he
    exact t.interval j e interval (hof he).2
  · intro j e he
    obtain ⟨hj, he'⟩ := hof he
    rw [htable, TimerTable.deadlines_remove_of_ne hj, hcount j hj]
    rcases t.place j e he' with hplace | ⟨hd, hc, hle⟩
    · exact Or.inl hplace
    · exact Or.inr ⟨hd, hc, Nat.le_trans hle hclock⟩
  · intro j he
    rw [htable]
    by_cases hj : j = id
    · rw [hj]
      exact t.deadlines_remove id
    · rw [TimerTable.deadlines_remove_of_ne hj]
      rw [hget, if_neg hj] at he
      exact t.unarmed j he

/-! ## The scheduler -/

/-- A batch moves tokens from the schedule into flight, those of timers that are due. -/
theorem Tokens.pop (t : Tokens w) (hb : w.batch = []) (hclock : w.clock ≤ now) :
    Tokens { w with
      loop := w.loop.act (.pop now), batch := (w.loop.timers.popDue now).1, clock := now } := by
  by_cases hs : w.loop.timers.stopped = true
  · have hpop : w.loop.timers.popDue now = ([], w.loop.timers) := if_pos hs
    refine t.of_same ?_ ?_ ?_ rfl hclock
    · rw [ControlLoop.act, hpop]
    · rw [ControlLoop.act, hpop]
    · rw [inFlight, inFlight, hpop, hb]
  · have hpop : w.loop.timers.popDue now = ((w.table.popDue now).1,
        { w.loop.timers with table := (w.table.popDue now).2 }) := if_neg hs
    rw [ControlLoop.act, hpop]
    have hchannel : w.inFlight = w.channel.filterMap ControlEvent.timer? := by
      rw [inFlight, hb, List.append_nil]
    have hcount (j : TimerId) :
        (w.channel.filterMap ControlEvent.timer? ++ (w.table.popDue now).1).count j =
          w.inFlight.count j + (w.table.popDue now).1.count j := by
      rw [hchannel, List.count_append]
    refine ⟨t.next, t.known, ?_, t.interval, ?_, ?_⟩
    · intro j hj
      rcases List.mem_append.mp hj with hold | hnew
      · exact t.knownInFlight j (by rw [hchannel]; exact hold)
      · -- What is taken off the schedule was armed.
        obtain ⟨due, hsplit, hdue, -⟩ := TimerTable.deadlines_popDue w.table now j
        cases hget : w.table.get? j with
        | some e => exact t.known j e hget
        | none =>
          rw [t.unarmed j hget] at hsplit
          obtain ⟨rfl, -⟩ := List.append_eq_nil_iff.mp hsplit.symm
          have hpos := List.count_pos_iff.mpr hnew
          rw [hdue] at hpos
          exact absurd hpos (Nat.lt_irrefl 0)
    · intro j e he
      obtain ⟨due, hsplit, hdue, hle⟩ := TimerTable.deadlines_popDue w.table now j
      rw [table, inFlight, hcount, hdue]
      rcases t.place j e he with ⟨hd, hc⟩ | ⟨hd, hc, hold⟩
      · rw [hd] at hsplit
        -- There is only one appointment: the scheduler takes it off, or leaves it.
        rcases due with _ | ⟨d, due⟩
        · exact Or.inl ⟨hsplit.symm, by rw [hc]; rfl⟩
        · obtain ⟨rfl, hrest⟩ := List.cons.inj hsplit
          obtain ⟨rfl, hnone⟩ := List.append_eq_nil_iff.mp hrest.symm
          exact Or.inr ⟨hnone, by rw [hc]; rfl, hle _ List.mem_cons_self⟩
      · rw [hd] at hsplit
        obtain ⟨rfl, hnone⟩ := List.append_eq_nil_iff.mp hsplit.symm
        exact Or.inr ⟨hnone, by rw [hc]; rfl, Nat.le_trans hold hclock⟩
    · intro j he
      obtain ⟨due, hsplit, -⟩ := TimerTable.deadlines_popDue w.table now j
      rw [t.unarmed j he] at hsplit
      exact (List.append_eq_nil_iff.mp hsplit.symm).2

/-! ## The dispatcher -/

/-- A timer that is in flight is not scheduled, and it is due. -/
theorem Tokens.place_of_mem (t : Tokens w) (he : w.table.get? id = some e)
    (hmem : id ∈ w.inFlight) :
    w.table.deadlines id = [] ∧ w.inFlight.count id = 1 ∧ e.deadline ≤ w.clock := by
  rcases t.place id e he with ⟨-, hc⟩ | hplace
  · exact absurd hmem (List.count_eq_zero.mp hc)
  · exact hplace

/-- A periodic timer takes its token back into the schedule, under a later deadline. -/
theorem Tokens.rearm (t : Tokens w) (he : w.table.get? id = some e) {interval : Duration}
    {next : Instant} (hk : e.kind = .periodic interval)
    (hnext : TimerTable.nextAfter e.deadline now interval = some next)
    (htable : w'.table = w.table.insert { e with deadline := next })
    (hids : w'.loop.timers.ids = w.loop.timers.ids) (hflight : w.inFlight = id :: w'.inFlight)
    (harmed : w'.armed = w.armed) (hclock : w.clock ≤ w'.clock) : Tokens w' := by
  obtain rfl := TimerTable.id_of_get? he
  obtain ⟨hd, hc, -⟩ := t.place_of_mem he (by rw [hflight]; exact List.mem_cons_self)
  -- The appointment that is replaced must not be the new one, or both would be gone.
  have hlater := TimerTable.lt_nextAfter (t.interval e.id e interval he hk) hnext
  have hself : w'.table.deadlines e.id = [next] := by
    rw [htable]
    refine TimerTable.deadlines_insert_self (e := { e with deadline := next }) hd ?_
    intro old hold
    obtain rfl := Option.some.inj (he.symm.trans hold)
    rintro rfl
    exact Nat.lt_irrefl _ hlater
  have hzero : w'.inFlight.count e.id = 0 := by
    rw [hflight, List.count_cons_self] at hc
    omega
  refine t.insert htable hself hzero ?_ (fun i ↦ t.interval e.id e i he) ?_ ?_
    (Nat.le_of_eq harmed.symm) hclock
  · intro j hj
    rw [hflight, List.count_cons_of_ne (Ne.symm hj)]
  · rw [harmed]
    exact t.known e.id e he
  · rw [hids, harmed]
    exact t.next

theorem Tokens.dispatch (t : Tokens w) {event : ControlEvent} {rest : List ControlEvent}
    (hchannel : w.channel = event :: rest) (hstate : w.loop.dispatcher.state ≠ .terminal)
    (hclock : w.clock ≤ now) :
    Tokens { w with loop := w.loop.handle now event, channel := rest, clock := now } := by
  by_cases hother : ∀ id, event ≠ .timerFired id
  · have htimers : (w.loop.handle now event).timers = w.loop.timers :=
      ControlLoop.timers_handle_of_other hother
    refine t.of_same (congrArg TimerService.table htimers) (congrArg TimerService.ids htimers) ?_
      rfl hclock
    have hnone : event.timer? = none := by
      cases event with
      | timerFired id => exact absurd rfl (hother id)
      | _ => rfl
    rw [inFlight, inFlight, hchannel, List.filterMap_cons_none hnone]
  · obtain ⟨id, rfl⟩ : ∃ id, event = .timerFired id := by
      simpa using hother
    have htimers := (ControlLoop.handle_timerFired hstate now id).1
    have hids : (w.loop.handle now (.timerFired id)).timers.ids = w.loop.timers.ids := by
      rw [htimers]
      rfl
    have hflight : w.inFlight = id :: (rest.filterMap ControlEvent.timer? ++ w.batch) := by
      rw [inFlight, hchannel]
      rfl
    -- A timer that is not armed leaves the table as if it were removed.
    have hremove (htable : (w.loop.handle now (.timerFired id)).timers.table =
        (w.table.remove id).2) :
        Tokens { w with
          loop := w.loop.handle now (.timerFired id), channel := rest, clock := now } := by
      refine t.remove id htable hids ?_ ?_ rfl hclock
      · intro j hj
        rw [hflight]
        exact List.mem_cons_of_mem id hj
      · intro j hj
        rw [hflight, List.count_cons_of_ne (Ne.symm hj)]
        rfl
    rcases TimerTable.expire_cases w.table id now with
      ⟨hnone, hx⟩ | ⟨e, he, ⟨interval, next, hk, hnext, hx⟩ | hx⟩
    · refine hremove ?_
      rw [htimers, TimerTable.remove, hnone]
      exact congrArg Prod.snd hx
    · refine t.rearm he hk hnext ?_ hids hflight rfl hclock
      change (w.loop.handle now (.timerFired id)).timers.table = _
      rw [htimers]
      exact congrArg Prod.snd hx
    · refine hremove ?_
      rw [htimers]
      exact congrArg Prod.snd hx

/-! ## All moves -/

/-- **Every move keeps the tokens in their places.** -/
theorem Tokens.step (t : Tokens w) {m : TrafficMove} (h : w.step m = some w')
    (hn : w'.armed < UInt64.size) : Tokens w' := by
  cases m with
  | arm now owner delay kind userData =>
    rw [Traffic.step] at h
    split at h
    · next id timers harm =>
      obtain rfl := Option.some.inj h
      exact t.arm hn harm
    · exact Option.some.inj h ▸ t
  | disarm id =>
    obtain rfl := Option.some.inj h
    exact t.remove id rfl rfl (fun _ hj ↦ hj) (fun _ _ ↦ rfl) rfl (Nat.le_refl _)
  | stop =>
    obtain rfl := Option.some.inj h
    exact t.of_same rfl rfl rfl rfl (Nat.le_refl _)
  | elsewhere s =>
    obtain rfl := Option.some.inj h
    exact t.of_same rfl rfl rfl rfl (Nat.le_refl _)
  | pop now =>
    rw [Traffic.step] at h
    split at h
    · next hpop =>
      obtain rfl := Option.some.inj h
      exact t.pop hpop.1 hpop.2
    · cases h
  | push => exact t.push h
  | post event => exact t.post h
  | start =>
    obtain rfl := Option.some.inj h
    refine t.of_same ?_ ?_ rfl rfl (Nat.le_refl _)
    · rw [ControlLoop.timers_start]
    · rw [ControlLoop.timers_start]
  | dispatch now =>
    rw [Traffic.step] at h
    split at h
    · cases h
    · next event rest hchannel =>
      split at h
      · next hready =>
        obtain rfl := Option.some.inj h
        exact t.dispatch hchannel hready.1 hready.2
      · cases h

theorem armed_le_of_step {m : TrafficMove} (h : w.step m = some w') : w.armed ≤ w'.armed := by
  cases m with
  | arm now owner delay kind userData =>
    rw [step] at h
    split at h
    · exact Option.some.inj h ▸ Nat.le_succ _
    · exact Option.some.inj h ▸ Nat.le_refl _
  | pop now =>
    rw [step] at h
    split at h
    · exact Option.some.inj h ▸ Nat.le_refl _
    · cases h
  | push =>
    rw [step] at h
    split at h
    · cases h
    · exact Option.some.inj h ▸ Nat.le_refl _
  | post event =>
    rw [step] at h
    split at h
    · exact Option.some.inj h ▸ Nat.le_refl _
    · cases h
  | dispatch now =>
    rw [step] at h
    split at h
    · cases h
    · split at h
      · exact Option.some.inj h ▸ Nat.le_refl _
      · cases h
  | _ => exact Option.some.inj h ▸ Nat.le_refl _

theorem tokens_initial {c : ControlLoop} (h : c.timers = .initial) (clock : Instant) :
    Tokens ⟨c, [], [], clock, 0⟩ := by
  have htable : c.timers.table = .empty := by
    rw [h]
    rfl
  have hget (id : TimerId) : (table ⟨c, [], [], clock, 0⟩).get? id = none := by
    rw [table, htable]
    rfl
  refine ⟨by rw [h]; rfl, ?_, nofun, ?_, ?_, ?_⟩
  · intro id e he
    rw [hget] at he
    cases he
  · intro id e interval he
    rw [hget] at he
    cases he
  · intro id e he
    rw [hget] at he
    cases he
  · intro id _
    rw [table, htable]
    rfl

theorem Reachable.tokens (r : w.Reachable) (hn : w.armed < UInt64.size) : Tokens w := by
  induction r with
  | initial clock h => exact tokens_initial h clock
  | move m _ h ih =>
    have hle := armed_le_of_step h
    exact (ih (by omega)).step h hn

/-- The state behind a sequence of moves, as far as they are possible. -/
def run (w : Traffic) : List TrafficMove → Option Traffic
  | [] => some w
  | m :: ms => (w.step m).bind fun w ↦ w.run ms

theorem Reachable.run (r : w.Reachable) (ms : List TrafficMove) (h : w.run ms = some w') :
    w'.Reachable := by
  induction ms generalizing w with
  | nil => exact Option.some.inj h ▸ r
  | cons m ms ih =>
    obtain ⟨v, hv, h⟩ := Option.bind_eq_some_iff.mp h
    exact ih (r.move m hv) h

/-! ## The law -/

/-- No timer is lost and none fires early. -/
structure TokenLaw (w : Traffic) : Prop where
  /-- An armed timer is scheduled once, under its deadline, or it is in flight once. -/
  armed : ∀ id e, w.table.get? id = some e →
    (w.table.deadlines id = [e.deadline] ∧ w.inFlight.count id = 0) ∨
      (w.table.deadlines id = [] ∧ w.inFlight.count id = 1)
  /-- No other timer is scheduled. -/
  unarmed : ∀ id, w.loop.timers.isArmed id = false → w.table.deadlines id = []
  /-- An expiry is completed only once the deadline has passed. -/
  due : ∀ now id rest f, w.channel = .timerFired id :: rest → (w.step (.dispatch now)).isSome →
    (w.loop.timers.expire id now).1 = some f → ∃ e, w.table.get? id = some e ∧ e.deadline ≤ now

/-- **No armed timer is lost and none fires early**, in any state that moves lead to. -/
theorem Reachable.token_law (r : w.Reachable) (hn : w.armed < UInt64.size) : TokenLaw w := by
  have t := r.tokens hn
  refine ⟨?_, ?_, ?_⟩
  · intro id e he
    rcases t.place id e he with hplace | ⟨hd, hc, -⟩
    · exact Or.inl hplace
    · exact Or.inr ⟨hd, hc⟩
  · intro id harmed
    refine t.unarmed id ?_
    rw [TimerService.isArmed, Option.isSome_eq_false_iff, Option.isNone_iff_eq_none] at harmed
    exact harmed
  · intro now id rest f hchannel hstep hfired
    have hclock : w.clock ≤ now := by
      rw [step, hchannel] at hstep
      dsimp only at hstep
      split at hstep
      · next hready => exact hready.2
      · cases hstep
    have hmem : id ∈ w.inFlight := by
      rw [inFlight, hchannel]
      exact List.mem_cons_self
    cases he : w.table.get? id with
    | none =>
      rcases TimerTable.expire_cases w.loop.timers.table id now with ⟨-, hx⟩ | ⟨e, hget, -⟩
      · rw [TimerService.expire, hx] at hfired
        cases hfired
      · cases he.symm.trans hget
    | some e =>
      obtain ⟨-, -, hdue⟩ := t.place_of_mem he hmem
      exact ⟨e, rfl, Nat.le_trans hdue hclock⟩

/-- A periodic timer has been armed again when the event of a one-shot timer waits in the channel,
and a third timer was disarmed while its own was on its way. -/
def threeTimers : List TrafficMove :=
  [.arm ⟨0⟩ ⟨1⟩ ⟨5⟩ (.periodic ⟨2⟩) 7, .arm ⟨0⟩ ⟨1⟩ ⟨5⟩ .oneShot 8, .arm ⟨0⟩ ⟨1⟩ ⟨6⟩ .oneShot 9,
    .pop ⟨6⟩, .push, .push, .disarm ⟨3⟩, .dispatch ⟨6⟩]

theorem token_law_threeTimers :
    ∃ s : TaskSystem, TaskSystem.build (.create 7 0) ⟨2, .report, .builtin, false, false⟩ = .ok s ∧
      let w₀ : Traffic := ⟨⟨.create false, s, .initial⟩, [], [], ⟨0⟩, 0⟩
      ∃ w, w₀.run threeTimers = some w ∧ w.armed < UInt64.size ∧ TokenLaw w ∧
        w.table.deadlines ⟨1⟩ = [⟨7⟩] ∧ w.channel = [.timerFired ⟨2⟩] ∧ w.batch = [⟨3⟩] := by
  refine ⟨_, rfl, ?_⟩
  intro w₀
  have hr : Reachable w₀ := .initial ⟨0⟩ rfl
  refine ⟨_, rfl, by decide, Reachable.token_law (hr.run threeTimers rfl) (by decide), ?_, ?_, ?_⟩
  · decide
  · decide
  · decide

end Traffic

end TaskMessaging
