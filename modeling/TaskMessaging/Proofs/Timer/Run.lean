import TaskMessaging.Proofs.Control.Dispatcher
import TaskMessaging.Proofs.Timer.Table

/-!
# Runs of the timers

Clients arm and disarm timers, the scheduler takes due ones off, and the dispatcher handles events,
in any order and any number. A run records each of these actions with the state that it met, so
that what an action did can be read off the record.
-/

namespace TaskMessaging

namespace TimerService

variable {s s' : TimerService} {now : Instant} {owner : TaskId} {delay : Duration}
  {kind : TimerKind} {userData : UInt64} {id : TimerId}

/-- A timer with an interval of zero is never armed. -/
theorem isZero_of_deadline? {interval : Duration} {d : Instant}
    (h : deadline? now delay (.periodic interval) = .ok d) : interval.isZero = false := by
  rw [deadline?] at h
  split at h
  · cases h
  · next hz => exact Bool.eq_false_iff.mpr hz

/-- Arming takes the next number and puts an entry for it into the table. -/
theorem arm_eq_ok (h : s.arm now owner delay kind userData = .ok (id, s')) :
    ∃ d, deadline? now delay kind = .ok d ∧ id = ⟨s.ids.next⟩ ∧
      s' = ⟨s.table.insert ⟨id, owner, kind, userData, d⟩, s.stopped, ⟨s.ids.next + 1⟩⟩ := by
  rw [arm] at h
  cases hd : deadline? now delay kind with
  | error err =>
    rw [hd] at h
    cases h
  | ok d =>
    rw [hd] at h
    cases h
    exact ⟨d, rfl, rfl, rfl⟩

theorem isArmed_iff : s.isArmed id = true ↔ ∃ e, s.table.get? id = some e := by
  rw [isArmed, Option.isSome_iff_exists]

end TimerService

/-! ## Actions -/

/-- Something that happens to the timers or beside them. -/
inductive TimerAction where
  | arm (now : Instant) (owner : TaskId) (delay : Duration) (kind : TimerKind) (userData : UInt64)
  | disarm (id : TimerId)
  /-- The scheduler takes off what is due. -/
  | pop (now : Instant)
  | stop
  /-- The dispatcher starts, or handles an event, wherever that came from. -/
  | start
  | handle (now : Instant) (event : ControlEvent)
  /-- Somebody else changes the system. -/
  | elsewhere (s : TaskSystem)

namespace ControlLoop

/-- The state behind an action. -/
def act (c : ControlLoop) : TimerAction → ControlLoop
  | .arm now owner delay kind userData =>
    match c.timers.arm now owner delay kind userData with
    | .ok (_, timers) => { c with timers := timers }
    | .error _ => c
  | .disarm id => { c with timers := (c.timers.disarm id).2 }
  | .pop now => { c with timers := (c.timers.popDue now).2 }
  | .stop => { c with timers := c.timers.stop }
  | .start => c.start
  | .handle now event => c.handle now event
  | .elsewhere s => { c with system := s }

theorem timers_start (c : ControlLoop) : c.start.timers = c.timers := by
  rw [start]
  split
  · rfl
  · rfl

end ControlLoop

/-- An action with the state that it met. -/
structure Moment where
  loop : ControlLoop
  action : TimerAction

/-- What was agreed when a timer was armed. -/
structure Agreement where
  id : TimerId
  owner : TaskId
  kind : TimerKind
  userData : UInt64
deriving DecidableEq

namespace Moment

variable {m : Moment} {id : TimerId}

/-- What an action agreed, if it armed a timer. -/
def armed? (m : Moment) : Option Agreement :=
  match m.action with
  | .arm now owner delay kind userData =>
    match m.loop.timers.arm now owner delay kind userData with
    | .ok (id, _) => some ⟨id, owner, kind, userData⟩
    | .error _ => none
  | _ => none

/-- The expiry that an action completed: an event is looked up in the table unless the dispatcher
is past handling events. -/
def fired? (m : Moment) : Option FiredTimer :=
  match m.action with
  | .handle now (.timerFired id) =>
    if m.loop.dispatcher.state = .terminal then none else (m.loop.timers.expire id now).1
  | _ => none

/-- The envelope that an action tried to send for it. -/
def attempt? (m : Moment) : Option Envelope := m.fired?.map ControlLoop.expiryEnvelope

/-- The action armed the timer. -/
def arms (m : Moment) (id : TimerId) : Bool := (m.armed?.map (·.id)) = some id

/-- The action was a request to disarm the timer, and was told that it was armed. -/
def disarms (m : Moment) (id : TimerId) : Bool :=
  match m.action with
  | .disarm j => j = id && (m.loop.timers.disarm j).1
  | _ => false

/-- The action tried to tell the owner of the timer. -/
def attempts (m : Moment) (id : TimerId) : Bool := (m.fired?.map (·.id)) = some id

/-- The action completed an expiry of the timer that was its last. -/
def retires (m : Moment) (id : TimerId) : Bool :=
  m.fired?.any fun f ↦ f.id = id && !f.rearmed

end Moment

namespace Moment

variable {c : ControlLoop} {now : Instant} {id : TimerId}

theorem fired?_of_terminal (ht : c.dispatcher.state = .terminal) :
    fired? ⟨c, .handle now (.timerFired id)⟩ = none :=
  if_pos ht

theorem fired?_of_not_terminal (ht : c.dispatcher.state ≠ .terminal) :
    fired? ⟨c, .handle now (.timerFired id)⟩ = (c.timers.expire id now).1 :=
  if_neg ht

/-- What an action makes of the timers, beside what it has on record. -/
inductive Effect (m : Moment) : TimerService → Prop where
  | arms (g : Agreement) (d : Instant) : m.armed? = some g → m.fired? = none →
      (∀ id, m.disarms id = false) → g.id = ⟨m.loop.timers.ids.next⟩ →
      Effect m ⟨m.loop.timers.table.insert ⟨g.id, g.owner, g.kind, g.userData, d⟩,
        m.loop.timers.stopped, ⟨m.loop.timers.ids.next + 1⟩⟩
  | disarms (j : TimerId) : m.armed? = none → m.fired? = none →
      (∀ id, m.disarms id = (decide (j = id) && (m.loop.timers.disarm j).1)) →
      Effect m (m.loop.timers.disarm j).2
  | fires (id : TimerId) (now : Instant) (f : FiredTimer) : m.armed? = none → m.fired? = some f →
      (∀ id, m.disarms id = false) → (m.loop.timers.expire id now).1 = some f →
      Effect m (m.loop.timers.expire id now).2
  | keeps (t : TimerService) : m.armed? = none → m.fired? = none → (∀ id, m.disarms id = false) →
      t.table.entries = m.loop.timers.table.entries → t.ids = m.loop.timers.ids → Effect m t

/-- Every action has such an effect. -/
theorem effect (m : Moment) : m.Effect (m.loop.act m.action).timers := by
  obtain ⟨c, a⟩ := m
  cases a with
  | arm now owner delay kind userData =>
    rw [ControlLoop.act]
    cases h : c.timers.arm now owner delay kind userData with
    | error err =>
      have hnone : armed? ⟨c, .arm now owner delay kind userData⟩ = none := by
        rw [armed?]
        dsimp only
        rw [h]
      exact .keeps _ hnone rfl (fun _ ↦ rfl) rfl rfl
    | ok r =>
      obtain ⟨id, t⟩ := r
      obtain ⟨d, -, hid, rfl⟩ := TimerService.arm_eq_ok h
      have hsome : armed? ⟨c, .arm now owner delay kind userData⟩ =
          some ⟨id, owner, kind, userData⟩ := by
        rw [armed?]
        dsimp only
        rw [h]
      exact .arms ⟨id, owner, kind, userData⟩ d hsome rfl (fun _ ↦ rfl) hid
  | disarm j => exact .disarms j rfl rfl fun _ ↦ rfl
  | pop now =>
    refine .keeps _ rfl rfl (fun _ ↦ rfl) ?_ ?_
    · rw [ControlLoop.act, TimerService.popDue]
      split
      · rfl
      · rfl
    · rw [ControlLoop.act, TimerService.popDue]
      split
      · rfl
      · rfl
  | stop => exact .keeps _ rfl rfl (fun _ ↦ rfl) rfl rfl
  | start =>
    refine .keeps _ rfl rfl (fun _ ↦ rfl) ?_ ?_
    · rw [ControlLoop.act, ControlLoop.timers_start]
    · rw [ControlLoop.act, ControlLoop.timers_start]
  | elsewhere s => exact .keeps _ rfl rfl (fun _ ↦ rfl) rfl rfl
  | handle now event =>
    rw [ControlLoop.act]
    by_cases hother : ∀ id, event ≠ .timerFired id
    · have hnone : fired? ⟨c, .handle now event⟩ = none := by
        cases event with
        | timerFired id => exact absurd rfl (hother id)
        | _ => rfl
      rw [ControlLoop.timers_handle_of_other hother]
      exact .keeps _ rfl hnone (fun _ ↦ rfl) rfl rfl
    · obtain ⟨id, rfl⟩ : ∃ id, event = .timerFired id := by
        simpa using hother
      by_cases ht : c.dispatcher.state = .terminal
      · rw [(ControlLoop.handle_of_terminal ht now (.timerFired id)).1]
        exact .keeps _ rfl (fired?_of_terminal ht) (fun _ ↦ rfl) rfl rfl
      · have hfired : fired? ⟨c, .handle now (.timerFired id)⟩ = (c.timers.expire id now).1 :=
          fired?_of_not_terminal ht
        rw [(ControlLoop.handle_timerFired ht now id).1]
        cases he : (c.timers.expire id now).1 with
        | some f => exact .fires id now f rfl (hfired.trans he) (fun _ ↦ rfl) he
        | none =>
          rw [TimerService.expire_eq_of_none he]
          exact .keeps _ rfl (hfired.trans he) (fun _ ↦ rfl) rfl rfl

end Moment

/-- The runs from a state, with all that happened and the state that they lead to. -/
inductive TimerRun (c₀ : ControlLoop) : List Moment → ControlLoop → Prop where
  | nil : TimerRun c₀ [] c₀
  | snoc {h : List Moment} {c : ControlLoop} (a : TimerAction) :
      TimerRun c₀ h c → TimerRun c₀ (h ++ [⟨c, a⟩]) (c.act a)

/-- Whatever happened in a run happened at the end of a shorter one. -/
theorem TimerRun.of_mem {c₀ c : ControlLoop} {h : List Moment} (r : TimerRun c₀ h c)
    {before after : List Moment} {m : Moment} (hm : h = before ++ m :: after) :
    TimerRun c₀ before m.loop := by
  induction r generalizing after with
  | nil =>
    have hlen := congrArg List.length hm
    simp at hlen
  | snoc a r ih =>
    rcases List.eq_nil_or_concat after with rfl | ⟨after', n, rfl⟩
    · obtain ⟨rfl, hlast⟩ := List.append_inj' hm rfl
      obtain rfl := (List.cons.inj hlast).1
      exact r
    · rw [List.concat_eq_append, ← List.cons_append, ← List.append_assoc] at hm
      exact ih (List.append_inj' hm rfl).1

/-- The record of a sequence of actions. -/
def ControlLoop.record (c : ControlLoop) : List TimerAction → List Moment
  | [] => []
  | a :: as => ⟨c, a⟩ :: (c.act a).record as

/-- A run goes on with any actions. -/
theorem TimerRun.append_record {c₀ c : ControlLoop} {h : List Moment} (r : TimerRun c₀ h c)
    (actions : List TimerAction) :
    TimerRun c₀ (h ++ c.record actions) (actions.foldl ControlLoop.act c) := by
  induction actions generalizing h c with
  | nil =>
    rw [ControlLoop.record, List.append_nil]
    exact r
  | cons a actions ih =>
    have hr := ih (r.snoc a)
    rw [List.append_assoc] at hr
    exact hr

end TaskMessaging
