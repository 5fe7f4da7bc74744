import TaskMessaging.Proofs.Control.Loop

/-!
# The source of signals

Signals reach the dispatcher through the channel that the timers and everybody else use. Two parties
decide, each for itself, when the signals are over: the source, which passes on nothing behind the
first signal that ends the stream, and the dispatcher, which handles nothing behind the first event
that is final.

## What the source may leave out

An event that ends the stream of signals is final, whether the dispatcher stops on faults or not.
Nothing behind a final event is looked at, wherever in the channel the other senders put their
events. So by the time the dispatcher would come to a signal that the source left out, it has ended:
with all signals in the channel it runs as it does with those that are passed on.
-/

namespace TaskMessaging

/-- What ends the stream of signals ends the dispatcher, too. -/
theorem ControlEvent.isFinal_of_endsSignalStream {event : ControlEvent}
    (h : event.endsSignalStream = true) (stopOnFault : Bool) :
    ControlThread.isFinal stopOnFault event = true := by
  cases event with
  | shutdownRequested => rfl
  | interrupt => rfl
  | _ => cases h

/-- An entry of the dispatcher's channel. -/
inductive Arrival where
  /-- A signal, with the clock reading at which its event is handled. -/
  | signal (signal : Signal) (time : Instant)
  /-- An event of any other sender. -/
  | other (occurrence : Occurrence)

namespace Arrival

def occurrence : Arrival → Occurrence
  | signal s time => ⟨s.event, time⟩
  | other o => o

def signalEvent? : Arrival → Option ControlEvent
  | signal s _ => some s.event
  | other _ => none

def other? : Arrival → Option Occurrence
  | signal _ _ => none
  | other o => some o

/-- The source of signals stops behind the entry. -/
def endsSource : Arrival → Bool
  | signal s _ => s.event.endsSignalStream
  | other _ => false

/-- The channel as the dispatcher finds it when the source passes on what it is given until a signal
ends the stream: without the signals behind that one. -/
def passedOn : List Arrival → List Arrival
  | [] => []
  | a :: as => a :: if a.endsSource then as.filter (·.other?.isSome) else passedOn as

/-- The channel is a shuffle of the signals with the events of the other senders. -/
inductive Shuffles : List Signal → List Occurrence → List Arrival → Prop where
  | nil : Shuffles [] [] []
  | signal {s : Signal} {time : Instant} {signals : List Signal} {others : List Occurrence}
      {as : List Arrival} : Shuffles signals others as →
      Shuffles (s :: signals) others (.signal s time :: as)
  | other {o : Occurrence} {signals : List Signal} {others : List Occurrence} {as : List Arrival} :
      Shuffles signals others as → Shuffles signals (o :: others) (.other o :: as)

/-! ## What is passed on -/

theorem passedOn_sublist (as : List Arrival) : (passedOn as).Sublist as := by
  induction as with
  | nil => exact .slnil
  | cons a as ih =>
    rw [passedOn]
    cases a.endsSource with
    | true => exact List.filter_sublist.cons_cons a
    | false => exact ih.cons_cons a

/-- Either no signal ends the stream and everything is passed on, or the channel is cut behind the
first one that does. -/
theorem passedOn_cases (as : List Arrival) :
    passedOn as = as ∨
      ∃ front a back, a.endsSource = true ∧ as = front ++ a :: back ∧
        passedOn as = front ++ a :: back.filter (·.other?.isSome) := by
  induction as with
  | nil => exact .inl rfl
  | cons a as ih =>
    rw [passedOn]
    cases ha : a.endsSource with
    | true => exact .inr ⟨[], a, as, ha, rfl, rfl⟩
    | false =>
      rcases ih with h | ⟨front, b, back, hb, rfl, h⟩
      · exact .inl (congrArg (a :: ·) h)
      · exact .inr ⟨a :: front, b, back, hb, rfl, congrArg (a :: ·) h⟩

theorem filterMap_others (as : List Arrival) :
    (as.filter (·.other?.isSome)).filterMap signalEvent? = [] ∧
      (as.filter (·.other?.isSome)).filterMap other? = as.filterMap other? := by
  constructor
  · rw [List.filterMap_eq_nil_iff]
    intro a ha
    cases a with
    | signal s time => exact absurd (List.mem_filter.mp ha).2 (by simp [other?])
    | other o => rfl
  · rw [List.filterMap_filter]
    refine congrArg (as.filterMap ·) (funext fun a ↦ ?_)
    cases a <;> rfl

theorem Shuffles.filterMap_other {signals : List Signal} {others : List Occurrence}
    {as : List Arrival} (h : Shuffles signals others as) : as.filterMap other? = others := by
  induction h with
  | nil => rfl
  | signal _ ih => exact ih
  | other _ ih => exact congrArg (_ :: ·) ih

/-- What is passed on are the events that the source emits, and all others. -/
theorem Shuffles.passedOn {signals : List Signal} {others : List Occurrence} {as : List Arrival}
    (h : Shuffles signals others as) :
    (passedOn as).filterMap signalEvent? = ControlThread.signalled signals ∧
      (Arrival.passedOn as).filterMap other? = others := by
  induction h with
  | nil => exact ⟨rfl, rfl⟩
  | @signal s time signals others as h ih =>
    rw [Arrival.passedOn, ControlThread.signalled, List.map_cons, ControlEvent.untilStreamEnds]
    cases hs : s.event.endsSignalStream with
    | true =>
      obtain ⟨hsignals, hothers⟩ := filterMap_others as
      rw [if_pos (show endsSource (.signal s time) = true from hs)]
      exact ⟨congrArg (s.event :: ·) hsignals, hothers.trans h.filterMap_other⟩
    | false =>
      rw [if_neg (by simp [endsSource, hs])]
      exact ⟨congrArg (s.event :: ·) ih.1, ih.2⟩
  | other _ ih => exact ⟨ih.1, congrArg (_ :: ·) ih.2⟩

theorem isFinal_of_endsSource {a : Arrival} (h : a.endsSource = true) (stopOnFault : Bool) :
    ControlThread.isFinal stopOnFault a.occurrence.event = true := by
  cases a with
  | signal s time => exact ControlEvent.isFinal_of_endsSignalStream h stopOnFault
  | other o => cases h

end Arrival

namespace ControlLoop

open ControlThread (isFinal)

/-! ## Behind a final event -/

/-- A loop that has ended leaves the whole channel as it is. -/
theorem consume_append_of_terminal {c : ControlLoop} (h : c.dispatcher.state = .terminal)
    (front rest : List Occurrence) :
    c.consume (front ++ rest) =
      ((c.consume front).1, (c.consume front).2.1, (c.consume front).2.2 ++ rest) := by
  rw [(consume_terminal h _).1, (consume_terminal h _).1]

/-- What stands behind a final event is left in the channel, and matters for nothing else. -/
theorem consume_behind_final {o : Occurrence} (c : ControlLoop)
    (ho : ∀ stopOnFault, isFinal stopOnFault o.event = true) (front rest : List Occurrence) :
    c.consume (front ++ [o] ++ rest) =
      ((c.consume (front ++ [o])).1, (c.consume (front ++ [o])).2.1,
        (c.consume (front ++ [o])).2.2 ++ rest) := by
  -- The loop may end in front of the event already, on one that the other senders put there.
  induction front generalizing c with
  | nil =>
    by_cases h : c.dispatcher.state = .terminal
    · exact consume_append_of_terminal h _ _
    · have hend : (c.handle o.time o.event).dispatcher.state = .terminal := by
        rw [dispatcher_handle h, ho]
        rfl
      change c.consume (o :: rest) = ((c.consume [o]).1, (c.consume [o]).2.1,
        (c.consume [o]).2.2 ++ rest)
      rw [consume_of_not_terminal h, consume_of_not_terminal h]
      exact consume_append_of_terminal hend [] rest
  | cons x front ih =>
    by_cases h : c.dispatcher.state = .terminal
    · exact consume_append_of_terminal h _ _
    · rw [List.cons_append, List.cons_append, consume_of_not_terminal h, consume_of_not_terminal h]
      exact ih (c.handle x.time x.event)

/-- The channel is read from its front. -/
theorem consume_suffix (c : ControlLoop) (events : List Occurrence) :
    (c.consume events).2.2 <:+ events := by
  induction events generalizing c with
  | nil =>
    rw [consume]
    split <;> exact List.suffix_rfl
  | cons o os ih =>
    by_cases h : c.dispatcher.state = .terminal
    · have hend := (consume_terminal h (o :: os)).1
      exact ⟨[], congrArg (·.2.2) hend⟩
    · rw [consume_of_not_terminal h]
      exact (ih _).trans (List.suffix_cons o os)

/-- Two channels on which a loop ends in the same way, after the same events. -/
structure SameRun (c : ControlLoop) (events others : List Occurrence) : Prop where
  outcome : (c.run others).1 = (c.run events).1
  /-- Dispatcher, system and timers end up the same. -/
  loop : (c.run others).2.1 = (c.run events).2.1
  handled : ∃ handled,
    events = handled ++ (c.run events).2.2 ∧ others = handled ++ (c.run others).2.2

theorem SameRun.refl (c : ControlLoop) (events : List Occurrence) : SameRun c events events := by
  obtain ⟨handled, h⟩ := c.start.consume_suffix events
  exact ⟨rfl, rfl, handled, h.symm, h.symm⟩

/-- Channels may differ behind a final event. -/
theorem SameRun.of_final {o : Occurrence} (c : ControlLoop)
    (ho : ∀ stopOnFault, isFinal stopOnFault o.event = true) (front rest others : List Occurrence) :
    SameRun c (front ++ o :: rest) (front ++ o :: others) := by
  obtain ⟨handled, h⟩ := c.start.consume_suffix (front ++ [o])
  have hrest := consume_behind_final c.start ho front rest
  have hothers := consume_behind_final c.start ho front others
  rw [List.append_cons front o rest, List.append_cons front o others]
  refine ⟨?_, ?_, handled, ?_, ?_⟩
  · rw [run, run, hrest, hothers]
  · rw [run, run, hrest, hothers]
  · rw [run, hrest, ← List.append_assoc, h]
  · rw [run, hothers, ← List.append_assoc, h]

/-! ## The law -/

/-- What it comes to that the source of signals stops by itself. -/
structure SourceLaw (c : ControlLoop) (signals : List Signal) (others : List Occurrence)
    (as : List Arrival) : Prop where
  /-- The signals that are passed on are those that the source emits. -/
  emitted : (Arrival.passedOn as).filterMap Arrival.signalEvent? = ControlThread.signalled signals
  /-- The events of the other senders are all there, in their places. -/
  others : (Arrival.passedOn as).filterMap Arrival.other? = others
  sublist : (Arrival.passedOn as).Sublist as
  same : SameRun c (as.map Arrival.occurrence) ((Arrival.passedOn as).map Arrival.occurrence)

/-- **Stopping the source of signals loses nothing.** -/
theorem source_law {signals : List Signal} {others : List Occurrence} {as : List Arrival}
    (c : ControlLoop) (h : Arrival.Shuffles signals others as) :
    SourceLaw c signals others as := by
  refine ⟨h.passedOn.1, h.passedOn.2, Arrival.passedOn_sublist as, ?_⟩
  rcases Arrival.passedOn_cases as with hall | ⟨front, a, back, ha, rfl, hcut⟩
  · rw [hall]
    exact .refl c _
  · have hfinal := Arrival.isFinal_of_endsSource ha
    rw [hcut, List.map_append, List.map_append, List.map_cons, List.map_cons]
    exact .of_final c hfinal _ _ _

/-- A child that stopped, a request to shut down and an interrupt, between a timer that was never
armed and a fault that somebody else reports. -/
def crowdedChannel : List Arrival :=
  [.signal ⟨17⟩ ⟨0⟩, .other ⟨.timerFired ⟨9⟩, ⟨1⟩⟩, .signal .termination ⟨2⟩,
    .signal .interrupt ⟨3⟩, .other ⟨.fault 11, ⟨4⟩⟩]

theorem source_law_crowdedChannel :
    ∃ s : TaskSystem, TaskSystem.build (.create 7 0) ⟨2, .report, .builtin, false, false⟩ = .ok s ∧
      let c : ControlLoop := ⟨.create true, s, .initial⟩
      SourceLaw c [⟨17⟩, .termination, .interrupt] [⟨.timerFired ⟨9⟩, ⟨1⟩⟩, ⟨.fault 11, ⟨4⟩⟩]
        crowdedChannel ∧
      (Arrival.passedOn crowdedChannel).map Arrival.occurrence =
        [⟨.unrecognized 17, ⟨0⟩⟩, ⟨.timerFired ⟨9⟩, ⟨1⟩⟩, ⟨.shutdownRequested, ⟨2⟩⟩,
          ⟨.fault 11, ⟨4⟩⟩] := by
  refine ⟨_, rfl, source_law _ ?_, ?_⟩
  · exact .signal (.other (.signal (.signal (.other .nil))))
  · decide

end ControlLoop

end TaskMessaging
