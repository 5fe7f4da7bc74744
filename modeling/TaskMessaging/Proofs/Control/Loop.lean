import TaskMessaging.Control.Thread
import TaskMessaging.Proofs.Control.Oblivious
import TaskMessaging.Proofs.TaskSystem.Counters

/-!
# The law of the control loop

The dispatcher takes events off its channel until one of them is final, and not one more. A final
event is a request for shutdown, an interrupt, or a fault if the dispatcher was told to stop on
faults; it leaves the dispatcher in the terminal state with the termination flag raised. When the
events run out before, the dispatcher keeps waiting and the flag is as it was.

## Events that do not matter

An event that is not recognized, or that a timer fired which is not armed any more, leaves nothing
behind but an entry in the journal. So a channel may be *thinned*: without such events the loop ends
in the same way and in the same state. Whether a timer is armed has to be asked at the moment at
which its event is handled, so the relation between the two channels follows the loop that runs on
the longer one. The loops on both are never the same, only `Alike`; that every step keeps them alike
is again obliviousness, this time of the journal.
-/

namespace TaskMessaging

/-- The termination flag is up behind the operation. -/
def Operation.raises : Operation → Bool
  | .requestShutdown | .terminateTasks _ => true
  | _ => false

/-- The envelope that an operation sends to all tasks. -/
def Operation.announcements : Operation → List Envelope
  | .broadcast e => [e]
  | .terminateTasks origin => [.owning .terminate origin .broadcast .empty]
  | _ => []

namespace TaskSystem

theorem raised_activity (s : TaskSystem) (op : Operation) : (s.activity op).raised = op.raises := by
  cases op <;> rfl

/-- The termination flag is raised by the operations that are meant to, and never lowered. -/
theorem terminating_run (s : TaskSystem) (ops : List Operation) :
    (s.run ops).terminating = (s.terminating || ops.any Operation.raises) := by
  induction ops generalizing s with
  | nil => exact (Bool.or_false _).symm
  | cons op ops ih =>
    rw [List.any_cons, ← Bool.or_assoc, ← s.raised_activity op, ← (s.books_perform op).terminating]
    exact ih (s.perform op).2

end TaskSystem

namespace ControlEvent

def isFault : ControlEvent → Bool
  | .fault _ => true
  | _ => false

/-- What all tasks are told about an event. -/
def announcements : ControlEvent → List Envelope
  | .fault signal => [ControlLoop.faultEnvelope signal]
  | .interrupt => [.owning .terminate .core .broadcast .empty]
  | _ => []

end ControlEvent

namespace ControlLoop

open ControlThread (isFinal)
open TaskSystem (SameButJournal)

variable {c d : ControlLoop} {now : Instant} {event : ControlEvent}

/-! ## One event -/

theorem dispatcher_deliverTimer (c : ControlLoop) (now : Instant) (id : TimerId) :
    (c.deliverTimer now id).dispatcher = c.dispatcher := by
  rw [deliverTimer]
  rcases c.timers.expire id now with ⟨_ | f, timers⟩
  · rfl
  · dsimp only
    rcases c.system.send (expiryEnvelope f) with ⟨err | _, s⟩
    · rfl
    · rfl

theorem dispatcher_reportFault (c : ControlLoop) (signal : Int32) :
    (c.reportFault signal).1 =
        (if c.dispatcher.stopOnFault = true then .terminal else .waiting) ∧
      (c.reportFault signal).2.dispatcher =
        { c.dispatcher with faults := c.dispatcher.faults + 1 } := by
  cases hs : c.dispatcher.stopOnFault with
  | true => simp [reportFault, note, hs]
  | false => simp [reportFault, note, hs]

/-- The state behind an event depends on the event alone. -/
theorem dispatcher_handle (h : c.dispatcher.state ≠ .terminal) (now : Instant)
    (event : ControlEvent) :
    (c.handle now event).dispatcher =
      ⟨if isFinal c.dispatcher.stopOnFault event then .terminal else .waiting,
        c.dispatcher.stopOnFault,
        if event.isFault then c.dispatcher.faults + 1 else c.dispatcher.faults⟩ := by
  rw [handle, if_neg h]
  cases event with
  | timerFired id =>
    have hd := dispatcher_deliverTimer (c.setState .dispatching) now id
    change { ((c.setState .dispatching).deliverTimer now id).dispatcher with state := .waiting } = _
    rw [hd]
    rfl
  | fault signal =>
    obtain ⟨hstate, hd⟩ := dispatcher_reportFault (c.setState .dispatching) signal
    change { ((c.setState .dispatching).reportFault signal).2.dispatcher with
      state := ((c.setState .dispatching).reportFault signal).1 } = _
    rw [hstate, hd]
    rfl
  | shutdownRequested => rfl
  | interrupt => rfl
  | unrecognized signal => rfl

theorem calls_timer (c : ControlLoop) (now : Instant) (id : TimerId) :
    (c.timerCalls now id).flatMap Operation.announcements = [] ∧
      (c.timerCalls now id).any Operation.raises = false := by
  rw [timerCalls]
  split
  · exact ⟨rfl, rfl⟩
  · split
    · exact ⟨rfl, rfl⟩
    · exact ⟨rfl, rfl⟩

theorem calls_handle (h : c.dispatcher.state ≠ .terminal) (now : Instant) (event : ControlEvent) :
    (c.handleCalls now event).flatMap Operation.announcements = event.announcements ∧
      (c.handleCalls now event).any Operation.raises = isFinal c.dispatcher.stopOnFault event := by
  rw [handleCalls, if_neg h, List.flatMap_append, List.any_append]
  change _ ++ [] = _ ∧ (_ || false) = _
  rw [List.append_nil, Bool.or_false]
  cases event with
  | timerFired id => exact calls_timer c now id
  | fault signal =>
    rw [reactCalls, isFinal]
    cases c.dispatcher.stopOnFault with
    | true => exact ⟨rfl, rfl⟩
    | false => exact ⟨rfl, rfl⟩
  | shutdownRequested => exact ⟨rfl, rfl⟩
  | interrupt => exact ⟨rfl, rfl⟩
  | unrecognized signal => exact ⟨rfl, rfl⟩

theorem terminating_handle (h : c.dispatcher.state ≠ .terminal) (now : Instant)
    (event : ControlEvent) :
    (c.handle now event).system.terminating =
      (c.system.terminating || isFinal c.dispatcher.stopOnFault event) := by
  rw [system_handle, TaskSystem.terminating_run, (calls_handle h now event).2]

/-- Behind an event that is not final the loop waits, with the flag as it was. -/
theorem handle_of_not_final (h : c.dispatcher.state = .waiting)
    (hevent : isFinal c.dispatcher.stopOnFault event = false) (now : Instant) :
    (c.handle now event).dispatcher.state = .waiting ∧
      (c.handle now event).dispatcher.stopOnFault = c.dispatcher.stopOnFault ∧
      (c.handle now event).system.terminating = c.system.terminating := by
  have hne : c.dispatcher.state ≠ .terminal := by simp [h]
  rw [terminating_handle hne, dispatcher_handle hne, hevent]
  exact ⟨rfl, rfl, Bool.or_false _⟩

/-! ## A channel of events -/

/-- How a loop ends, given the events that it handled. -/
structure Ends (c : ControlLoop) (result : Except ControlError Unit × ControlLoop × List Occurrence)
    (calls : List Operation) (outcome : Except ControlError Unit) (state : DispatcherState)
    (terminating : Bool) (handled rest : List Occurrence) : Prop where
  outcome : result.1 = outcome
  state : result.2.1.dispatcher.state = state
  terminating : result.2.1.system.terminating = terminating
  rest : result.2.2 = rest
  /-- The faults are counted in a word, so the count is exact below 2^64. -/
  faults : result.2.1.dispatcher.faults.toNat =
    (c.dispatcher.faults.toNat + handled.countP (·.event.isFault)) % Word.count 64
  announcements : calls.flatMap Operation.announcements = handled.flatMap (·.event.announcements)

theorem consume_terminal (h : c.dispatcher.state = .terminal) (events : List Occurrence) :
    c.consume events = (.ok (), c, events) ∧ c.consumeCalls events = [] := by
  cases events with
  | nil => exact ⟨if_pos h, if_pos h⟩
  | cons o os => exact ⟨if_pos h, if_pos h⟩

/-- Handling one more event in front. -/
theorem Ends.cons {o : Occurrence} {os handled rest : List Occurrence}
    {outcome : Except ControlError Unit} {state : DispatcherState} {terminating : Bool}
    (h : c.dispatcher.state ≠ .terminal)
    (hrest : Ends (c.handle o.time o.event) ((c.handle o.time o.event).consume os)
      ((c.handle o.time o.event).consumeCalls os) outcome state terminating handled rest) :
    Ends c (c.consume (o :: os)) (c.consumeCalls (o :: os)) outcome state terminating
      (o :: handled) rest := by
  have hconsume : c.consume (o :: os) = (c.handle o.time o.event).consume os := if_neg h
  have hcalls : c.consumeCalls (o :: os) =
      c.handleCalls o.time o.event ++ (c.handle o.time o.event).consumeCalls os := if_neg h
  rw [hconsume, hcalls]
  refine ⟨hrest.outcome, hrest.state, hrest.terminating, hrest.rest, ?_, ?_⟩
  · rw [hrest.faults, dispatcher_handle h, List.countP_cons]
    dsimp only
    split
    · rw [UInt64.toNat_add, UInt64.toNat_one, ← Nat.add_assoc, Nat.add_right_comm]
      exact Nat.mod_add_mod _ _ _
    · rfl
  · rw [List.flatMap_append, List.flatMap_cons, (calls_handle h _ _).1, hrest.announcements]

/-- The first final event ends the loop. -/
theorem ends_of_final {front rest : List Occurrence} {o : Occurrence}
    (h : c.dispatcher.state = .waiting)
    (hfront : ∀ x ∈ front, isFinal c.dispatcher.stopOnFault x.event = false)
    (ho : isFinal c.dispatcher.stopOnFault o.event = true) :
    Ends c (c.consume (front ++ o :: rest)) (c.consumeCalls (front ++ o :: rest)) (.ok ())
      .terminal true (front ++ [o]) rest := by
  have hne : c.dispatcher.state ≠ .terminal := by simp [h]
  -- Behind each event in front the loop waits again, which is all that the induction needs.
  induction front generalizing c with
  | nil =>
    refine .cons hne ?_
    have hstate : (c.handle o.time o.event).dispatcher.state = .terminal := by
      rw [dispatcher_handle hne, ho]
      rfl
    obtain ⟨hconsume, hcalls⟩ := consume_terminal hstate rest
    rw [hconsume, hcalls]
    exact ⟨rfl, hstate, by rw [terminating_handle hne, ho, Bool.or_true], rfl,
      (Nat.mod_eq_of_lt (UInt64.toNat_lt _)).symm, rfl⟩
  | cons x xs ih =>
    obtain ⟨hx, hxs⟩ := List.forall_mem_cons.mp hfront
    obtain ⟨hstate, hstop, -⟩ := handle_of_not_final h hx x.time
    exact .cons hne (ih hstate (hstop ▸ hxs) (hstop ▸ ho) (by simp [hstate]))

/-- Without one it waits until all senders are gone. -/
theorem ends_of_no_final {events : List Occurrence} (h : c.dispatcher.state = .waiting)
    (hevents : ∀ x ∈ events, isFinal c.dispatcher.stopOnFault x.event = false) :
    Ends c (c.consume events) (c.consumeCalls events) (.error .channelClosed) .waiting
      c.system.terminating events [] := by
  have hne : c.dispatcher.state ≠ .terminal := by simp [h]
  induction events generalizing c with
  | nil =>
    have hconsume : c.consume [] = (.error .channelClosed, c.note [noteChannelClosed], []) :=
      if_neg hne
    have hcalls : c.consumeCalls [] = [.report [noteChannelClosed]] := if_neg hne
    rw [hconsume, hcalls]
    exact ⟨rfl, h, rfl, rfl, (Nat.mod_eq_of_lt (UInt64.toNat_lt _)).symm, rfl⟩
  | cons x xs ih =>
    obtain ⟨hx, hxs⟩ := List.forall_mem_cons.mp hevents
    obtain ⟨hstate, hstop, hflag⟩ := handle_of_not_final h hx x.time
    exact .cons hne (hflag ▸ ih hstate (hstop ▸ hxs) (by simp [hstate]))

theorem start_spec (h : c.dispatcher.state = .idle ∨ c.dispatcher.state = .waiting) :
    c.start.dispatcher = { c.dispatcher with state := .waiting } ∧
      c.start.system.terminating = c.system.terminating ∧
      c.startCalls.flatMap Operation.announcements = [] := by
  rw [start, startCalls]
  rcases h with hidle | hwait
  · rw [if_pos hidle, if_pos hidle]
    exact ⟨rfl, rfl, rfl⟩
  · have hne : c.dispatcher.state ≠ .idle := by simp [hwait]
    rw [if_neg hne, if_neg hne, ← hwait]
    exact ⟨rfl, rfl, rfl⟩

/-- Starting is not noticed. -/
theorem Ends.run {events handled rest : List Occurrence} {outcome : Except ControlError Unit}
    {state : DispatcherState} {terminating : Bool}
    (h : c.dispatcher.state = .idle ∨ c.dispatcher.state = .waiting)
    (hstart : Ends c.start (c.start.consume events) (c.start.consumeCalls events) outcome state
      terminating handled rest) :
    Ends c (c.run events) (c.calls (.run events)) outcome state terminating handled rest := by
  obtain ⟨hd, -, hcalls⟩ := start_spec h
  refine ⟨hstart.outcome, hstart.state, hstart.terminating, hstart.rest, ?_, ?_⟩
  · have hfaults := hstart.faults
    rw [hd] at hfaults
    exact hfaults
  · rw [calls, List.flatMap_append, hcalls, hstart.announcements, List.nil_append]

/-! ## Events that do not matter -/

/-- Two loops that differ in their journals at most. -/
structure Alike (c d : ControlLoop) : Prop where
  dispatcher : d.dispatcher = c.dispatcher
  timers : d.timers = c.timers
  system : SameButJournal c.system d.system

theorem Alike.refl (c : ControlLoop) : Alike c c := ⟨rfl, rfl, .refl _⟩

theorem alike_under (c : ControlLoop) (p : FatalPolicy) (j k : Journal) :
    Alike (c.under p j) (c.under p k) := ⟨rfl, rfl, rfl⟩

/-- Loops that are alike stand under one policy, behind two journals. -/
theorem Alike.exists_under (h : Alike c d) :
    ∃ (u : ControlLoop) (p : FatalPolicy) (j k : Journal), c = u.under p j ∧ d = u.under p k := by
  obtain ⟨dispatcher, system, timers⟩ := d
  obtain ⟨rfl, rfl, hs⟩ := h
  rw [SameButJournal] at hs
  refine ⟨{ c with system := { c.system with journal := [] } }, c.system.policy, c.system.journal,
    system.journal, ?_, ?_⟩
  · simp [under, TaskSystem.under]
  · dsimp only at hs
    rw [under, TaskSystem.under, List.append_nil]
    exact congrArg (ControlLoop.mk c.dispatcher · c.timers) hs

theorem Alike.symm (h : Alike c d) : Alike d c :=
  ⟨h.dispatcher.symm, h.timers.symm, h.system.symm⟩

theorem Alike.trans {b : ControlLoop} (h : Alike b c) (h' : Alike c d) : Alike b d :=
  ⟨h'.dispatcher.trans h.dispatcher, h'.timers.trans h.timers, h.system.trans h'.system⟩

theorem Alike.note (h : Alike c d) (entries : Journal) :
    Alike (c.note entries) (d.note entries) := by
  obtain ⟨u, p, j, k, rfl, rfl⟩ := h.exists_under
  rw [u.note_under, u.note_under]
  exact alike_under _ p j k

theorem Alike.handle (h : Alike c d) (now : Instant) (event : ControlEvent) :
    Alike (c.handle now event) (d.handle now event) := by
  obtain ⟨u, p, j, k, rfl, rfl⟩ := h.exists_under
  rw [u.handle_under, u.handle_under]
  exact alike_under _ p j k

/-- The event is not recognized, or belongs to a timer that is not armed. -/
def IsVoid (c : ControlLoop) : ControlEvent → Prop
  | .unrecognized _ => True
  | .timerFired id => c.timers.isArmed id = false
  | _ => False

theorem expire_of_not_armed {s : TimerService} {id : TimerId} (h : s.isArmed id = false)
    (now : Instant) : s.expire id now = (none, s) := by
  refine TimerService.expire_eq_of_none ?_
  rcases TimerTable.expire_cases s.table id now with ⟨-, hx⟩ | ⟨e, hget, -⟩
  · rw [TimerService.expire, hx]
  · rw [TimerService.isArmed, hget] at h
    cases h

/-- Such an event leaves nothing behind. -/
theorem alike_handle_of_isVoid (h : c.dispatcher.state = .waiting) (hevent : c.IsVoid event)
    (now : Instant) : Alike c (c.handle now event) := by
  have hne : c.dispatcher.state ≠ .terminal := by simp [h]
  have hback : { c.dispatcher with state := .waiting } = c.dispatcher := by rw [← h]
  cases event with
  | timerFired id =>
    have hexpire := expire_of_not_armed hevent now
    have hdeliver : (c.setState .dispatching).deliverTimer now id =
        (c.setState .dispatching).note [noteExpiryDropped id] := by
      have htimers : (c.setState .dispatching).timers = c.timers := rfl
      rw [deliverTimer, htimers, hexpire]
    rw [handle, if_neg hne, react]
    dsimp only
    rw [hdeliver]
    exact ⟨hback, rfl, rfl⟩
  | unrecognized signal =>
    rw [handle, if_neg hne]
    exact ⟨hback, rfl, rfl⟩
  | _ => exact hevent.elim

/-- The second channel lacks some events of the first that leave nothing behind when the loop
handles them. -/
inductive Thins : ControlLoop → List Occurrence → List Occurrence → Prop where
  | nil {c : ControlLoop} : Thins c [] []
  | keep {c : ControlLoop} {o : Occurrence} {events thinned : List Occurrence} :
      Thins (c.handle o.time o.event) events thinned → Thins c (o :: events) (o :: thinned)
  | drop {c : ControlLoop} {o : Occurrence} {events thinned : List Occurrence} :
      c.IsVoid o.event → Thins (c.handle o.time o.event) events thinned →
        Thins c (o :: events) thinned

theorem consume_of_not_terminal (h : c.dispatcher.state ≠ .terminal) (o : Occurrence)
    (os : List Occurrence) : c.consume (o :: os) = (c.handle o.time o.event).consume os :=
  if_neg h

/-- A loop never idles again, nor is it left in the middle of an event. -/
theorem state_handle (h : c.dispatcher.state ≠ .terminal) (now : Instant) (event : ControlEvent) :
    (c.handle now event).dispatcher.state = .waiting ∨
      (c.handle now event).dispatcher.state = .terminal := by
  rw [dispatcher_handle h]
  dsimp only
  split
  · exact .inr rfl
  · exact .inl rfl

/-- A loop that has ended looks at no channel. -/
theorem Alike.consume_of_terminal (hd : Alike c d) (h : c.dispatcher.state = .terminal)
    (events others : List Occurrence) :
    (d.consume others).1 = (c.consume events).1 ∧
      Alike (c.consume events).2.1 (d.consume others).2.1 := by
  rw [(consume_terminal h events).1, (consume_terminal (hd.dispatcher ▸ h) others).1]
  exact ⟨rfl, hd⟩

/-- **Thinning a channel** changes neither how the loop ends nor in which state. -/
theorem Thins.consume {events thinned : List Occurrence} (h : Thins c events thinned)
    (hstate : c.dispatcher.state = .waiting ∨ c.dispatcher.state = .terminal) (hd : Alike c d) :
    (d.consume thinned).1 = (c.consume events).1 ∧
      Alike (c.consume events).2.1 (d.consume thinned).2.1 := by
  -- Where an event is kept both loops handle it, and where it is dropped only the first one does.
  induction h generalizing d with
  | nil =>
    rcases hstate with hwait | hend
    · have hnil {b : ControlLoop} (hb : b.dispatcher.state = .waiting) :
          b.consume [] = (.error .channelClosed, b.note [noteChannelClosed], []) :=
        if_neg (by simp [hb])
      rw [hnil hwait, hnil (hd.dispatcher ▸ hwait)]
      exact ⟨rfl, hd.note _⟩
    · exact hd.consume_of_terminal hend _ _
  | @keep c o events thinned h ih =>
    rcases hstate with hwait | hend
    · have hne : c.dispatcher.state ≠ .terminal := by simp [hwait]
      rw [consume_of_not_terminal hne, consume_of_not_terminal (hd.dispatcher ▸ hne)]
      exact ih (state_handle hne o.time o.event) (hd.handle o.time o.event)
    · exact hd.consume_of_terminal hend _ _
  | @drop c o events thinned hvoid h ih =>
    rcases hstate with hwait | hend
    · have hne : c.dispatcher.state ≠ .terminal := by simp [hwait]
      have hback := alike_handle_of_isVoid hwait hvoid o.time
      rw [consume_of_not_terminal hne]
      exact ih (state_handle hne o.time o.event) (hback.symm.trans hd)
    · exact hd.consume_of_terminal hend _ _

/-! ## The law -/

/-- What running the dispatcher on a channel comes to. -/
structure LoopLaw (c : ControlLoop) (events : List Occurrence) : Prop where
  /-- Everything up to the first final event is handled, and nothing behind it. -/
  ended : ∀ front o rest, events = front ++ o :: rest →
    (∀ x ∈ front, isFinal c.dispatcher.stopOnFault x.event = false) →
    isFinal c.dispatcher.stopOnFault o.event = true →
    Ends c (c.run events) (c.calls (.run events)) (.ok ()) .terminal true (front ++ [o]) rest
  /-- Without a final event everything is handled, and the senders are gone. -/
  closed : (∀ x ∈ events, isFinal c.dispatcher.stopOnFault x.event = false) →
    Ends c (c.run events) (c.calls (.run events)) (.error .channelClosed) .waiting
      c.system.terminating events []
  /-- What happens to the system are the calls, one after the other. -/
  system : (c.run events).2.1.system = c.system.run (c.calls (.run events))
  /-- The number of a signal can be read off its announcement. -/
  signal : ∀ number : Int32, ∃ data : InlinePayload,
    faultEnvelope number = .owning .faultReported .core .broadcast (.inline data) ∧
      data.bytes.length = 4 ∧ ofLittleEndian data.bytes = number.toUInt32.toNat
  thinned : ∀ others, Thins c.start events others →
    (c.run others).1 = (c.run events).1 ∧ Alike (c.run events).2.1 (c.run others).2.1
  /-- Behind the end no event changes anything. -/
  frozen : ∀ d : ControlLoop, d.dispatcher.state = .terminal → ∀ now event,
    Alike d (d.handle now event)

/-- **The law of the control loop.** -/
theorem loop_law (h : c.dispatcher.state = .idle ∨ c.dispatcher.state = .waiting)
    (events : List Occurrence) : LoopLaw c events := by
  obtain ⟨hstart, hflag, -⟩ := start_spec h
  have hwait : c.start.dispatcher.state = .waiting := congrArg (·.state) hstart
  have hstop : c.start.dispatcher.stopOnFault = c.dispatcher.stopOnFault :=
    congrArg (·.stopOnFault) hstart
  refine ⟨?_, fun hevents ↦ ?_, c.system_perform (.run events), fun number ↦ ?_,
    fun others hthins ↦ ?_, fun d hd now event ↦ ?_⟩
  · rintro front o rest rfl hfront ho
    exact .run h (ends_of_final hwait (hstop ▸ hfront) (hstop ▸ ho))
  · exact .run h (hflag ▸ ends_of_no_final hwait (hstop ▸ hevents))
  · have hlt : number.toUInt32.toNat < Nat.pow 256 4 := number.toUInt32.toNat_lt
    refine ⟨_, rfl, length_littleEndian 4 _, ?_⟩
    rw [ofLittleEndian_littleEndian, Nat.mod_eq_of_lt hlt]
  · exact hthins.consume (.inl hwait) (.refl _)
  · rw [handle_terminal hd]
    exact ⟨rfl, rfl, rfl⟩

/-- A timer that was never armed, a stray signal and a fault, before the end is asked for twice. -/
def busyChannel : List Occurrence :=
  [⟨.timerFired ⟨9⟩, ⟨0⟩⟩, ⟨.unrecognized 28, ⟨1⟩⟩, ⟨.fault 11, ⟨2⟩⟩, ⟨.shutdownRequested, ⟨3⟩⟩,
    ⟨.interrupt, ⟨4⟩⟩]

theorem loop_law_busyChannel :
    ∃ s : TaskSystem, TaskSystem.build (.create 7 0) ⟨2, .report, .builtin, false, false⟩ = .ok s ∧
      let c : ControlLoop := ⟨.create false, s, .initial⟩
      LoopLaw c busyChannel ∧ (c.run busyChannel).2.2 = [⟨.interrupt, ⟨4⟩⟩] ∧
        (c.run busyChannel).2.1.dispatcher = ⟨.terminal, false, 1⟩ ∧
        Thins c.start busyChannel (busyChannel.drop 2) := by
  refine ⟨_, rfl, loop_law (.inl rfl) busyChannel, ?_, ?_, ?_⟩
  · decide
  · decide
  · exact .drop rfl (.drop trivial (.keep (.keep (.keep .nil))))

end ControlLoop

end TaskMessaging
