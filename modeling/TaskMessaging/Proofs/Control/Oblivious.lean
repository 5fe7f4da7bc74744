import TaskMessaging.Proofs.Control.Operation
import TaskMessaging.Proofs.TaskSystem.Escalation

/-!
# The dispatcher and the policy

The dispatcher looks neither at the policy of its system nor at the journal. What it broadcasts or
releases on its own carries no item, so it escalates nothing, and each of its steps commutes with
`under`, which changes the one and prepends to the other. Only an operation that a client asks for
directly needs the proviso that the policy is kept or nothing is escalated.
-/

namespace TaskMessaging

namespace TaskSystem

variable {e : Envelope}

theorem silent_broadcast (hn : e.handle? = none) (s : TaskSystem) : Silent (·.broadcast e) s where
  toOblivious := oblivious_broadcast s e
  escalated := (escalated_broadcast_iff (.inl hn)).mpr (.inl (backed_of_none hn s))

theorem silent_releaseEnvelope (hn : e.handle? = none) (s : TaskSystem) :
    Silent (·.releaseEnvelope e) s where
  toOblivious := oblivious_releaseEnvelope s e
  escalated := escalated_releaseEnvelope_iff.mpr (backed_of_none hn s)

theorem oblivious_spawnTaskNotStarted (s : TaskSystem) (id : TaskId) (name cause : String) :
    Oblivious (·.spawnTaskNotStarted id name cause) s := by
  have hback (s : TaskSystem) : Silent (fun s ↦
      ((), ((s.note [noteNotStarted id cause]).unregisterTask id).2)) s :=
    (silent_note s [noteNotStarted id cause]).bind
      (g := fun _ s ↦ ((), (s.unregisterTask id).2))
      ((silent_unregisterTask _ id).map fun _ ↦ ()) fun _ _ ↦ rfl
  refine (oblivious_registerTask s id name).bind (g := fun r s ↦
    r.casesOn (fun err ↦ (.error err, s)) fun _ ↦
      (.error (.spawn id cause), ((s.note [noteNotStarted id cause]).unregisterTask id).2))
    ?_ fun p j ↦ ?_
  · rcases (s.registerTask id name).1 with err | t
    · exact (Silent.pure _ _).toOblivious
    · exact ((hback _).map fun _ ↦ Except.error (α := Unit) (TaskError.spawn id cause)).toOblivious
  · rw [spawnTaskNotStarted]
    rcases (s.under p j).registerTask id name with ⟨err | t, s₁⟩ <;> rfl

end TaskSystem

namespace ControlLoop

/-- The loop with its system under another policy. -/
def under (c : ControlLoop) (p : FatalPolicy) (j : Journal) : ControlLoop :=
  { c with system := c.system.under p j }

section under

variable (c : ControlLoop) (p : FatalPolicy) (j : Journal)

theorem system_under : (c.under p j).system = c.system.under p j := rfl

theorem timers_under : (c.under p j).timers = c.timers := rfl

theorem note_under (entries : Journal) :
    (c.under p j).note entries = (c.note entries).under p j := by
  rw [note, note, under, under]
  exact congrArg (fun s ↦ ({ c with system := s } : ControlLoop)) (c.system.note_under p j entries)

theorem transition_under (next : DispatcherState) :
    (c.under p j).transition next = (c.transition next).under p j :=
  congrArg (·.setState next) (c.note_under p j (c.transitionNotes next))

theorem start_under : (c.under p j).start = c.start.under p j := by
  rw [start, start]
  change (if c.dispatcher.state = .idle then _ else _) = _
  split
  · exact c.transition_under p j .waiting
  · rfl

theorem releaseExpiry_under (s : TaskSystem) {e : Envelope} (hn : e.handle? = none) :
    releaseExpiry (s.under p j) e = (releaseExpiry s e).under p j := by
  rw [releaseExpiry, releaseExpiry, (TaskSystem.silent_releaseEnvelope hn s).under_eq]
  rcases s.releaseEnvelope e with ⟨err | _, s₁⟩
  · exact s₁.note_under p j _
  · rfl

theorem deliverTimer_under (now : Instant) (id : TimerId) :
    (c.under p j).deliverTimer now id = (c.deliverTimer now id).under p j := by
  rw [deliverTimer, deliverTimer, timers_under]
  rcases c.timers.expire id now with ⟨_ | f, timers⟩
  · exact c.note_under p j _
  · have hsend := (c.system.silent_send (expiryEnvelope f)).under_eq p j
    dsimp only
    rw [system_under, hsend]
    rcases hs : c.system.send (expiryEnvelope f) with ⟨err | _, s⟩
    · have hnone : err.envelope.handle? = none := by
        rw [TaskSystem.envelope_of_send_error (congrArg Prod.fst hs)]
        rfl
      dsimp only
      rw [TaskSystem.note_under, releaseExpiry_under _ _ _ hnone]
      rfl
    · rfl

theorem reportFault_under (signal : Int32) :
    (c.under p j).reportFault signal =
      ((c.reportFault signal).1, (c.reportFault signal).2.under p j) := by
  have hb (s : TaskSystem) := congrArg Prod.snd
    ((TaskSystem.silent_broadcast (e := faultEnvelope signal) rfl s).under_eq p j)
  have hstop (s : TaskSystem) := congrArg Prod.snd (s.silent_requestShutdown.under_eq p j)
  dsimp only at hb hstop
  cases hs : c.dispatcher.stopOnFault with
  | true => simp only [reportFault, note, under, TaskSystem.note_under, hb, hs, if_true, hstop]
  | false => simp only [reportFault, note, under, TaskSystem.note_under, hb, hs]; rfl

theorem react_under (now : Instant) (event : ControlEvent) :
    (c.under p j).react now event = ((c.react now event).1, (c.react now event).2.under p j) := by
  cases event with
  | timerFired id => exact Prod.ext rfl (c.deliverTimer_under p j now id)
  | shutdownRequested =>
    have hstop := congrArg Prod.snd (c.system.silent_requestShutdown.under_eq p j)
    exact Prod.ext rfl (congrArg (fun s ↦ ({ c with system := s } : ControlLoop)) hstop)
  | fault signal => exact c.reportFault_under p j signal
  | interrupt =>
    simp only [react, under, (TaskSystem.silent_terminateTasks _ _).under_eq, TaskSystem.note_under]
  | unrecognized signal => exact Prod.ext rfl (c.note_under p j [noteUnrecognized signal])

theorem handle_under (now : Instant) (event : ControlEvent) :
    (c.under p j).handle now event = (c.handle now event).under p j := by
  rw [handle, handle]
  change (if c.dispatcher.state = .terminal then _ else _) = _
  split
  · exact c.note_under p j [noteIgnored event]
  · have hreact := (c.setState .dispatching).react_under p j now event
    dsimp only
    change (((c.setState .dispatching).under p j).react now event).2.transition
      (((c.setState .dispatching).under p j).react now event).1 = _
    rw [hreact, transition_under]

theorem consume_under (events : List Occurrence) :
    (c.under p j).consume events =
      ((c.consume events).1, (c.consume events).2.1.under p j, (c.consume events).2.2) := by
  induction events generalizing c with
  | nil =>
    rw [consume, consume]
    change (if c.dispatcher.state = .terminal then _ else _) = _
    split
    · rfl
    · rw [note_under]
  | cons o os ih =>
    rw [consume, consume]
    change (if c.dispatcher.state = .terminal then _ else _) = _
    split
    · rfl
    · rw [handle_under, ih]

theorem perform_under (op : ControlOperation)
    (h : p = c.system.policy ∨ (c.perform op).2.system.escalated = c.system.escalated) :
    (c.under p j).perform op = ((c.perform op).1, (c.perform op).2.under p j) := by
  cases op with
  | system op =>
    have hop := (TaskSystem.oblivious_perform c.system op).under p j h
    simp only [perform, under, hop]
  | spawnNotStarted id name cause =>
    have hop := (TaskSystem.oblivious_spawnTaskNotStarted c.system id name cause).under p j h
    simp only [perform, under, hop]
  | arm now owner delay kind userData =>
    rw [perform, perform, timers_under]
    rcases c.timers.arm now owner delay kind userData with err | ⟨id, timers⟩
    · rfl
    · rfl
  | disarm id => rfl
  | popDue now => rfl
  | stopTimers => rfl
  | start => exact Prod.ext rfl (c.start_under p j)
  | handle now event =>
    rw [perform, perform, handle_under]
    rfl
  | run events =>
    rw [perform, perform, run, run, start_under, consume_under]

end under

end ControlLoop

end TaskMessaging
