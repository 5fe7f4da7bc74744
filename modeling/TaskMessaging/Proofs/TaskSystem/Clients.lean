import TaskMessaging.Control.Dispatcher
import TaskMessaging.Proofs.TaskSystem.Ownership

/-!
# Clients that respect ownership

Clients run beside the system: tasks, threads, and whoever else may call it. What a client holds is
an *asset*: an item by its handle, a payload, or an envelope. A client gives up only what it holds,
and it lets go of an asset on its own only if the asset owns no item. Everything else is free: the
order of the calls, what is written where, what is sent to whom, borrowed envelopes that name any
item whatsoever, and what the timers do.

A *world* is the control loop together with what all clients hold. Moves lead from one world to the
next, and the invariant of every world that they reach is that its system is balanced for the items
that the clients hold.
-/

namespace TaskMessaging

/-- Whoever calls the system. -/
abbrev Client := Nat

/-- Something that a client can hold. -/
inductive Asset where
  | item (h : ItemHandle)
  | payload (p : Payload)
  | envelope (e : Envelope)
deriving DecidableEq

namespace Asset

/-- The item that the holder of an asset has to free. -/
def item? : Asset → Option ItemHandle
  | .item h => some h
  | .payload p => p.handle?
  | .envelope e => e.handle?

/-- An item that is held by its bare handle. -/
def bare? : Asset → Option ItemHandle
  | .item h => some h
  | _ => none

/-- An item that a payload or an envelope carries. -/
def carried? : Asset → Option ItemHandle
  | .item _ => none
  | .payload p => p.handle?
  | .envelope e => e.handle?

theorem item?_of_bare?_none {x : Asset} (hx : x.bare? = none) : x.item? = x.carried? := by
  cases x with
  | item h => cases hx
  | payload p => rfl
  | envelope e => rfl

/-- Some items are held bare, and the others are carried. -/
theorem perm_bare_carried (xs : List Asset) :
    (xs.filterMap item?).Perm (xs.filterMap bare? ++ xs.filterMap carried?) := by
  induction xs with
  | nil => exact .refl []
  | cons x xs ih =>
    cases hb : x.bare? with
    | some h =>
      obtain rfl : x = .item h := by
        cases x <;> simp_all [bare?]
      exact ih.cons h
    | none =>
      rw [List.filterMap_cons, List.filterMap_cons, List.filterMap_cons, item?_of_bare?_none hb, hb]
      cases x.carried? with
      | none => exact ih
      | some h => exact (ih.cons h).trans List.perm_middle.symm

end Asset

/-! ## What operations take and give -/

/-- The asset that a client gives up with an operation. -/
def Operation.takes : Operation → Option Asset
  | .free h _ => some (.item h)
  | .releasePayload _ p => some (.payload p)
  | .releaseEnvelope e => some (.envelope e)
  | .send e => some (.envelope e)
  | .broadcast e => some (.envelope e)
  | _ => none

/-- The item that an operation looks at or changes, and leaves with its holder. -/
def Operation.accesses? : Operation → Option ItemHandle
  | .duplicate h => some h
  | .read h => some h
  | .write h _ _ => some h
  | .update h _ => some h
  | .setInfo h _ _ => some h
  | _ => none

/-- What waits in a mailbox is lost with the registration of its task. -/
def Operation.unregisters : Operation → Bool
  | .unregister _ => true
  | _ => false

/-- The asset that a client is handed with an answer. -/
def Answer.gives : Answer → Option Asset
  | .item h => some (.item h)
  | .received (some e) => some (.envelope e)
  | .returned err => some (.envelope err.envelope)
  | _ => none

/-- The items of an asset that may be there. -/
def Asset.itemsOf (x : Option Asset) : List ItemHandle := (x.bind Asset.item?).toList

/-- The items of all assets that clients hold. -/
def Asset.itemsHeld (held : List (Client × Asset)) : List ItemHandle :=
  (held.map (·.2)).filterMap Asset.item?

namespace TaskSystem

variable {s : TaskSystem} {held : List ItemHandle}

/-- An answer that hands nothing out and tells nothing of the pools. -/
theorem Balanced.and_quiet (hb : Balanced s held) {answer : Answer} (hg : answer.gives = none)
    (hq : answer.poolError? = none) {P : Prop} :
    Balanced s (Asset.itemsOf answer.gives ++ held) ∧
      ∀ err, answer.poolError? = some err → P → err.isFatal = false := by
  refine ⟨by rw [hg]; exact hb, ?_⟩
  intro err he
  rw [hq] at he
  cases he

/-- Answers about tasks. -/
theorem Answer.quiet_registerTask (s : TaskSystem) (id : TaskId) (name : String) :
    (Answer.ofResult .task (s.registerTask id name).1).gives = none ∧
      (Answer.ofResult .task (s.registerTask id name).1).poolError? = none := by
  rw [registerTask]
  cases hr : s.registry.register id name with
  | ok r => exact ⟨rfl, rfl⟩
  | error err =>
    have hne := Registry.ne_pool_of_register hr
    cases err with
    | pool e => exact absurd rfl (hne e)
    | _ => exact ⟨rfl, rfl⟩

theorem Answer.quiet_spawnTask (s : TaskSystem) (id : TaskId) (name : String) :
    (Answer.ofResult (fun _ ↦ .done) (s.spawnTask id name).1).gives = none ∧
      (Answer.ofResult (fun _ ↦ .done) (s.spawnTask id name).1).poolError? = none := by
  have hr := Answer.quiet_registerTask s id name
  rw [spawnTask]
  rcases hs : s.registerTask id name with ⟨err | t, s₁⟩
  · rw [hs] at hr
    exact hr
  · exact ⟨rfl, rfl⟩

theorem Answer.quiet_lookup (s : TaskSystem) (id : TaskId) :
    (Answer.ofResult .task (s.lookup id).1).gives = none ∧
      (Answer.ofResult .task (s.lookup id).1).poolError? = none := by
  rw [lookup]
  cases s.registry.find? id with
  | none => exact ⟨rfl, rfl⟩
  | some t => exact ⟨rfl, rfl⟩

/-- An access to an item, given what the pools make of it while the item is live. -/
theorem Balanced.and_access (hb : Balanced s held) (h : ItemHandle)
    {result : Except PoolError Allocator} (hk : ∀ a, result = .ok a → s.allocator.Keeps a)
    (hf : ∀ err, s.allocator.Live h → result = .error err → err.isFatal = false) :
    Balanced (s.access h result).2 (Asset.itemsOf (s.access h result).1.gives ++ held) ∧
      ∀ err, (s.access h result).1.poolError? = some err →
        (∀ g, some h = some g → s.allocator.Live g) → err.isFatal = false := by
  have hb' := hb.access h hk
  cases result with
  | ok a => exact hb'.and_quiet rfl rfl
  | error err =>
    refine ⟨hb', ?_⟩
    intro err' he hl
    obtain rfl : err = err' := Option.some.inj he
    exact hf err (hl h rfl) rfl

/-- **Operations keep a system balanced**, and the pools refuse none of them for a fatal reason
unless it looks at an item that is not live. -/
theorem Balanced.perform {op : Operation} (hop : op.unregisters = false)
    (hb : Balanced s (Asset.itemsOf op.takes ++ held)) :
    Balanced (s.perform op).2 (Asset.itemsOf (s.perform op).1.gives ++ held) ∧
      ∀ err, (s.perform op).1.poolError? = some err →
        (∀ h, op.accesses? = some h → s.allocator.Live h) → err.isFatal = false := by
  have hwf := hb.wellFormed.allocator
  cases op with
  | unregister id => cases hop
  | register id name =>
    obtain ⟨hg, hq⟩ := Answer.quiet_registerTask s id name
    exact (registerTask hb id name).and_quiet hg hq
  | spawn id name =>
    obtain ⟨hg, hq⟩ := Answer.quiet_spawnTask s id name
    exact (spawnTask hb id name).and_quiet hg hq
  | lookup id =>
    obtain ⟨hg, hq⟩ := Answer.quiet_lookup s id
    refine Balanced.and_quiet ?_ hg hq
    change Balanced (s.lookup id).2 held
    rw [TaskSystem.lookup]
    split
    · exact hb
    · exact hb.note _
  | recordPanic id =>
    refine Balanced.and_quiet ?_ rfl rfl
    exact hb.of_same (hb.wellFormed.perform (.recordPanic id)) rfl
      (.of_eq (Registry.items_update fun _ ↦ rfl)) fun _ hm ↦ hm
  | waitTasksEnd current =>
    exact ((joinThreads hb current s.registry.tasks).note _).and_quiet rfl rfl
  | allocate size tags =>
    rcases allocate hb size tags with ⟨h, hr, hb'⟩ | ⟨err, hr, hfatal, hb'⟩
    · rw [TaskSystem.perform, hr]
      exact ⟨hb', fun _ he ↦ by cases he⟩
    · rw [TaskSystem.perform, hr]
      refine ⟨hb', ?_⟩
      intro err' he _
      rwa [← Option.some.inj he]
  | free h releaseTag =>
    obtain ⟨hr, hb'⟩ := free hb releaseTag
    rw [TaskSystem.perform, hr]
    exact hb'.and_quiet rfl rfl
  | duplicate h =>
    rcases duplicateItem hb h with ⟨g, hr, hb'⟩ | ⟨err, hr, hfatal, hb'⟩
    · rw [TaskSystem.perform, hr]
      exact ⟨hb', fun _ he ↦ by cases he⟩
    · rw [TaskSystem.perform, hr]
      refine ⟨hb', ?_⟩
      intro err' he hl
      rw [← Option.some.inj he]
      exact hfatal (hl h rfl)
  | read h =>
    refine ⟨?_, ?_⟩
    · rw [TaskSystem.perform, readItem]
      cases s.allocator.read h with
      | ok bytes => exact hb.note _
      | error err => exact hb.note _
    · intro err he hl
      obtain ⟨bytes, hread⟩ := (hl h rfl).exists_read
      rw [TaskSystem.perform, readItem, hread] at he
      cases he
  | write h offset bytes =>
    exact hb.and_access h (fun a ↦ Allocator.keeps_of_write hwf)
      fun err hl ↦ hl.isFatal_of_write_error
  | update h change =>
    refine hb.and_access h (fun a ↦ Allocator.keeps_of_update hwf) ?_
    intro err hl he
    obtain ⟨a, ha⟩ := (Allocator.exists_update_iff change).mpr hl
    rw [ha] at he
    cases he
  | setInfo h index value =>
    exact hb.and_access h (fun a ↦ Allocator.keeps_of_setInfo hwf)
      fun err hl ↦ hl.isFatal_of_setInfo_error
  | releasePayload kind p =>
    obtain ⟨hr, hb'⟩ := releasePayload hb kind
    rw [TaskSystem.perform, hr]
    exact hb'.and_quiet rfl rfl
  | releaseEnvelope e =>
    obtain ⟨hr, hb'⟩ := releaseEnvelope hb
    rw [TaskSystem.perform, hr]
    exact hb'.and_quiet rfl rfl
  | send e =>
    rcases send hb with ⟨hr, hb'⟩ | ⟨reason, hr, hb'⟩
    · rw [TaskSystem.perform, hr]
      exact hb'.and_quiet rfl rfl
    · rw [TaskSystem.perform, hr]
      exact ⟨hb', fun _ he ↦ by cases he⟩
  | broadcast e => exact (broadcast hb).1.and_quiet rfl rfl
  | terminateTasks origin => exact (terminateTasks hb origin).and_quiet rfl rfl
  | tryReceive id =>
    rcases tryReceive hb id with ⟨e, hr, hb'⟩ | ⟨hr | hr, hb'⟩
    · rw [TaskSystem.perform, hr]
      exact ⟨hb', fun _ he ↦ by cases he⟩
    · rw [TaskSystem.perform, hr]
      exact hb'.and_quiet rfl rfl
    · rw [TaskSystem.perform, hr]
      exact hb'.and_quiet rfl rfl
  | requestShutdown =>
    refine Balanced.and_quiet ?_ rfl rfl
    change Balanced s.requestShutdown held
    rw [TaskSystem.requestShutdown]
    split
    · exact hb
    · exact ⟨⟨hb.wellFormed.allocator, hb.wellFormed.registry⟩, hb.accounts, hb.sound⟩
  | drainTap =>
    refine Balanced.and_quiet ?_ rfl rfl
    exact ⟨⟨hb.wellFormed.allocator, hb.wellFormed.registry⟩, hb.accounts, hb.sound⟩
  | report entries => exact (hb.note entries).and_quiet rfl rfl

end TaskSystem

/-! ## The dispatcher -/

namespace ControlLoop

open TaskSystem (Balanced)

variable {c : ControlLoop} {held : List ItemHandle}

theorem balanced_releaseExpiry {s : TaskSystem} {e : Envelope}
    (hb : Balanced s (e.handle?.toList ++ held)) : Balanced (releaseExpiry s e) held := by
  obtain ⟨hok, hr⟩ := hb.releaseEnvelope
  rw [releaseExpiry]
  rcases hs : s.releaseEnvelope e with ⟨err | _, s₁⟩
  · rw [hs] at hok
    cases hok
  · rw [hs] at hr
    exact hr

theorem balanced_deliverTimer (hb : Balanced c.system held) (now : Instant) (id : TimerId) :
    Balanced (c.deliverTimer now id).system held := by
  rw [deliverTimer]
  split
  · exact hb.note _
  · next fired timers _ =>
    -- The envelope carries its payload inline, so it owns no item.
    have hnone : (expiryEnvelope fired).handle? = none := rfl
    have hsend := TaskSystem.Balanced.send (e := expiryEnvelope fired) hb
    rcases hs : c.system.send (expiryEnvelope fired) with ⟨err | _, s₁⟩
    · rw [hs] at hsend
      rcases hsend with ⟨hok, -⟩ | ⟨reason, herr, hb'⟩
      · cases hok
      · obtain rfl : err = ⟨reason, expiryEnvelope fired⟩ := Except.error.inj herr
        exact balanced_releaseExpiry (e := expiryEnvelope fired) (hb'.note _)
    · rw [hs] at hsend
      rcases hsend with ⟨-, hb'⟩ | ⟨reason, herr, -⟩
      · exact hb'
      · cases herr

theorem balanced_react (hb : Balanced c.system held) (now : Instant) (event : ControlEvent) :
    Balanced (c.react now event).2.system held := by
  have hstop {s : TaskSystem} (hs : Balanced s held) : Balanced s.requestShutdown held := by
    have hop : Operation.requestShutdown.unregisters = false := rfl
    exact (TaskSystem.Balanced.perform hop hs).1
  cases event with
  | timerFired id => exact balanced_deliverTimer hb now id
  | shutdownRequested => exact hstop hb
  | fault signal =>
    have hf := (TaskSystem.Balanced.broadcast (e := faultEnvelope signal)
      (hb.note [noteFault signal (c.dispatcher.faults + 1)])).1
    rw [react, reportFault]
    dsimp only
    split
    · exact hstop hf
    · exact hf
  | interrupt =>
    exact (hb.terminateTasks .core).note [noteInterrupted (c.system.terminateTasks .core).1]
  | unrecognized signal => exact hb.note [noteUnrecognized signal]

theorem balanced_handle (hb : Balanced c.system held) (now : Instant) (event : ControlEvent) :
    Balanced (c.handle now event).system held := by
  rw [handle]
  split
  · exact hb.note [noteIgnored event]
  · have hr : Balanced ((c.setState .dispatching).react now event).2.system held :=
      balanced_react (c := c.setState .dispatching) hb now event
    exact hr.note _

theorem balanced_start (hb : Balanced c.system held) : Balanced c.start.system held := by
  rw [start]
  split
  · exact hb.note _
  · exact hb

end ControlLoop

/-! ## Worlds and moves -/

/-- The control loop and what the clients hold. -/
structure World where
  loop : ControlLoop
  held : List (Client × Asset)

/-- Something that happens in a world. -/
inductive Move where
  /-- A client calls the system. Waiting for an envelope ends with taking it. -/
  | call (c : Client) (op : Operation)
  /-- A client makes something that owns no item, such as a borrowed envelope. -/
  | make (c : Client) (x : Asset)
  /-- A client forgets something that owns no item. -/
  | drop (c : Client) (x : Asset)
  /-- A bare item becomes a payload, or the other way round. -/
  | wrap (c : Client) (h : ItemHandle)
  | unwrap (c : Client) (h : ItemHandle)
  /-- A payload goes into an envelope that owns it. -/
  | enclose (c : Client) (e : Envelope)
  | takePayload (c : Client) (e : Envelope)
  /-- A client hands an asset to another. -/
  | pass (c d : Client) (x : Asset)
  /-- The dispatcher starts, or handles an event. -/
  | start
  | handle (now : Instant) (event : ControlEvent)
  /-- Somebody arms or disarms timers, or the scheduler takes some off. -/
  | timers (t : TimerService)

namespace World

variable {w w' : World} {c : Client} {x : Asset}

def system (w : World) : TaskSystem := w.loop.system

/-- The items that clients hold by a bare handle. -/
def bare (w : World) : List ItemHandle := (w.held.map (·.2)).filterMap Asset.bare?

/-- The items in payloads and envelopes that clients hold. -/
def carried (w : World) : List ItemHandle := (w.held.map (·.2)).filterMap Asset.carried?

/-- The items in envelopes that wait in mailboxes. -/
def queued (w : World) : List ItemHandle := w.system.registry.items

/-- The world after a client gives up what it holds for something else. -/
def exchange (w : World) (c : Client) (x : Asset) (gets : List (Client × Asset)) : Option World :=
  if (c, x) ∈ w.held then some { w with held := gets ++ w.held.erase (c, x) } else none

/-- The world after a client called the system. -/
def answered (w : World) (c : Client) (op : Operation) : World where
  loop := { w.loop with system := (w.system.perform op).2 }
  held := ((w.system.perform op).1.gives.map fun x ↦ (c, x)).toList ++ w.held

/-- The world behind a move, if the move respects ownership. -/
def step (w : World) : Move → Option World
  | .call c op =>
    if op.unregisters then none
    else match op.takes with
      | none => some (w.answered c op)
      | some x => (w.exchange c x []).map fun w ↦ w.answered c op
  | .make c x => if x.item? = none then some { w with held := (c, x) :: w.held } else none
  | .drop c x => if x.item? = none then w.exchange c x [] else none
  | .wrap c h => w.exchange c (.item h) [(c, .payload (.pooled h))]
  | .unwrap c h => w.exchange c (.payload (.pooled h)) [(c, .item h)]
  | .enclose c e =>
    if e.ownsPayload then w.exchange c (.payload e.payload) [(c, .envelope e)] else none
  | .takePayload c e => match e.takePayload with
    | (some p, e') => w.exchange c (.envelope e) [(c, .payload p), (c, .envelope e')]
    | (none, _) => none
  | .pass c d x => w.exchange c x [(d, x)]
  | .start => some { w with loop := w.loop.start }
  | .handle now event => some { w with loop := w.loop.handle now event }
  | .timers t => some { w with loop := { w.loop with timers := t } }

/-- The worlds that moves lead to from a system just built on pools just declared. -/
inductive Reachable : World → Prop where
  | build {s : TaskSystem} (context : UInt64) (n : Nat) (pools : List (Nat × Nat))
      (settings : TaskSystem.Settings) (d : Dispatcher) (t : TimerService) :
      TaskSystem.build ((Allocator.create context n).declareAll pools) settings = .ok s →
        Reachable ⟨⟨d, s, t⟩, []⟩
  | move {w w' : World} (m : Move) : Reachable w → w.step m = some w' → Reachable w'

/-! ## The invariant -/

theorem itemsHeld_append (xs ys : List (Client × Asset)) :
    Asset.itemsHeld (xs ++ ys) = Asset.itemsHeld xs ++ Asset.itemsHeld ys := by
  rw [Asset.itemsHeld, List.map_append, List.filterMap_append]
  rfl

theorem itemsHeld_singleton (c : Client) (x : Asset) :
    Asset.itemsHeld [(c, x)] = Asset.itemsOf (some x) := by
  rw [Asset.itemsHeld, Asset.itemsOf]
  cases hx : x.item? with
  | none => simp [hx]
  | some h => simp [hx]

theorem itemsHeld_answered (c : Client) (x : Option Asset) :
    Asset.itemsHeld (x.map fun x ↦ (c, x)).toList = Asset.itemsOf x := by
  cases x with
  | none => rfl
  | some x => exact itemsHeld_singleton c x

/-- What clients hold, and what waits in mailboxes, is all that the pools have handed out. -/
def Balanced (w : World) : Prop := w.system.Balanced (Asset.itemsHeld w.held)

/-- What is given up in an exchange can be counted first. -/
theorem Balanced.exchange {gets : List (Client × Asset)} (hb : w.Balanced)
    (h : w.exchange c x gets = some w') :
    ∃ rest, w.system.Balanced (Asset.itemsOf (some x) ++ Asset.itemsHeld rest) ∧
      w' = ⟨w.loop, gets ++ rest⟩ := by
  rw [World.exchange] at h
  split at h
  · next hmem =>
    refine ⟨w.held.erase (c, x), TaskSystem.Balanced.perm hb ?_, (Option.some.inj h).symm⟩
    rw [← itemsHeld_singleton c x, ← itemsHeld_append]
    exact ((List.perm_cons_erase hmem).map _).filterMap _
  · cases h

/-- An exchange for the same items. -/
theorem Balanced.exchange_same {gets : List (Client × Asset)} (hb : w.Balanced)
    (h : w.exchange c x gets = some w')
    (hg : Asset.itemsHeld gets = Asset.itemsOf (some x)) : w'.Balanced := by
  obtain ⟨rest, hrest, rfl⟩ := hb.exchange h
  rw [← hg, ← itemsHeld_append] at hrest
  exact hrest

theorem Balanced.answered {op : Operation} (hop : op.unregisters = false)
    (hb : w.system.Balanced (Asset.itemsOf op.takes ++ Asset.itemsHeld w.held)) :
    (w.answered c op).Balanced := by
  have hp := (TaskSystem.Balanced.perform hop hb).1
  rw [← itemsHeld_answered c, ← itemsHeld_append] at hp
  exact hp

/-- **Every move keeps a world balanced.** -/
theorem Balanced.step (hb : w.Balanced) {m : Move} (h : w.step m = some w') : w'.Balanced := by
  cases m with
  | call c op =>
    rw [World.step] at h
    split at h
    · cases h
    · next hop =>
      rw [Bool.not_eq_true] at hop
      split at h
      · next ht =>
        obtain rfl := Option.some.inj h
        exact Balanced.answered hop (by rw [ht]; exact hb)
      · next x ht =>
        obtain ⟨v, hv, rfl⟩ := Option.map_eq_some_iff.mp h
        obtain ⟨rest, hrest, rfl⟩ := hb.exchange hv
        exact Balanced.answered hop (by rw [ht]; exact hrest)
  | make c x =>
    rw [World.step] at h
    split at h
    · next hx =>
      obtain rfl := Option.some.inj h
      have hnone : Asset.itemsOf (some x) = [] := by
        rw [Asset.itemsOf, Option.bind_some, hx]
        rfl
      have hsame : Asset.itemsHeld ((c, x) :: w.held) = Asset.itemsHeld w.held := by
        rw [← List.singleton_append, itemsHeld_append, itemsHeld_singleton, hnone, List.nil_append]
      rw [World.Balanced, hsame]
      exact hb
    · cases h
  | drop c x =>
    rw [World.step] at h
    split at h
    · next hx =>
      refine hb.exchange_same h ?_
      rw [Asset.itemsOf, Option.bind_some, hx]
      rfl
    · cases h
  | wrap c h' => exact hb.exchange_same h rfl
  | unwrap c h' => exact hb.exchange_same h rfl
  | enclose c e =>
    rw [World.step] at h
    split at h
    · next ho =>
      refine hb.exchange_same h ?_
      rw [itemsHeld_singleton, Asset.itemsOf, Asset.itemsOf]
      exact congrArg Option.toList (Envelope.handle?_of_owning ho)
    · cases h
  | takePayload c e =>
    rw [World.step, Envelope.takePayload] at h
    split at h
    · next p e' ht =>
      split at ht
      · next ho =>
        cases ht
        refine hb.exchange_same h ?_
        rw [← List.singleton_append, itemsHeld_append, itemsHeld_singleton, itemsHeld_singleton,
          Asset.itemsOf, Asset.itemsOf, Asset.itemsOf]
        -- What is left of the envelope owns nothing any more.
        change e.payload.handle?.toList ++ [] = e.handle?.toList
        rw [List.append_nil, Envelope.handle?_of_owning ho]
      · cases ht
    · cases h
  | pass c d x => exact hb.exchange_same h (by rw [itemsHeld_singleton])
  | start =>
    obtain rfl := Option.some.inj h
    exact ControlLoop.balanced_start hb
  | handle now event =>
    obtain rfl := Option.some.inj h
    exact ControlLoop.balanced_handle hb now event
  | timers t =>
    obtain rfl := Option.some.inj h
    exact hb

/-- A system just built on pools just declared owes nothing to anybody. -/
theorem balanced_build {s : TaskSystem} {context : UInt64} {n : Nat} {pools : List (Nat × Nat)}
    {settings : TaskSystem.Settings}
    (h : TaskSystem.build ((Allocator.create context n).declareAll pools) settings = .ok s) :
    s.Balanced [] := by
  obtain ⟨hall, hreg, hesc⟩ := TaskSystem.build_eq_ok h
  have hpools := (Allocator.Reachable.create context n).declareAll pools
  refine ⟨(TaskSystem.Reachable.build hpools h).wellFormed, ?_, ?_⟩
  · rw [hall, hreg]
    exact Allocator.Accounts.declareAll context n pools
  · intro err hmem
    rw [hesc] at hmem
    cases hmem

theorem Reachable.balanced (r : w.Reachable) : w.Balanced := by
  induction r with
  | build context n pools settings d t h => exact balanced_build h
  | move m _ h ih => exact ih.step h

/-- The world behind a sequence of moves. -/
def run (w : World) : List Move → Option World
  | [] => some w
  | m :: ms => (w.step m).bind fun w ↦ w.run ms

theorem Reachable.run (r : w.Reachable) (ms : List Move) (h : w.run ms = some w') :
    w'.Reachable := by
  induction ms generalizing w with
  | nil => exact Option.some.inj h ▸ r
  | cons m ms ih =>
    obtain ⟨v, hv, h⟩ := Option.bind_eq_some_iff.mp h
    exact ih (r.move m hv) h

/-! ## Single ownership -/

/-- Every slot that is handed out has one owner, and nobody is ever told that it has none. -/
structure SingleOwnership (w : World) : Prop where
  /-- No two of the items that are held bare, carried or queued lie in one slot. -/
  disjoint : ((w.bare ++ w.carried ++ w.queued).map (·.place)).Nodup
  /-- Together they lie in exactly the slots that are handed out. -/
  isAllocated_iff : ∀ place, w.system.allocator.isAllocated place = true ↔
    place ∈ (w.bare ++ w.carried ++ w.queued).map (·.place)
  live : ∀ h ∈ w.bare ++ w.carried ++ w.queued, w.system.allocator.Live h
  /-- No error of the pools was escalated. -/
  escalated : ∀ err, TaskError.pool err ∉ w.system.escalated
  /-- No call is refused for a fatal reason, unless it looks at an item that nobody owns. -/
  calls : ∀ c op, (w.step (.call c op)).isSome →
    (∀ h, op.accesses? = some h → h ∈ w.bare ++ w.carried ++ w.queued) →
      ∀ err, (w.system.perform op).1.poolError? = some err → err.isFatal = false
  /-- No broadcast fails to make a copy for a fatal reason, neither of what a client holds nor of
  what the core makes itself, which owns no item. -/
  copies : ∀ e, (∃ c, (c, .envelope e) ∈ w.held) ∨ e.handle? = none →
    ∀ err ∈ w.system.copyErrors e (w.system.recipients e.origin), err.isFatal = false
  /-- Once all is received and released, nothing is outstanding. -/
  drained : w.bare = [] → w.carried = [] → (∀ t ∈ w.system.registry.tasks, t.mailbox.queue = []) →
    w.system.allocator.statistics.outstanding = 0

/-- What a call gives up is counted first. -/
theorem Balanced.call (hb : w.Balanced) {op : Operation} (h : (w.step (.call c op)).isSome) :
    op.unregisters = false ∧
      ∃ rest, w.system.Balanced (Asset.itemsOf op.takes ++ Asset.itemsHeld rest) := by
  obtain ⟨v, hv⟩ := Option.isSome_iff_exists.mp h
  rw [World.step] at hv
  split at hv
  · cases hv
  · next hop =>
    refine ⟨Bool.not_eq_true _ ▸ hop, ?_⟩
    split at hv
    · next ht =>
      rw [ht]
      exact ⟨w.held, hb⟩
    · next x ht =>
      obtain ⟨u, hu, -⟩ := Option.map_eq_some_iff.mp hv
      obtain ⟨rest, hrest, -⟩ := hb.exchange hu
      rw [ht]
      exact ⟨rest, hrest⟩

/-- **Single ownership of pool slots** holds in every world that moves lead to. -/
theorem Reachable.single_ownership (r : w.Reachable) : w.SingleOwnership := by
  have hb := r.balanced
  have hacc : w.system.allocator.Accounts (w.bare ++ w.carried ++ w.queued) :=
    hb.accounts.perm ((Asset.perm_bare_carried _).append_right _)
  refine ⟨hacc.nodup_places, hacc.isAllocated_iff hb.wellFormed.allocator, fun h hh ↦ hacc.live hh,
    hb.sound, ?_, ?_, ?_⟩
  · intro c op hstep hown err herr
    obtain ⟨hop, rest, hrest⟩ := hb.call hstep
    exact (hrest.perform hop).2 err herr fun h hh ↦ hacc.live (hown h hh)
  · rintro e (⟨c, hheld⟩ | hnone)
    · obtain ⟨rest, hrest, -⟩ := hb.exchange (if_pos hheld : w.exchange c (.envelope e) [] = _)
      exact hrest.broadcast.2
    · have hnothing : w.system.Balanced (e.handle?.toList ++ Asset.itemsHeld w.held) := by
        rw [hnone]
        exact hb
      exact hnothing.broadcast.2
  · intro hbare hcarried hempty
    have hqueued : w.queued = [] := by
      rw [queued, Registry.items, List.flatMap_eq_nil_iff]
      intro t ht
      rw [Mailbox.items, hempty t ht]
      rfl
    rw [hbare, hcarried, hqueued] at hacc
    exact hacc.outstanding_eq_zero hb.wellFormed.allocator

/-- An item is sent to two tasks, one of which has taken its copy out of the envelope when the
process is interrupted. -/
def interruptedRun : List Move :=
  let e : Envelope := .owning ⟨9⟩ ⟨4⟩ .broadcast (.pooled ⟨7, 0, 0, 1⟩)
  [.start, .call 0 (.register ⟨1⟩ "first"), .call 0 (.register ⟨2⟩ "second"),
    .call 0 (.allocate 8 ⟨0, 0⟩), .wrap 0 ⟨7, 0, 0, 1⟩, .enclose 0 e, .call 0 (.broadcast e),
    .call 1 (.tryReceive ⟨1⟩),
    .takePayload 1 (.owning ⟨9⟩ ⟨4⟩ (.task ⟨1⟩) (.pooled ⟨7, 0, 1, 1⟩)), .handle ⟨0⟩ .interrupt]

theorem single_ownership_interruptedRun :
    ∃ s w, TaskSystem.build ((Allocator.create 7 1).declareAll [(2, 8)])
        ⟨2, .report, .builtin, false, false⟩ = .ok s ∧
      World.run ⟨⟨.create false, s, .initial⟩, []⟩ interruptedRun = some w ∧ w.SingleOwnership ∧
        w.bare = [] ∧ w.carried = [⟨7, 0, 1, 1⟩] ∧ w.queued = [⟨7, 0, 0, 1⟩] := by
  refine ⟨_, _, rfl, rfl, Reachable.single_ownership (.run (.build 7 1 [(2, 8)]
    ⟨2, .report, .builtin, false, false⟩ (.create false) .initial rfl) interruptedRun rfl),
    ?_, ?_, ?_⟩
  · decide
  · decide
  · decide

end World

end TaskMessaging
