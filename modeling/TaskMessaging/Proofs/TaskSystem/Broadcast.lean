import TaskMessaging.Proofs.TaskSystem.Operation

/-!
# Who a broadcast reaches

A broadcast walks through its recipients in ascending order. All but the last are sent a fork, and a
fork of an envelope that owns an item needs a free slot in the pool of that item. A fork that is
delivered keeps its slot, one that meets a full mailbox gives it back, and once no slot is left the
remaining forks fail before any mailbox is looked at. The last recipient gets the envelope itself
and needs no slot.

## The invariant

`copies` counts the forks that can still be made. One step of the walk reaches `forkReaches`, a list
of one recipient or none, and `copies` falls by its length: this is all that the recipients behind
it get to see of the step. So those that are reached are the first `copies` recipients with room in
their mailbox, which is `reached`, and the induction over the recipients carries `Forks`.
-/

namespace TaskMessaging

/-- An envelope as one recipient of a broadcast gets it. -/
structure Envelope.CopyFor (copy e : Envelope) (target : TaskId) : Prop where
  kind : copy.kind = e.kind
  origin : copy.origin = e.origin
  ownsPayload : copy.ownsPayload = e.ownsPayload
  destination : copy.destination = .task target

namespace TaskSystem

variable {s s' s'' : TaskSystem} {e : Envelope} {target id : TaskId} {h : ItemHandle}
  {ids others targets : List TaskId} {i : Nat}

/-! ## Supply -/

/-- The pool that forks of an envelope are made from, if it owns an item that is live. -/
def source? (s : TaskSystem) (e : Envelope) : Option Nat :=
  e.handle?.bind fun h ↦ if s.allocator.Live h then some h.pool.toNat else none

/-- How many forks of an envelope can be made, unless there is no end to them: as many as there are
free slots beside the item that it owns, and none of an item that is not live. -/
def copies (s : TaskSystem) (e : Envelope) : Option Nat :=
  e.handle?.map fun h ↦ if s.allocator.Live h then s.allocator.room h.pool.toNat else 0

/-- As many elements of a list as there are copies. -/
def firsts {α : Type} (supply : Option Nat) (l : List α) : List α :=
  match supply with
  | none => l
  | some k => l.take k

/-- Who is reached when an envelope goes to some targets, the last of which gets the envelope
itself. -/
def reached (s : TaskSystem) (e : Envelope) (targets : List TaskId) : List TaskId :=
  match targets.getLast? with
  | none => []
  | some last =>
    firsts (s.copies e) (targets.dropLast.filter s.accepts) ++ [last].filter s.accepts

/-- Who is reached by a fork for one target. -/
def forkReaches (s : TaskSystem) (e : Envelope) (target : TaskId) : List TaskId :=
  if s.copies e ≠ some 0 ∧ s.accepts target = true then [target] else []

theorem source?_of_live (hs : e.handle? = some h) (hl : s.allocator.Live h) :
    s.source? e = some h.pool.toNat := by
  rw [source?, hs, Option.bind_some, if_pos hl]

theorem source?_of_not_live (hdead : ∀ h, e.handle? = some h → ¬ s.allocator.Live h) :
    s.source? e = none := by
  rw [source?]
  cases hs : e.handle? with
  | none => rfl
  | some h => rw [Option.bind_some, if_neg (hdead h hs)]

theorem copies_of_live (hs : e.handle? = some h) (hl : s.allocator.Live h) :
    s.copies e = some (s.allocator.room h.pool.toNat) := by
  rw [copies, hs, Option.map_some, if_pos hl]

theorem copies_of_not_live (hs : e.handle? = some h) (hdead : ¬ s.allocator.Live h) :
    s.copies e = some 0 := by
  rw [copies, hs, Option.map_some, if_neg hdead]

theorem copies_of_none (hn : e.handle? = none) : s.copies e = none := by
  rw [copies, hn, Option.map_none]

theorem forkReaches_of_accepts (hc : s.copies e ≠ some 0) (ha : s.accepts target = true) :
    s.forkReaches e target = [target] :=
  if_pos ⟨hc, ha⟩

theorem forkReaches_of_not_accepts (ha : s.accepts target = false) :
    s.forkReaches e target = [] :=
  if_neg fun hf ↦ by rw [ha] at hf; exact absurd hf.2 Bool.false_ne_true

theorem forkReaches_of_no_copies (hc : s.copies e = some 0) : s.forkReaches e target = [] :=
  if_neg fun hf ↦ hf.1 hc

theorem firsts_sublist {α : Type} (supply : Option Nat) (l : List α) :
    (firsts supply l).Sublist l := by
  cases supply with
  | none => exact List.Sublist.refl l
  | some k => exact List.take_sublist k l

theorem reached_sublist (s : TaskSystem) (e : Envelope) (targets : List TaskId) :
    (s.reached e targets).Sublist targets := by
  rw [reached]
  split
  · exact List.nil_sublist targets
  · next last hlast =>
    have hsplit : targets.dropLast ++ [last] = targets :=
      List.dropLast_append_getLast? last hlast
    conv_rhs => rw [← hsplit]
    exact ((firsts_sublist _ _).trans List.filter_sublist).append List.filter_sublist

/-! ## Deliveries -/

/-- Some tasks each got one envelope at the end of their mailbox, and no other task changed. -/
structure Appends (s s' : TaskSystem) (e : Envelope) (ids : List TaskId) : Prop where
  sameIds : s'.registry.ids = s.registry.ids
  gets : ∀ id ∈ ids, ∃ t m copy, s.registry.find? id = some t ∧
    s'.registry.find? id = some { t with mailbox := m } ∧
    m.capacity = t.mailbox.capacity ∧ m.queue = t.mailbox.queue ++ [copy] ∧ copy.CopyFor e id
  others : ∀ id, id ∉ ids → s'.registry.find? id = s.registry.find? id

theorem Appends.of_registry (hr : s'.registry = s.registry) : Appends s s' e [] :=
  ⟨by rw [hr], fun _ hid ↦ absurd hid List.not_mem_nil, fun _ _ ↦ by rw [hr]⟩

theorem Appends.trans (hp : Appends s s' e ids) (hq : Appends s' s'' e others)
    (hdisj : ∀ id ∈ ids, id ∉ others) : Appends s s'' e (ids ++ others) := by
  refine ⟨hq.sameIds.trans hp.sameIds, ?_, ?_⟩
  · intro id hid
    rcases List.mem_append.mp hid with hids | hothers
    · rw [hq.others id (hdisj id hids)]
      exact hp.gets id hids
    · have hids : id ∉ ids := fun hmem ↦ hdisj id hmem hothers
      rw [← hp.others id hids]
      exact hq.gets id hothers
  · intro id hid
    rw [List.mem_append, not_or] at hid
    rw [hq.others id hid.2, hp.others id hid.1]

theorem Appends.accepts (hp : Appends s s' e ids) (hid : id ∉ ids) :
    s'.accepts id = s.accepts id :=
  accepts_congr (hp.others id hid)

/-- One delivery that succeeds. -/
theorem appends_setMailbox {t : Task} {m : Mailbox} {copy : Envelope}
    (hf : s.registry.find? target = some t) (hm : t.mailbox.enqueue? copy = some m)
    (hr : s'.registry = s.registry.setMailbox target m) (hc : copy.CopyFor e target) :
    Appends s s' e [target] := by
  obtain ⟨-, hcap, hqueue⟩ := Mailbox.enqueue?_eq_some.mp hm
  refine ⟨by rw [hr, Registry.ids_setMailbox], ?_, ?_⟩
  · intro id hid
    obtain rfl := List.mem_singleton.mp hid
    exact ⟨t, m, copy, hf, by rw [hr, Registry.find?_setMailbox_self hf], hcap, hqueue, hc⟩
  · intro id hid
    rw [hr, Registry.find?_setMailbox_of_ne fun he ↦ hid (List.mem_singleton.mpr he)]

/-! ## One step of the walk -/

/-- What forks for some targets leave to the recipients behind them. -/
structure Forks (s s' : TaskSystem) (e : Envelope) (ids : List TaskId) : Prop where
  appends : Appends s s' e ids
  source : s'.source? e = s.source? e
  copies : s'.copies e = (s.copies e).map (· - ids.length)
  inUse : ∀ i, s'.allocator.inUse i =
    s.allocator.inUse i + if s.source? e = some i then ids.length else 0

/-- A fork goes out, or comes back and is released. -/
theorem deliverOrDiscard_of_accepts (ha : s.accepts target = true) {copy : Envelope}
    (hc : copy.CopyFor e target) :
    (s.deliverOrDiscard target copy).1 = ⟨1, 0⟩ ∧
      Appends s (s.deliverOrDiscard target copy).2 e [target] ∧
      (s.deliverOrDiscard target copy).2.allocator = s.allocator := by
  obtain ⟨t, m, hf, hm, hok, hr⟩ := deliver_of_accepts ha copy
  have halloc := allocator_deliver s target copy
  rw [deliverOrDiscard]
  rcases hd : s.deliver target copy with ⟨err | _, s₁⟩
  · rw [hd] at hok
    cases hok
  · rw [hd] at hr halloc
    exact ⟨rfl, appends_setMailbox hf hm hr hc, halloc⟩

theorem deliverOrDiscard_of_not_accepts (ha : s.accepts target = false) (copy : Envelope) :
    (s.deliverOrDiscard target copy).1 = ⟨0, 1⟩ ∧
      (s.deliverOrDiscard target copy).2.registry = s.registry ∧
      ∃ s₁ : TaskSystem, s₁.allocator = s.allocator ∧
        (s.deliverOrDiscard target copy).2 = s₁.discard copy := by
  obtain ⟨reason, herr, hr⟩ := deliver_of_not_accepts ha copy
  have halloc := allocator_deliver s target copy
  rw [deliverOrDiscard]
  rcases hd : s.deliver target copy with ⟨err | _, s₁⟩
  · rw [hd] at herr hr halloc
    obtain rfl : err = ⟨reason, copy⟩ := Except.error.inj herr
    exact ⟨rfl, (registry_discard s₁ copy).trans hr, s₁, halloc, rfl⟩
  · rw [hd] at herr
    cases herr

theorem allocator_deliverOrDiscard_of_accepts (ha : s.accepts target = true) (e : Envelope) :
    (s.deliverOrDiscard target e).2.allocator = s.allocator := by
  obtain ⟨t, m, -, -, hok, -⟩ := deliver_of_accepts ha e
  have halloc := allocator_deliver s target e
  rw [deliverOrDiscard]
  rcases hd : s.deliver target e with ⟨err | _, s₁⟩
  · rw [hd] at hok
    cases hok
  · rw [hd] at halloc
    exact halloc

/-- An envelope without a live item is of no concern to the pools, delivered or not. -/
theorem allocator_deliverOrDiscard_of_not_live
    (hdead : ∀ h, e.handle? = some h → ¬ s.allocator.Live h) (target : TaskId) :
    (s.deliverOrDiscard target e).2.allocator = s.allocator := by
  cases ha : s.accepts target with
  | true => exact allocator_deliverOrDiscard_of_accepts ha e
  | false =>
    obtain ⟨-, -, s₁, hs₁, hd⟩ := deliverOrDiscard_of_not_accepts ha e
    rw [hd, allocator_discard_of_not_live (by rwa [hs₁]), hs₁]

theorem allocator_deliverFork_of_not_live
    (hdead : ∀ h, e.handle? = some h → ¬ s.allocator.Live h) (target : TaskId) :
    (s.deliverFork e target).2.allocator = s.allocator := by
  rw [deliverFork]
  cases hs : e.handle? with
  | none =>
    rw [Envelope.fork_of_none hs]
    refine allocator_deliverOrDiscard_of_not_live (e := e.readdress target) ?_ target
    intro h hh
    rw [Envelope.handle?_readdress, hs] at hh
    cases hh
  | some h =>
    -- No copy is made of a dead item.
    rw [Envelope.fork_of_some hs, Allocator.duplicate]
    rcases hv : s.allocator.validate h with err | ⟨p, u⟩
    · rfl
    · exact absurd ⟨p, u, hv⟩ (hdead h hs)

theorem allocator_deliverAll_of_not_live
    (hdead : ∀ h, e.handle? = some h → ¬ s.allocator.Live h) (targets : List TaskId) :
    (s.deliverAll e targets).2.allocator = s.allocator := by
  induction targets generalizing s with
  | nil => rfl
  | cons target rest ih =>
    cases rest with
    | nil =>
      exact allocator_deliverOrDiscard_of_not_live (e := e.readdress target) hdead target
    | cons next rest =>
      have hfork := allocator_deliverFork_of_not_live hdead target
      exact (ih (s := (s.deliverFork e target).2) (by rwa [hfork])).trans hfork

/-- A walk that leaves the pools as they were. -/
theorem forks_of_keeps (hp : Appends s s' e ids) (k : s.allocator.Keeps s'.allocator)
    (hn : e.handle? = none ∨ ids = []) : Forks s s' e ids := by
  have hsource : s'.source? e = s.source? e := by
    rw [source?, source?]
    simp only [k.live_iff]
  refine ⟨hp, hsource, ?_, ?_⟩
  · rcases hn with hnone | rfl
    · rw [copies_of_none hnone, copies_of_none hnone]
      rfl
    · rw [copies, copies]
      simp only [k.live_iff, k.room, List.length_nil, Nat.sub_zero, Option.map_id']
  · intro i
    rw [k.inUse]
    rcases hn with hnone | rfl
    · rw [source?, hnone]
      simp
    · simp

/-- A walk that takes one slot beside the item of the envelope for each recipient it reaches. -/
theorem forks_of_live (hp : Appends s s' e ids) (hs : e.handle? = some h)
    (hl : s.allocator.Live h) (hl' : s'.allocator.Live h)
    (hroom : s'.allocator.room h.pool.toNat + ids.length = s.allocator.room h.pool.toNat)
    (huse : ∀ i, s'.allocator.inUse i =
      s.allocator.inUse i + if i = h.pool.toNat then ids.length else 0) :
    Forks s s' e ids := by
  refine ⟨hp, ?_, ?_, ?_⟩
  · rw [source?_of_live hs hl, source?_of_live hs hl']
  · rw [copies_of_live hs hl, copies_of_live hs hl', Option.map_some, ← hroom, Nat.add_sub_cancel]
  · intro i
    rw [huse, source?_of_live hs hl]
    by_cases hi : i = h.pool.toNat
    · rw [if_pos hi, if_pos (congrArg some hi.symm)]
    · rw [if_neg hi, if_neg fun he ↦ hi (Option.some.inj he).symm]

/-- The fork of an envelope without an item of its own is the envelope, readdressed. -/
theorem deliverFork_of_none (wf : s.WellFormed) (hn : e.handle? = none) (target : TaskId) :
    (s.deliverFork e target).1.delivered = (s.forkReaches e target).length ∧
      Forks s (s.deliverFork e target).2 e (s.forkReaches e target) := by
  have hc : s.copies e ≠ some 0 := by
    rw [copies_of_none hn]
    exact nofun
  have hcopy : (e.readdress target).CopyFor e target := ⟨rfl, rfl, rfl, rfl⟩
  have hkeep := Allocator.Keeps.refl wf.allocator
  rw [deliverFork, Envelope.fork_of_none hn]
  set s₀ : TaskSystem := { s with allocator := s.allocator }.note (e.forkNotes s.allocator)
  have hacc : s₀.accepts target = s.accepts target := rfl
  cases ha : s.accepts target with
  | true =>
    obtain ⟨hr, hp, halloc⟩ := deliverOrDiscard_of_accepts (hacc.trans ha) hcopy
    rw [forkReaches_of_accepts hc ha]
    dsimp only
    refine ⟨by rw [hr]; rfl, forks_of_keeps ⟨hp.sameIds, hp.gets, hp.others⟩ ?_ (Or.inl hn)⟩
    rw [halloc]
    exact hkeep
  | false =>
    obtain ⟨hr, hreg, s₁, hs₁, hd⟩ :=
      deliverOrDiscard_of_not_accepts (hacc.trans ha) (e.readdress target)
    rw [forkReaches_of_not_accepts ha]
    dsimp only
    refine ⟨by rw [hr]; rfl, forks_of_keeps (Appends.of_registry hreg) ?_ (Or.inl hn)⟩
    have hdead (g : ItemHandle) (hg : (e.readdress target).handle? = some g) :
        ¬ s₁.allocator.Live g := by
      rw [Envelope.handle?_readdress, hn] at hg
      cases hg
    rw [hd, allocator_discard_of_not_live hdead, hs₁]
    exact hkeep

/-- The fork of an envelope that owns an item takes a free slot beside it. -/
theorem deliverFork_of_some (wf : s.WellFormed) (hs : e.handle? = some h) (target : TaskId) :
    (s.deliverFork e target).1.delivered = (s.forkReaches e target).length ∧
      Forks s (s.deliverFork e target).2 e (s.forkReaches e target) := by
  rw [deliverFork, Envelope.fork_of_some hs]
  rcases hdup : s.allocator.duplicate h with ⟨err | copy, b⟩
  · obtain ⟨hkeep, hroom⟩ := Allocator.keeps_of_duplicate_error wf.allocator hdup
    -- The copy fails because the item is not live, or because no slot is left beside it.
    have hc : s.copies e = some 0 := by
      by_cases hl : s.allocator.Live h
      · rw [copies_of_live hs hl, (hroom hl).2]
      · exact copies_of_not_live hs hl
    rw [forkReaches_of_no_copies hc]
    exact ⟨rfl, forks_of_keeps (Appends.of_registry rfl) hkeep (Or.inr rfl)⟩
  · obtain ⟨hl, hgain, hpool⟩ := Allocator.gains_of_duplicate wf.allocator hdup
    have hroom := hgain.room h.pool.toNat
    rw [hpool, if_pos rfl] at hroom
    have hc : s.copies e ≠ some 0 := by
      rw [copies_of_live hs hl]
      intro h0
      have := Option.some.inj h0
      omega
    have hlb : b.Live h := (hgain.live_iff h).mpr (Or.inr hl)
    have hcopy : Envelope.CopyFor
        { e with destination := .task target, payload := .pooled copy } e target :=
      ⟨rfl, rfl, rfl, rfl⟩
    dsimp only
    set s₀ : TaskSystem := { s with allocator := b }.note (e.forkNotes s.allocator)
    have hacc : s₀.accepts target = s.accepts target := rfl
    cases ha : s.accepts target with
    | true =>
      obtain ⟨hr, hp, halloc⟩ := deliverOrDiscard_of_accepts (hacc.trans ha) hcopy
      rw [forkReaches_of_accepts hc ha]
      refine ⟨by rw [hr]; rfl,
        forks_of_live ⟨hp.sameIds, hp.gets, hp.others⟩ hs hl ?_ ?_ ?_⟩
      · rw [halloc]
        exact hlb
      · rw [halloc]
        exact hroom
      · intro i
        rw [halloc]
        change b.inUse i = _
        rw [hgain.inUse, hpool]
        rfl
    | false =>
      -- The copy goes back to its pool, so the step takes nothing after all.
      obtain ⟨hr, hreg, s₁, hs₁, hd⟩ := deliverOrDiscard_of_not_accepts (hacc.trans ha)
        { e with destination := .task target, payload := .pooled copy }
      have hback : b.Loses (s₁.discard { e with
          destination := .task target, payload := .pooled copy }).allocator copy := by
        have hb : s₁.allocator = b := hs₁
        rw [← hb]
        refine loses_of_discard (by rw [hb]; exact hgain.wellFormed)
          (Envelope.handle?_copy hs (.task target) copy) ?_
        rw [hb]
        exact (hgain.live_iff copy).mpr (Or.inl rfl)
      rw [forkReaches_of_not_accepts ha]
      refine ⟨by rw [hr]; rfl, forks_of_live (Appends.of_registry hreg) hs hl ?_ ?_ ?_⟩
      · rw [hd, hback.live_iff]
        exact ⟨hgain.ne_of_live hl, hlb⟩
      · rw [hd, hback.room, hpool, if_pos rfl]
        exact hroom
      · intro i
        have huse := hback.inUse i
        rw [hgain.inUse] at huse
        rw [hd, List.length_nil, ite_self]
        omega

theorem deliverFork_spec (wf : s.WellFormed) (e : Envelope) (target : TaskId) :
    (s.deliverFork e target).1.delivered = (s.forkReaches e target).length ∧
      Forks s (s.deliverFork e target).2 e (s.forkReaches e target) := by
  cases hs : e.handle? with
  | none => exact deliverFork_of_none wf hs target
  | some h => exact deliverFork_of_some wf hs target

/-! ## The walk -/

theorem firsts_filter_cons
    (hc : s'.copies e = (s.copies e).map (· - (s.forkReaches e target).length))
    (l : List TaskId) :
    firsts (s.copies e) ((target :: l).filter s.accepts) =
      s.forkReaches e target ++ firsts (s'.copies e) (l.filter s.accepts) := by
  rw [hc]
  cases ha : s.accepts target with
  | false =>
    rw [forkReaches_of_not_accepts ha, List.filter_cons_of_neg (by rw [ha]; exact nofun)]
    simp
  | true =>
    rw [List.filter_cons_of_pos ha]
    -- Forks without end, none left, or one to use up for this recipient.
    rcases hcop : s.copies e with _ | _ | k
    · rw [forkReaches_of_accepts (by rw [hcop]; exact nofun) ha]
      rfl
    · rw [forkReaches_of_no_copies hcop]
      rfl
    · rw [forkReaches_of_accepts (by rw [hcop]; exact nofun) ha]
      rfl

/-- The first recipient is reached by its fork, and those behind it as the fork leaves them. -/
theorem reached_cons {next : TaskId} {rest : List TaskId}
    (hf : Forks s s' e (s.forkReaches e target)) (hnot : target ∉ next :: rest) :
    s.reached e (target :: next :: rest) =
      s.forkReaches e target ++ s'.reached e (next :: rest) := by
  have hacc (id : TaskId) (hid : id ∈ next :: rest) : s'.accepts id = s.accepts id := by
    apply hf.appends.accepts
    intro hmem
    rw [forkReaches] at hmem
    split at hmem
    · exact hnot (List.mem_singleton.mp hmem ▸ hid)
    · exact absurd hmem List.not_mem_nil
  have hne : next :: rest ≠ [] := List.cons_ne_nil next rest
  have hlast := List.getLast?_eq_some_getLast hne
  rw [reached, reached, List.getLast?_cons_cons, hlast]
  dsimp only
  rw [List.dropLast_cons_of_ne_nil hne, firsts_filter_cons hf.copies,
    List.filter_congr fun id hid ↦ hacc id ((List.dropLast_sublist _).mem hid),
    List.append_assoc]
  congr 2
  refine List.filter_congr fun id hid ↦ (hacc id ?_).symm
  rw [List.mem_singleton.mp hid]
  exact List.getLast_mem hne

/-- Releasing an envelope takes the item that it owns out of use, if that is live. -/
theorem inUse_discard {s₁ : TaskSystem} {e' : Envelope} (wf : s₁.allocator.WellFormed)
    (ha : s₁.allocator = s.allocator) (he : e'.handle? = e.handle?) (i : Nat) :
    (s₁.discard e').allocator.inUse i + (if s.source? e = some i then 1 else 0) =
      s₁.allocator.inUse i := by
  by_cases hlive : ∃ h, e.handle? = some h ∧ s.allocator.Live h
  · obtain ⟨h, hs, hl⟩ := hlive
    have hlose := loses_of_discard wf (he.trans hs) (ha ▸ hl)
    rw [source?_of_live hs hl, ← hlose.inUse i]
    congr 1
    by_cases hi : i = h.pool.toNat
    · rw [if_pos hi, if_pos (congrArg some hi.symm)]
    · rw [if_neg hi, if_neg fun heq ↦ hi (Option.some.inj heq).symm]
  · have hdead : ∀ h, e.handle? = some h → ¬ s.allocator.Live h := by
      intro h hs hl
      exact hlive ⟨h, hs, hl⟩
    have hdead' : ∀ h, e'.handle? = some h → ¬ s₁.allocator.Live h := by
      intro h hs
      rw [ha]
      exact hdead h (he.symm.trans hs)
    rw [source?_of_not_live hdead, if_neg nofun, allocator_discard_of_not_live hdead']
    rfl

/-- What becomes of an envelope that goes to some tasks and is used up: each of them has an item in
use for what the envelope had. -/
structure Spreads (s s' : TaskSystem) (e : Envelope) (r : BroadcastReport) (ids : List TaskId) :
    Prop where
  delivered : r.delivered = ids.length
  appends : Appends s s' e ids
  inUse : ∀ i, s'.allocator.inUse i + (if s.source? e = some i then 1 else 0) =
    s.allocator.inUse i + if s.source? e = some i then ids.length else 0

/-- Some recipients are reached by forks, and others by what follows. -/
theorem Forks.trans_spreads {r q : BroadcastReport} (hf : Forks s s' e ids)
    (hs : Spreads s' s'' e q others) (hr : r.delivered = ids.length)
    (hdisj : ∀ id ∈ ids, id ∉ others) : Spreads s s'' e (r.add q) (ids ++ others) := by
  refine ⟨?_, hf.appends.trans hs.appends hdisj, ?_⟩
  · rw [BroadcastReport.add, hr, hs.delivered, List.length_append]
  · intro i
    have huse := hs.inUse i
    rw [hf.source, hf.inUse] at huse
    rw [huse, List.length_append]
    split
    · omega
    · omega

/-- The last recipient gets the envelope itself, or nobody does and it is released. -/
theorem spreads_last (wf : s.WellFormed) (e : Envelope) (last : TaskId) :
    Spreads s (s.deliverOrDiscard last (e.readdress last)).2 e
      (s.deliverOrDiscard last (e.readdress last)).1 (s.reached e [last]) := by
  have hreached : s.reached e [last] = [last].filter s.accepts := by
    rw [reached]
    cases s.copies e with
    | none => rfl
    | some k => simp [firsts]
  rw [hreached]
  cases ha : s.accepts last with
  | true =>
    have hcopy : (e.readdress last).CopyFor e last := ⟨rfl, rfl, rfl, rfl⟩
    obtain ⟨hr, hp, halloc⟩ := deliverOrDiscard_of_accepts ha hcopy
    rw [List.filter_cons_of_pos ha, hr]
    refine ⟨rfl, hp, ?_⟩
    intro i
    rw [halloc]
    rfl
  | false =>
    obtain ⟨hr, hreg, s₁, hs₁, hd⟩ := deliverOrDiscard_of_not_accepts ha (e.readdress last)
    rw [List.filter_cons_of_neg (by rw [ha]; exact nofun), hr]
    refine ⟨rfl, Appends.of_registry hreg, ?_⟩
    intro i
    rw [hd, List.filter_nil, List.length_nil, ite_self, Nat.add_zero, ← hs₁]
    exact inUse_discard (by rw [hs₁]; exact wf.allocator) hs₁ (Envelope.handle?_readdress e last) i

/-- The whole walk, by induction on the recipients. -/
theorem spreads_deliverAll (wf : s.WellFormed) (e : Envelope) (hne : targets ≠ [])
    (hnodup : targets.Nodup) :
    Spreads s (s.deliverAll e targets).2 e (s.deliverAll e targets).1 (s.reached e targets) := by
  induction targets generalizing s with
  | nil => exact absurd rfl hne
  | cons target rest ih =>
    cases rest with
    | nil => exact spreads_last wf e target
    | cons next rest =>
      obtain ⟨hnot, hrest⟩ := List.nodup_cons.mp hnodup
      obtain ⟨hr, hf⟩ := deliverFork_spec wf e target
      have hs := ih (wf.deliverFork e target) (List.cons_ne_nil next rest) hrest
      rw [reached_cons hf hnot]
      refine hf.trans_spreads hs hr ?_
      intro id hid hmem
      -- The fork reaches its target, if anybody, and the target is not among those behind it.
      apply hnot
      rw [forkReaches] at hid
      split at hid
      · rw [← List.mem_singleton.mp hid]
        exact (reached_sublist _ e (next :: rest)).mem hmem
      · exact absurd hid List.not_mem_nil

/-! ## The law -/

/-- The delivery law of a broadcast. -/
structure Broadcasts (s : TaskSystem) (e : Envelope) (r : BroadcastReport) (s' : TaskSystem) :
    Prop where
  /-- The recipients are the registered tasks but the origin, in ascending order. -/
  ascending : (s.recipients e.origin).Pairwise fun i j ↦ i.number < j.number
  mem_recipients : ∀ id, id ∈ s.recipients e.origin ↔ id ∈ s.registry.ids ∧ id ≠ e.origin
  /-- One envelope goes to each task that is reached, and no other mailbox changes. -/
  sublist : (s.reached e (s.recipients e.origin)).Sublist (s.recipients e.origin)
  appends : Appends s s' e (s.reached e (s.recipients e.origin))
  delivered : r.delivered = (s.reached e (s.recipients e.origin)).length
  delivered_add_failed : r.delivered + r.failed = (s.recipients e.origin).length
  /-- Each task that is reached has an item in use for the one that the envelope gave up. -/
  inUse_of_live : ∀ h, e.handle? = some h → s.allocator.Live h → ∀ i,
    s'.allocator.inUse i + (if i = h.pool.toNat then 1 else 0) =
      s.allocator.inUse i + if i = h.pool.toNat then r.delivered else 0
  inUse_of_not_live : (∀ h, e.handle? = some h → ¬ s.allocator.Live h) → ∀ i,
    s'.allocator.inUse i = s.allocator.inUse i
  of_no_recipients : s.recipients e.origin = [] → r = .none ∧ s'.registry = s.registry

/-- A broadcast without recipients releases the envelope. -/
theorem broadcast_of_no_recipients (hn : s.recipients e.origin = []) :
    (s.broadcast e).1 = .none ∧
      (s.broadcast e).2.registry = s.registry ∧
      (s.broadcast e).2.allocator = ((s.note [noteNoRecipients e]).discard e).allocator := by
  rw [broadcast, hn]
  exact ⟨rfl, registry_discard _ e, rfl⟩

theorem broadcast_of_recipients (hn : s.recipients e.origin ≠ []) :
    (s.broadcast e).1 = (s.deliverAll e (s.recipients e.origin)).1 ∧
      (s.broadcast e).2.registry = (s.deliverAll e (s.recipients e.origin)).2.registry ∧
      (s.broadcast e).2.allocator = (s.deliverAll e (s.recipients e.origin)).2.allocator := by
  rw [broadcast]
  split
  · next hnil => exact absurd hnil hn
  · exact ⟨rfl, rfl, rfl⟩

theorem allocator_broadcast_of_not_live
    (hdead : ∀ h, e.handle? = some h → ¬ s.allocator.Live h) :
    (s.broadcast e).2.allocator = s.allocator := by
  by_cases hn : s.recipients e.origin = []
  · rw [(broadcast_of_no_recipients hn).2.2]
    exact allocator_discard_of_not_live hdead
  · rw [(broadcast_of_recipients hn).2.2]
    exact allocator_deliverAll_of_not_live hdead _

/-- A broadcast spreads its envelope over its recipients, if there are any or not. -/
theorem spreads_broadcast (wf : s.WellFormed) (e : Envelope) :
    Spreads s (s.broadcast e).2 e (s.broadcast e).1
      (s.reached e (s.recipients e.origin)) := by
  by_cases hn : s.recipients e.origin = []
  · obtain ⟨hr, hreg, halloc⟩ := broadcast_of_no_recipients hn
    have hreached : s.reached e (s.recipients e.origin) = [] := by
      rw [hn]
      rfl
    rw [hreached]
    refine ⟨by rw [hr]; rfl, Appends.of_registry hreg, ?_⟩
    intro i
    rw [halloc, List.length_nil, ite_self, Nat.add_zero]
    have hnote : (s.note [noteNoRecipients e]).allocator = s.allocator := allocator_note s _
    exact inUse_discard (hnote ▸ wf.allocator) hnote (Eq.refl e.handle?) i
  · obtain ⟨hr, hreg, halloc⟩ := broadcast_of_recipients hn
    have hnodup : (s.recipients e.origin).Nodup := wf.registry.nodup_ids.filter _
    have hs := spreads_deliverAll wf e hn hnodup
    refine ⟨by rw [hr]; exact hs.delivered, ⟨?_, ?_, ?_⟩, ?_⟩
    · rw [hreg]
      exact hs.appends.sameIds
    · rw [hreg]
      exact hs.appends.gets
    · rw [hreg]
      exact hs.appends.others
    · intro i
      rw [halloc]
      exact hs.inUse i

/-- **The delivery law of a broadcast**, in every reachable state and for every envelope. -/
theorem Reachable.broadcast_law (r : s.Reachable) (e : Envelope) :
    Broadcasts s e (s.broadcast e).1 (s.broadcast e).2 := by
  have wf := r.wellFormed
  have hs := spreads_broadcast wf e
  refine ⟨wf.registry.ordered.filter _, fun id ↦ by simp [recipients], reached_sublist _ _ _,
    hs.appends, hs.delivered, ?_, ?_, ?_, ?_⟩
  · by_cases hn : s.recipients e.origin = []
    · rw [(broadcast_of_no_recipients hn).1, hn]
      rfl
    · rw [(broadcast_of_recipients hn).1]
      exact delivered_add_failed_deliverAll s e _
  · intro h hh hl i
    have huse := hs.inUse i
    rw [source?_of_live hh hl, ← hs.delivered] at huse
    simpa only [Option.some.injEq, eq_comm] using huse
  · intro hdead i
    have huse := hs.inUse i
    rw [source?_of_not_live hdead] at huse
    simpa using huse
  · intro hn
    obtain ⟨hr, hreg, -⟩ := broadcast_of_no_recipients hn
    exact ⟨hr, hreg⟩

/-- Three tasks beside a pool of two items, one of which is in use, and an envelope that waits in
the mailbox of the second task. -/
def crowdedRun : List Operation :=
  [.register ⟨1⟩ "first", .register ⟨2⟩ "second", .register ⟨3⟩ "third", .allocate 8 ⟨0, 0⟩,
    .send (.owning ⟨9⟩ ⟨1⟩ (.task ⟨2⟩) .empty)]

/-- A fork for the full mailbox gives its slot back, so the two other tasks are reached. -/
theorem broadcast_law_crowdedRun :
    ∃ s : TaskSystem, build ((Allocator.create 7 1).declareAll [(2, 8)])
        ⟨1, .report, .builtin, false, false⟩ = .ok s ∧
      let t := s.run crowdedRun
      let e : Envelope := .owning ⟨9⟩ ⟨4⟩ .broadcast (.pooled ⟨7, 0, 0, 1⟩)
      t.allocator.Live ⟨7, 0, 0, 1⟩ ∧ Broadcasts t e (t.broadcast e).1 (t.broadcast e).2 ∧
        (t.broadcast e).1 = ⟨2, 1⟩ ∧ t.reached e (t.recipients e.origin) = [⟨1⟩, ⟨3⟩] := by
  have hpools := (Allocator.Reachable.create 7 1).declareAll [(2, 8)]
  refine ⟨_, rfl, ?_, Reachable.broadcast_law (.run (@Reachable.build _
    ⟨1, .report, .builtin, false, false⟩ _ hpools rfl) crowdedRun) _, ?_, ?_⟩
  · decide
  · decide
  · decide

end TaskSystem

end TaskMessaging
