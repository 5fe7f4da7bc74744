import Mathlib.Data.List.Nodup
import Mathlib.Data.List.Range
import TaskMessaging.Proofs.Timer.Run

/-!
# The life of a timer

A timer lives from the moment it is armed until it is disarmed or retired by its last expiry.
Whatever events arrive in between, and however often, exactly one of three things can be said of it:
it is armed, or it was disarmed once, or it was retired once.

## The invariant

Identifiers are handed out in ascending order, so as long as the count has not wrapped no identifier
is handed out twice, and one that is about to be handed out is not in the table. An action that arms
a timer therefore adds one to what the record says of its identifier, and every other action moves
that one from the table to the record or leaves it where it is. The entry in the table keeps what
was agreed when the timer was armed, because arming a timer again changes nothing but its deadline.
-/

namespace TaskMessaging

open TimerService (isArmed_iff)

variable {c₀ c : ControlLoop} {h before after : List Moment} {m : Moment} {t : TimerService}
  {id : TimerId} {g : Agreement}

/-- What was agreed in a run, in order. -/
def agreements (h : List Moment) : List Agreement := h.filterMap Moment.armed?

/-- What is known of all timers of a run. -/
structure Lives (h : List Moment) (t : TimerService) : Prop where
  next : t.ids.next = UInt64.ofNat ((agreements h).length + 1)
  numbers : (agreements h).map (·.id.number) =
    (List.range' 1 (agreements h).length).map UInt64.ofNat
  entry : ∀ id e, t.table.get? id = some e → ∃ g ∈ agreements h,
    g.id = id ∧ g.owner = e.owner ∧ g.kind = e.kind ∧ g.userData = e.userData
  balance : ∀ id, (t.isArmed id).toNat + h.countP (·.disarms id) + h.countP (·.retires id) =
    h.countP (·.arms id)

theorem agreements_snoc (h : List Moment) (m : Moment) :
    agreements (h ++ [m]) = agreements h ++ m.armed?.toList := by
  rw [agreements, List.filterMap_append]
  cases hm : m.armed? with
  | none => simp [hm, agreements]
  | some g => simp [hm, agreements]

/-! ## Numbers -/

/-- A number that is about to be handed out is new. -/
theorem Lives.fresh (l : Lives h t) (hn : (agreements h).length + 1 < UInt64.size)
    (hg : g ∈ agreements h) : g.id.number ≠ t.ids.next := by
  have hmem : g.id.number ∈ (agreements h).map (·.id.number) := List.mem_map_of_mem hg
  rw [l.numbers, List.mem_map] at hmem
  obtain ⟨k, hk, hkid⟩ := hmem
  rw [List.mem_range'_1] at hk
  intro he
  rw [l.next, ← hkid] at he
  have hval := congrArg UInt64.toNat he
  rw [UInt64.toNat_ofNat_of_lt' (by omega), UInt64.toNat_ofNat_of_lt' hn] at hval
  omega

/-- No two agreements of a run are about the same timer. -/
theorem Lives.nodup (l : Lives h t) (hn : (agreements h).length < UInt64.size) :
    ((agreements h).map (·.id)).Nodup := by
  have hnumbers : ((agreements h).map (·.id.number)).Nodup := by
    rw [l.numbers]
    refine List.Nodup.map_on ?_ List.nodup_range'
    intro i hi j hj hij
    rw [List.mem_range'_1] at hi hj
    have hval := congrArg UInt64.toNat hij
    rwa [UInt64.toNat_ofNat_of_lt' (by omega), UInt64.toNat_ofNat_of_lt' (by omega)] at hval
  refine List.Nodup.of_map TimerId.number ?_
  rw [List.map_map]
  exact hnumbers

/-- A timer of a run was armed once. -/
theorem Lives.countP_arms (l : Lives h t) (hn : (agreements h).length < UInt64.size)
    (hg : g ∈ agreements h) : h.countP (·.arms g.id) = 1 := by
  have hcount : ((agreements h).map (·.id)).count g.id = 1 :=
    List.count_eq_one_of_mem (l.nodup hn) (List.mem_map_of_mem hg)
  rw [← hcount, agreements, List.map_filterMap, List.count, List.countP_filterMap]
  refine List.countP_congr ?_
  intro m _
  rw [Moment.arms]
  cases m.armed? with
  | none => simp
  | some g' => simp

/-! ## One action -/

theorem Moment.arms_of_none (hm : m.armed? = none) (id : TimerId) : m.arms id = false := by
  rw [Moment.arms, hm]
  rfl

theorem Moment.arms_of_some (hm : m.armed? = some g) (id : TimerId) :
    m.arms id = decide (g.id = id) := by
  rw [Moment.arms, hm]
  simp

theorem Moment.retires_of_none (hm : m.fired? = none) (id : TimerId) : m.retires id = false := by
  rw [Moment.retires, hm]
  rfl

theorem Moment.retires_of_some {f : FiredTimer} (hm : m.fired? = some f) (id : TimerId) :
    m.retires id = (decide (f.id = id) && !f.rearmed) := by
  rw [Moment.retires, hm]
  rfl

theorem countP_snoc (p : Moment → Bool) (h : List Moment) (m : Moment) :
    (h ++ [m]).countP p = h.countP p + (p m).toNat := by
  rw [List.countP_append, List.countP_singleton]
  cases p m <;> rfl

/-- An action that arms nothing leaves the record of what was agreed alone. -/
theorem Lives.of_none (l : Lives h m.loop.timers) (hm : m.armed? = none)
    (hids : t.ids = m.loop.timers.ids)
    (hentry : ∀ id e, t.table.get? id = some e → ∃ e', m.loop.timers.table.get? id = some e' ∧
      e'.owner = e.owner ∧ e'.kind = e.kind ∧ e'.userData = e.userData)
    (hbalance : ∀ id, (t.isArmed id).toNat + (m.disarms id).toNat + (m.retires id).toNat =
      (m.loop.timers.isArmed id).toNat) :
    Lives (h ++ [m]) t := by
  have hsame : agreements (h ++ [m]) = agreements h := by
    rw [agreements_snoc, hm]
    exact List.append_nil _
  refine ⟨by rw [hsame, hids]; exact l.next, by rw [hsame]; exact l.numbers, ?_, ?_⟩
  · intro id e he
    obtain ⟨e', he', howner, hkind, hdata⟩ := hentry id e he
    obtain ⟨g, hg, hid, hgo, hgk, hgd⟩ := l.entry id e' he'
    rw [hsame]
    exact ⟨g, hg, hid, hgo.trans howner, hgk.trans hkind, hgd.trans hdata⟩
  · intro id
    have hold := l.balance id
    have hnew := hbalance id
    rw [countP_snoc, countP_snoc, countP_snoc, Moment.arms_of_none hm, Bool.toNat_false]
    omega

/-- An action that takes a timer out of the table puts it on record, if it was armed. -/
theorem Lives.of_remove (l : Lives h m.loop.timers) (hm : m.armed? = none) {j : TimerId}
    (htable : t.table = (m.loop.timers.table.remove j).2) (hids : t.ids = m.loop.timers.ids)
    (hrecord : ∀ id, (m.disarms id).toNat + (m.retires id).toNat =
      if id = j then (m.loop.timers.isArmed j).toNat else 0) :
    Lives (h ++ [m]) t := by
  have hget (id : TimerId) : t.table.get? id =
      if id = j then none else m.loop.timers.table.get? id := by
    rw [htable, TimerTable.get?_remove]
  refine l.of_none hm hids ?_ ?_
  · intro id e he
    rw [hget] at he
    split at he
    · cases he
    · exact ⟨e, he, rfl, rfl, rfl⟩
  · intro id
    rw [Nat.add_assoc, hrecord, TimerService.isArmed, hget]
    by_cases hid : id = j
    · rw [if_pos hid, if_pos hid, hid]
      exact Nat.zero_add _
    · rw [if_neg hid, if_neg hid]
      rfl

/-- A timer that is armed again stays armed, under the same terms. -/
theorem Lives.of_rearm (l : Lives h m.loop.timers) (hm : m.armed? = none) {j : TimerId}
    {e : TimerEntry} (he : m.loop.timers.table.get? j = some e) {next : Instant}
    (htable : t.table = m.loop.timers.table.insert { e with deadline := next })
    (hids : t.ids = m.loop.timers.ids)
    (hrecord : ∀ id, m.disarms id = false ∧ m.retires id = false) : Lives (h ++ [m]) t := by
  have hget (id : TimerId) : t.table.get? id =
      if id = j then some { e with deadline := next } else m.loop.timers.table.get? id := by
    rw [htable, TimerTable.get?_insert, TimerTable.id_of_get? he]
  refine l.of_none hm hids ?_ ?_
  · intro id e' he'
    rw [hget] at he'
    split at he'
    · next hid =>
      obtain rfl := Option.some.inj he'
      exact ⟨e, hid ▸ he, rfl, rfl, rfl⟩
    · exact ⟨e', he', rfl, rfl, rfl⟩
  · intro id
    rw [(hrecord id).1, (hrecord id).2, TimerService.isArmed, TimerService.isArmed, hget]
    by_cases hid : id = j
    · rw [if_pos hid, hid, he]
      rfl
    · rw [if_neg hid]
      rfl

/-- A timer that is armed is new, both to the table and to the record. -/
theorem Lives.of_arm (l : Lives h m.loop.timers) (hn : (agreements (h ++ [m])).length < UInt64.size)
    (hm : m.armed? = some g) (hid : g.id = ⟨m.loop.timers.ids.next⟩) {d : Instant}
    (htable : t.table = m.loop.timers.table.insert ⟨g.id, g.owner, g.kind, g.userData, d⟩)
    (hids : t.ids.next = m.loop.timers.ids.next + 1)
    (hrecord : ∀ id, m.disarms id = false ∧ m.retires id = false) : Lives (h ++ [m]) t := by
  have hadd : agreements (h ++ [m]) = agreements h ++ [g] := by
    rw [agreements_snoc, hm]
    rfl
  rw [hadd, List.length_append, List.length_singleton] at hn
  have hfresh : m.loop.timers.table.get? g.id = none := by
    cases hget : m.loop.timers.table.get? g.id with
    | none => rfl
    | some e =>
      obtain ⟨g', hg', hid', -⟩ := l.entry g.id e hget
      exact absurd (by rw [hid', hid]) (l.fresh hn hg')
  have hget (id : TimerId) : t.table.get? id = if id = g.id then
      some ⟨g.id, g.owner, g.kind, g.userData, d⟩ else m.loop.timers.table.get? id := by
    rw [htable, TimerTable.get?_insert]
  refine ⟨?_, ?_, ?_, ?_⟩
  · rw [hadd, List.length_append, List.length_singleton, hids, l.next, ← UInt64.ofNat_one,
      ← UInt64.ofNat_add]
  · rw [hadd, List.map_append, l.numbers, List.length_append, List.length_singleton,
      List.range'_concat, List.map_append, List.map_singleton, List.map_singleton, hid, l.next]
    simp [Nat.add_comm]
  · intro id e he
    rw [hadd]
    rw [hget] at he
    split at he
    · next heq =>
      obtain rfl := Option.some.inj he
      exact ⟨g, List.mem_append_right _ (List.mem_singleton.mpr rfl), heq.symm, rfl, rfl, rfl⟩
    · obtain ⟨g', hg', hfields⟩ := l.entry id e he
      exact ⟨g', List.mem_append_left _ hg', hfields⟩
  · intro id
    have hold := l.balance id
    rw [countP_snoc, countP_snoc, countP_snoc, (hrecord id).1, (hrecord id).2,
      Moment.arms_of_some hm, ← hold, TimerService.isArmed, TimerService.isArmed, hget]
    by_cases heq : id = g.id
    · -- The timer counts on the left from now on, and so does its arming on the right.
      rw [heq, if_pos rfl, hfresh, decide_eq_true rfl]
      simp only [Option.isSome_some, Option.isSome_none, Bool.toNat_true, Bool.toNat_false]
      omega
    · rw [if_neg heq, decide_eq_false (Ne.symm heq), Bool.toNat_false]
      omega

/-- **What is known of all timers survives every action.** -/
theorem Lives.snoc (l : Lives h m.loop.timers) (hn : (agreements (h ++ [m])).length < UInt64.size)
    (he : m.Effect t) : Lives (h ++ [m]) t := by
  cases he with
  | keeps t hm hf hd hentries hids =>
    have hget (id : TimerId) : t.table.get? id = m.loop.timers.table.get? id := by
      rw [TimerTable.get?, TimerTable.get?, hentries]
    refine l.of_none hm hids (fun id e hg ↦ ⟨e, (hget id).symm.trans hg, rfl, rfl, rfl⟩) ?_
    intro id
    rw [hd, Moment.retires_of_none hf, TimerService.isArmed, TimerService.isArmed, hget]
    rfl
  | disarms j hm hf hd =>
    have htold : (m.loop.timers.disarm j).1 = m.loop.timers.isArmed j := by
      rw [TimerService.disarm, TimerTable.remove_fst]
      rfl
    refine l.of_remove hm (j := j) rfl rfl ?_
    intro id
    rw [hd, Moment.retires_of_none hf, htold]
    by_cases hid : id = j
    · simp [hid]
    · simp [hid, Ne.symm hid]
  | fires j now f hm hf hd hx =>
    rcases TimerTable.expire_cases m.loop.timers.table j now with
      ⟨-, hexp⟩ | ⟨e, hget, ⟨interval, next, -, -, hexp⟩ | hexp⟩
    · rw [TimerService.expire, hexp] at hx
      cases hx
    · rw [TimerService.expire, hexp] at hx ⊢
      obtain rfl := Option.some.inj hx
      refine l.of_rearm hm hget rfl rfl ?_
      intro id
      rw [Moment.retires_of_some hf]
      exact ⟨hd id, Bool.and_false _⟩
    · rw [TimerService.expire, hexp] at hx ⊢
      obtain rfl := Option.some.inj hx
      have harmed : m.loop.timers.isArmed j = true := isArmed_iff.mpr ⟨e, hget⟩
      refine l.of_remove hm (j := j) rfl rfl ?_
      intro id
      rw [hd, Moment.retires_of_some hf, harmed]
      by_cases hid : id = j
      · simp [hid]
      · simp [hid, Ne.symm hid]
  | arms g d hm hf hd hid =>
    exact l.of_arm hn hm hid rfl rfl fun id ↦ ⟨hd id, Moment.retires_of_none hf id⟩

/-! ## Runs -/

theorem length_agreements_le (h after : List Moment) :
    (agreements h).length ≤ (agreements (h ++ after)).length := by
  rw [agreements, agreements, List.filterMap_append, List.length_append]
  omega

theorem lives_initial : Lives [] .initial := by
  refine ⟨rfl, rfl, ?_, ?_⟩
  · intro id e he
    cases he
  · intro id
    rfl

/-- A run from timers of which none was ever armed. -/
theorem TimerRun.lives (r : TimerRun c₀ h c) (h₀ : c₀.timers = .initial)
    (hn : (agreements h).length < UInt64.size) : Lives h c.timers := by
  induction r with
  | nil =>
    rw [h₀]
    exact lives_initial
  | @snoc h c a r ih =>
    have hle := length_agreements_le h [⟨c, a⟩]
    exact Lives.snoc (m := ⟨c, a⟩) (ih (by omega)) hn (Moment.effect ⟨c, a⟩)

/-! ## Attempts -/

/-- What lies behind an expiry that was completed. -/
theorem Moment.fired?_eq_some {f : FiredTimer} (hf : m.fired? = some f) :
    ∃ now e, m.action = .handle now (.timerFired f.id) ∧ m.loop.dispatcher.state ≠ .terminal ∧
      m.loop.timers.table.get? f.id = some e ∧ f.owner = e.owner ∧ f.userData = e.userData ∧
        (e.kind = .oneShot → f.rearmed = false) := by
  rw [Moment.fired?] at hf
  split at hf
  · next now id ha =>
    split at hf
    · cases hf
    · next ht =>
      rcases TimerTable.expire_cases m.loop.timers.table id now with
        ⟨-, hx⟩ | ⟨e, hget, ⟨interval, next, hkind, -, hx⟩ | hx⟩
      · rw [TimerService.expire, hx] at hf
        cases hf
      · rw [TimerService.expire, hx] at hf
        obtain rfl := Option.some.inj hf
        refine ⟨now, e, ha, ht, hget, rfl, rfl, ?_⟩
        intro hone
        rw [hkind] at hone
        cases hone
      · rw [TimerService.expire, hx] at hf
        obtain rfl := Option.some.inj hf
        exact ⟨now, e, ha, ht, hget, rfl, rfl, fun _ ↦ rfl⟩
  · cases hf

theorem Moment.attempts_iff : m.attempts id = true ↔ ∃ f, m.fired? = some f ∧ f.id = id := by
  rw [Moment.attempts]
  cases m.fired? with
  | none => simp
  | some f => simp

/-- An attempt is caused by an event that finds its timer armed, and by nothing else. -/
theorem Moment.attempts_iff_armed :
    m.attempts id = true ↔ ∃ now, m.action = .handle now (.timerFired id) ∧
      m.loop.dispatcher.state ≠ .terminal ∧ m.loop.timers.isArmed id = true := by
  rw [Moment.attempts_iff]
  constructor
  · rintro ⟨f, hf, rfl⟩
    obtain ⟨now, e, ha, ht, hget, -⟩ := Moment.fired?_eq_some hf
    exact ⟨now, ha, ht, isArmed_iff.mpr ⟨e, hget⟩⟩
  · rintro ⟨now, ha, ht, harmed⟩
    obtain ⟨e, hget⟩ := isArmed_iff.mp harmed
    have hfired : m.fired? = (m.loop.timers.expire id now).1 := by
      rw [Moment.fired?, ha]
      exact if_neg ht
    rcases TimerTable.expire_cases m.loop.timers.table id now with
      ⟨hnone, -⟩ | ⟨e', -, ⟨interval, next, -, -, hx⟩ | hx⟩
    · rw [hget] at hnone
      cases hnone
    · rw [TimerService.expire, hx] at hfired
      exact ⟨_, hfired, rfl⟩
    · rw [TimerService.expire, hx] at hfired
      exact ⟨_, hfired, rfl⟩

/-- To the system the event of a timer is one send, of the envelope that goes with the expiry it
completes, or nothing. -/
theorem Moment.sameButJournal_attempt (c : ControlLoop) (now : Instant) (id : TimerId) :
    (match Moment.attempt? ⟨c, .handle now (.timerFired id)⟩ with
      | none => c.system
      | some e => (c.system.send e).2).SameButJournal (c.handle now (.timerFired id)).system := by
  by_cases ht : c.dispatcher.state = .terminal
  · rw [Moment.attempt?, Moment.fired?_of_terminal ht]
    exact (ControlLoop.handle_of_terminal ht now _).2
  · have hsend := (ControlLoop.handle_timerFired ht now id).2
    rw [Moment.attempt?, Moment.fired?_of_not_terminal ht]
    cases hx : (c.timers.expire id now).1 with
    | none =>
      rw [hx] at hsend
      exact hsend
    | some f =>
      rw [hx] at hsend
      exact hsend

/-! ## The law -/

/-- What a run says of a timer that was armed in it. -/
structure LifeLaw (h : List Moment) (c : ControlLoop) (g : Agreement) : Prop where
  /-- The timer is armed, or it was disarmed once, or it was retired once. -/
  balance : (c.timers.isArmed g.id).toNat + h.countP (·.disarms g.id) +
    h.countP (·.retires g.id) = 1
  oneShot : g.kind = .oneShot → h.countP (·.attempts g.id) ≤ 1
  /-- Once disarmed, its owner is left alone. -/
  disarmed : ∀ before m after, h = before ++ m :: after → m.disarms g.id = true →
    ∀ n ∈ after, n.attempts g.id = false
  /-- Its owner is told once for each event that finds it armed, and for nothing else. -/
  attempts : ∀ m ∈ h, m.attempts g.id = true ↔ ∃ now, m.action = .handle now (.timerFired g.id) ∧
    m.loop.dispatcher.state ≠ .terminal ∧ m.loop.timers.isArmed g.id = true
  /-- To the system such an event is one send, or nothing. -/
  send : ∀ m ∈ h, ∀ now, m.action = .handle now (.timerFired g.id) →
    (match m.attempt? with
      | none => m.loop.system
      | some e => (m.loop.system.send e).2).SameButJournal (m.loop.act m.action).system
  /-- No other event tells a task of an expiry. -/
  others : ∀ m ∈ h, ∀ now event, m.action = .handle now event →
    (∀ id, event ≠ .timerFired id) →
      (m.loop.act m.action).system.metrics.timerEnvelopes = m.loop.system.metrics.timerEnvelopes
  /-- Whoever is told is the owner, and is told what was agreed. -/
  envelope : ∀ m ∈ h, m.attempts g.id = true → ∃ e, m.attempt? = some e ∧
    e.kind = .timerExpired ∧ e.origin = .core ∧ e.destination = .task g.owner ∧
      TimerExpiry.ofEnvelope? e = some ⟨g.id, g.userData⟩

namespace TimerRun

/-- What is known of the timers whenever something happens. -/
theorem lives_of_mem (r : TimerRun c₀ h c) (h₀ : c₀.timers = .initial)
    (hn : (agreements h).length < UInt64.size) (hm : h = before ++ m :: after) :
    Lives before m.loop.timers ∧ (agreements before).length < UInt64.size := by
  have hle := length_agreements_le before (m :: after)
  rw [← hm] at hle
  exact ⟨(r.of_mem hm).lives h₀ (by omega), by omega⟩

/-- Whatever finds a timer armed finds it as agreed. -/
theorem agreed_of_mem (r : TimerRun c₀ h c) (h₀ : c₀.timers = .initial)
    (hn : (agreements h).length < UInt64.size) (hg : g ∈ agreements h) (hm : m ∈ h) {e : TimerEntry}
    (he : m.loop.timers.table.get? g.id = some e) :
    g.owner = e.owner ∧ g.kind = e.kind ∧ g.userData = e.userData := by
  obtain ⟨before, after, hsplit⟩ := List.append_of_mem hm
  obtain ⟨l, -⟩ := r.lives_of_mem h₀ hn hsplit
  obtain ⟨g', hg', hid, hfields⟩ := l.entry g.id e he
  have hmem : g' ∈ agreements h := by
    rw [hsplit, agreements, List.filterMap_append]
    exact List.mem_append_left _ hg'
  obtain rfl : g' = g := List.inj_on_of_nodup_map ((r.lives h₀ hn).nodup hn) hmem hg hid
  exact hfields

/-- An expiry of a one-shot timer is its last. -/
theorem retires_of_attempts (r : TimerRun c₀ h c) (h₀ : c₀.timers = .initial)
    (hn : (agreements h).length < UInt64.size) (hg : g ∈ agreements h) (hone : g.kind = .oneShot)
    (hm : m ∈ h) (ha : m.attempts g.id = true) : m.retires g.id = true := by
  obtain ⟨f, hf, hid⟩ := Moment.attempts_iff.mp ha
  obtain ⟨now, e, -, -, hget, -, -, hlast⟩ := Moment.fired?_eq_some hf
  rw [hid] at hget
  obtain ⟨-, hkind, -⟩ := r.agreed_of_mem h₀ hn hg hm hget
  rw [Moment.retires_of_some hf, hlast (hkind.symm.trans hone), hid]
  simp

/-- Nobody is told of a timer behind the request that disarmed it. -/
theorem not_attempts_of_disarms (r : TimerRun c₀ h c) (h₀ : c₀.timers = .initial)
    (hn : (agreements h).length < UInt64.size) (hg : g ∈ agreements h)
    (hm : h = before ++ m :: after) (hd : m.disarms g.id = true) {n : Moment} (hmem : n ∈ after) :
    n.attempts g.id = false := by
  rw [Bool.eq_false_iff]
  intro ha
  obtain ⟨now, -, -, harmed⟩ := Moment.attempts_iff_armed.mp ha
  obtain ⟨mid, rest, rfl⟩ := List.append_of_mem hmem
  have hsplit : h = (before ++ m :: mid) ++ n :: rest := by
    rw [hm, List.append_assoc, List.cons_append]
  obtain ⟨l, hshort⟩ := r.lives_of_mem h₀ hn hsplit
  -- The record up to there has the request, and the table still has the timer.
  have hbalance := l.balance g.id
  have hrequest : (m :: mid).countP (·.disarms g.id) = mid.countP (·.disarms g.id) + 1 :=
    List.countP_cons_of_pos hd
  rw [harmed, List.countP_append, hrequest] at hbalance
  have hone := (r.lives h₀ hn).countP_arms hn hg
  rw [hsplit, List.countP_append] at hone
  rw [Bool.toNat_true] at hbalance
  omega

/-- Whoever is told of a timer is its owner, and is told what was agreed. -/
theorem attempt?_of_attempts (r : TimerRun c₀ h c) (h₀ : c₀.timers = .initial)
    (hn : (agreements h).length < UInt64.size) (hg : g ∈ agreements h) (hm : m ∈ h)
    (ha : m.attempts g.id = true) :
    ∃ e, m.attempt? = some e ∧ e.kind = .timerExpired ∧ e.origin = .core ∧
      e.destination = .task g.owner ∧ TimerExpiry.ofEnvelope? e = some ⟨g.id, g.userData⟩ := by
  obtain ⟨f, hf, hid⟩ := Moment.attempts_iff.mp ha
  obtain ⟨now, e, -, -, hget, howner, hdata, -⟩ := Moment.fired?_eq_some hf
  rw [hid] at hget
  obtain ⟨hgo, -, hgd⟩ := r.agreed_of_mem h₀ hn hg hm hget
  have hattempt : m.attempt? = some (ControlLoop.expiryEnvelope f) := by
    rw [Moment.attempt?, hf]
    rfl
  refine ⟨_, hattempt, rfl, rfl, ?_, ?_⟩
  · rw [hgo, ← howner]
    rfl
  · rw [ControlLoop.ofEnvelope?_expiryEnvelope, hid, hdata, hgd]

/-- **The law of the life of a timer**, for every timer of every run. -/
theorem life_law (r : TimerRun c₀ h c) (h₀ : c₀.timers = .initial)
    (hn : (agreements h).length < UInt64.size) (hg : g ∈ agreements h) : LifeLaw h c g := by
  have l := r.lives h₀ hn
  have hbalance : (c.timers.isArmed g.id).toNat + h.countP (·.disarms g.id) +
      h.countP (·.retires g.id) = 1 := by
    rw [l.balance, l.countP_arms hn hg]
  refine ⟨hbalance, ?_, ?_, fun m _ ↦ Moment.attempts_iff_armed, ?_, ?_, ?_⟩
  · intro hone
    have hle : h.countP (·.attempts g.id) ≤ h.countP (·.retires g.id) :=
      List.countP_mono_left fun m hm ha ↦ r.retires_of_attempts h₀ hn hg hone hm ha
    omega
  · intro before m after hm hd n hmem
    exact r.not_attempts_of_disarms h₀ hn hg hm hd hmem
  · rintro ⟨c', a⟩ - now rfl
    exact Moment.sameButJournal_attempt c' now g.id
  · rintro ⟨c', a⟩ - now event rfl hother
    exact ControlLoop.timerEnvelopes_handle_of_other hother
  · intro m hm ha
    exact r.attempt?_of_attempts h₀ hn hg hm ha

/-- A one-shot timer whose event is delivered twice, and a periodic one that is disarmed between two
of its events. -/
def twoTimers : List TimerAction :=
  [.arm ⟨0⟩ ⟨1⟩ ⟨5⟩ .oneShot 7, .arm ⟨0⟩ ⟨1⟩ ⟨5⟩ (.periodic ⟨2⟩) 8, .pop ⟨6⟩,
    .handle ⟨6⟩ (.timerFired ⟨1⟩), .handle ⟨6⟩ (.timerFired ⟨2⟩), .handle ⟨7⟩ (.timerFired ⟨1⟩),
    .disarm ⟨2⟩, .handle ⟨9⟩ (.timerFired ⟨2⟩)]

theorem life_law_twoTimers :
    ∃ s : TaskSystem, TaskSystem.build (.create 7 0) ⟨2, .report, .builtin, false, false⟩ = .ok s ∧
      let c₀ : ControlLoop := ⟨.create false, s, .initial⟩
      let h := c₀.record twoTimers
      let c := twoTimers.foldl ControlLoop.act c₀
      agreements h = [⟨⟨1⟩, ⟨1⟩, .oneShot, 7⟩, ⟨⟨2⟩, ⟨1⟩, .periodic ⟨2⟩, 8⟩] ∧
        LifeLaw h c ⟨⟨1⟩, ⟨1⟩, .oneShot, 7⟩ ∧ LifeLaw h c ⟨⟨2⟩, ⟨1⟩, .periodic ⟨2⟩, 8⟩ ∧
          h.map (·.attempts ⟨1⟩) = [false, false, false, true, false, false, false, false] ∧
          h.map (·.attempts ⟨2⟩) = [false, false, false, false, true, false, false, false] := by
  refine ⟨_, rfl, ?_⟩
  intro c₀ h c
  have hrun : TimerRun c₀ h c := TimerRun.nil.append_record twoTimers
  have hagreed : agreements h = [⟨⟨1⟩, ⟨1⟩, .oneShot, 7⟩, ⟨⟨2⟩, ⟨1⟩, .periodic ⟨2⟩, 8⟩] := by
    decide
  have hn : (agreements h).length < UInt64.size := by
    rw [hagreed]
    decide
  refine ⟨hagreed, life_law hrun rfl hn ?_, life_law hrun rfl hn ?_, ?_, ?_⟩
  · rw [hagreed]
    decide
  · rw [hagreed]
    decide
  · decide
  · decide

end TimerRun

end TaskMessaging
