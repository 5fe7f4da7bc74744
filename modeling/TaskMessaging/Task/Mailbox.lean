import TaskMessaging.Task.Error

/-!
# Mailboxes

A bounded queue of envelopes, served first in, first out. Enqueueing never waits: a full mailbox
refuses the envelope. The envelopes are kept newest first, so that enqueueing does not walk the
queue; `queue` is the view in the order of arrival, and a mailbox is no more than its capacity and
this view.
-/

namespace TaskMessaging

/-- Envelopes waiting for a task. -/
structure Mailbox where
  capacity : Nat
  /-- What waits, the envelope that came last in front. -/
  newestFirst : List Envelope
  /-- How many more envelopes fit. -/
  room : Nat
  length_add_room : newestFirst.length + room = capacity
deriving DecidableEq

namespace Mailbox

def create (capacity : Nat) : Mailbox := ⟨capacity, [], capacity, by simp⟩

/-- What waits, the oldest envelope first. -/
def queue (m : Mailbox) : List Envelope := m.newestFirst.reverse

def length (m : Mailbox) : Nat := m.capacity - m.room

def isEmpty (m : Mailbox) : Bool := m.newestFirst.isEmpty

/-- Appends an envelope if there is room. -/
def enqueue? (m : Mailbox) (e : Envelope) : Option Mailbox :=
  match h : m.room with
  | 0 => none
  | room + 1 => some ⟨m.capacity, e :: m.newestFirst, room, by
      have := m.length_add_room
      simp only [List.length_cons]
      omega⟩

/-- Takes the oldest envelope. -/
def dequeue? (m : Mailbox) : Option (Envelope × Mailbox) :=
  match h : m.newestFirst.reverse with
  | [] => none
  | e :: rest => some (e, ⟨m.capacity, rest.reverse, m.room + 1, by
      have hm := m.length_add_room
      have hl : m.newestFirst.length = rest.length + 1 := by
        rw [← List.length_reverse, h, List.length_cons]
      rw [List.length_reverse]
      omega⟩)

/-! ## Laws -/

@[simp] theorem queue_create (capacity : Nat) : (create capacity).queue = [] := rfl

@[simp] theorem length_queue (m : Mailbox) : m.queue.length = m.length := by
  have := m.length_add_room
  simp only [queue, length, List.length_reverse]
  omega

theorem length_le_capacity (m : Mailbox) : m.length ≤ m.capacity := Nat.sub_le _ _

/-- The view determines the mailbox. -/
theorem eq_of_queue {m m' : Mailbox} (hc : m.capacity = m'.capacity) (hq : m.queue = m'.queue) :
    m = m' := by
  obtain ⟨c, xs, r, h⟩ := m
  obtain ⟨c', xs', r', h'⟩ := m'
  obtain rfl : c = c' := hc
  obtain rfl : xs = xs' := List.reverse_inj.1 hq
  obtain rfl : r = r' := by omega
  rfl

theorem enqueue?_eq_some {m m' : Mailbox} {e : Envelope} :
    m.enqueue? e = some m' ↔
      m.length < m.capacity ∧ m'.capacity = m.capacity ∧ m'.queue = m.queue ++ [e] := by
  have hm := m.length_add_room
  unfold enqueue?
  split
  · next h =>
    constructor
    · intro hn
      cases hn
    · intro hr
      have := hr.1
      simp only [length] at this
      omega
  · next room h =>
    constructor
    · intro hs
      cases hs
      refine ⟨?_, rfl, by simp [queue]⟩
      simp only [length]
      omega
    · rintro ⟨-, hc, hq⟩
      exact congrArg some (eq_of_queue hc.symm (by rw [hq]; simp [queue]))

theorem dequeue?_eq_some {m m' : Mailbox} {e : Envelope} :
    m.dequeue? = some (e, m') ↔ m.queue = e :: m'.queue ∧ m'.capacity = m.capacity := by
  unfold dequeue?
  split
  · next h => simp [queue, h]
  · next first rest h =>
    constructor
    · intro hs
      cases hs
      simp [queue, h]
    · rintro ⟨hq, hc⟩
      rw [queue, h] at hq
      cases hq
      exact congrArg some (Prod.ext rfl (eq_of_queue hc.symm (by simp [queue])))

theorem dequeue?_eq_none {m : Mailbox} : m.dequeue? = none ↔ m.queue = [] := by
  unfold dequeue?
  split
  · next h => simp [queue, h]
  · next h => simp [queue, h]

end Mailbox

end TaskMessaging
