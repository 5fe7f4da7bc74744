import Mathlib.Algebra.GroupWithZero.Nat
import Mathlib.Data.List.Forall2
import Mathlib.Order.Bounds.Defs
import TaskMessaging.Diagnostics.Channel

/-!
# What a channel keeps

A channel keeps the newest lines of all that were published, as many as its capacity allows, and
the capacity is the least power of two that is not below what was asked for. So the state of a
channel is a function of the lines that were published: `Keeps c lines` says which one, and it is
all that readers rely on.

A reader is at some place among the lines. What it is told takes it to a later place, and the lines
in between are *covered* by that: one line that it gets to see, or as many lines as it is told to
have skipped. It skips lines only if more are waiting for it than the channel keeps.
-/

namespace TaskMessaging.Channel

/-! ## The capacity -/

/-- **The capacity** is the least power of two that is not below the number that was asked for. -/
theorem isLeast_powerOfTwo (n : Nat) :
    IsLeast {m | max n 1 ≤ m ∧ ∃ k, m = 2 ^ k} (powerOfTwo n) := by
  refine ⟨⟨Nat.max_le.mpr ⟨le_powerOfTwo n, powerOfTwo_pos n⟩, ?_⟩, ?_⟩
  · rw [powerOfTwo]
    split
    · exact ⟨0, rfl⟩
    · exact ⟨_, rfl⟩
  · rintro m ⟨hle, k, rfl⟩
    rw [powerOfTwo]
    split
    · exact Nat.one_le_two_pow
    · next hn =>
      -- A smaller power would not reach the number.
      have hlog : Nat.log2 (n - 1) < k := by
        rw [Nat.log2_lt (by omega)]
        omega
      exact Nat.pow_le_pow_right Nat.two_pos hlog

/-! ## What is kept -/

/-- The channel keeps the newest of the lines that were published. -/
structure Keeps (c : Channel) (lines : List String) : Prop where
  published : c.published = lines.length
  kept : c.kept = lines.drop (lines.length - c.capacity)

variable {c : Channel} {lines : List String} {seen : Nat}

theorem keeps_create (buffer : Nat) : (create buffer).Keeps [] := ⟨rfl, List.drop_nil.symm⟩

theorem Keeps.publish (h : c.Keeps lines) (line : String) :
    (c.publish line).Keeps (lines ++ [line]) := by
  have hlen : (lines ++ [line]).length = lines.length + 1 := List.length_append
  refine ⟨(congrArg (· + 1) h.published).trans hlen.symm, ?_⟩
  change (c.kept ++ [line]).drop ((c.kept ++ [line]).length - c.capacity) =
    (lines ++ [line]).drop ((lines ++ [line]).length - c.capacity)
  rw [h.kept, ← List.drop_append_of_le_length (Nat.sub_le _ _), List.drop_drop, List.length_drop]
  congr 1
  omega

theorem Keeps.oldest (h : c.Keeps lines) : c.oldest = lines.length - c.capacity := by
  rw [Channel.oldest, h.published, h.kept, List.length_drop]
  omega

/-! ## What a reader is told -/

namespace Received

/-- The line that a reader is shown. -/
def shown : Received → List String
  | .line text => [text]
  | .skipped _ | .nothing => []

/-- How many lines a reader is told to have skipped. -/
def gap : Received → Nat
  | .skipped count => count
  | .line _ | .nothing => 0

/-- The lines that what a reader is told stands for. -/
inductive Covers : Received → List String → Prop where
  | line (text : String) : Covers (.line text) [text]
  | skipped (lines : List String) : Covers (.skipped lines.length) lines
  | nothing : Covers .nothing []

theorem covers_skipped {lines : List String} {count : Nat} (h : lines.length = count) :
    Covers (.skipped count) lines := h ▸ .skipped lines

end Received

/-- The lines that a reader is shown by all that it is told. -/
def shown (told : List Received) : List String := told.flatMap Received.shown

/-- How many lines it is told to have skipped. -/
def skips (told : List Received) : Nat := (told.map Received.gap).sum

theorem shown_append (told others : List Received) :
    shown (told ++ others) = shown told ++ shown others := List.flatMap_append

theorem skips_append (told others : List Received) :
    skips (told ++ others) = skips told + skips others := by
  rw [skips, List.map_append, List.sum_append, skips, skips]

/-- A reader moves on over the lines that it is told about. -/
theorem Keeps.covers_receive (h : c.Keeps lines) (hs : seen ≤ lines.length) :
    ∃ part, (c.receive seen).1.Covers part ∧
      lines.drop seen = part ++ lines.drop (c.receive seen).2 ∧
      (c.receive seen).2 ≤ lines.length := by
  have hold := h.oldest
  rw [receive]
  by_cases hgone : seen < c.oldest
  · rw [if_pos hgone]
    refine ⟨(lines.drop seen).take (c.oldest - seen), Received.covers_skipped ?_, ?_, ?_⟩
    · rw [List.length_take, List.length_drop]
      omega
    · conv_lhs => rw [← List.take_append_drop (c.oldest - seen) (lines.drop seen), List.drop_drop,
        Nat.add_sub_of_le (Nat.le_of_lt hgone)]
    · exact hold ▸ Nat.sub_le _ _
  · have hnext : c.kept[seen - c.oldest]? = lines[seen]? := by
      rw [h.kept, List.getElem?_drop, ← hold, Nat.add_sub_of_le (Nat.le_of_not_lt hgone)]
    rw [if_neg hgone, hnext]
    cases hl : lines[seen]? with
    | none => exact ⟨[], .nothing, rfl, hs⟩
    | some text =>
      obtain ⟨hlt, rfl⟩ := List.getElem?_eq_some_iff.mp hl
      exact ⟨[lines[seen]], .line _, List.drop_eq_getElem_cons hlt, hlt⟩

/-- A reader that is told nothing stays where it is. -/
theorem eq_of_receive_nothing {next : Nat} (h : c.receive seen = (.nothing, next)) :
    next = seen := by
  rw [receive] at h
  split at h
  · cases h
  · split at h
    · cases h
    · exact (Prod.mk.inj h).2.symm

/-- Nothing is skipped while no more lines are waiting than the channel keeps. -/
theorem Keeps.gap_receive (h : c.Keeps lines) (hs : lines.length - seen ≤ c.capacity) :
    (c.receive seen).1.gap = 0 := by
  rw [receive, if_neg (by rw [h.oldest]; omega)]
  split
  · rfl
  · rfl

section Covering

variable {told : List Received} {parts : List (List String)}

theorem shown_sublist (h : List.Forall₂ Received.Covers told parts) :
    (shown told).Sublist parts.flatten := by
  induction h with
  | nil => exact List.Sublist.refl _
  | cons hc _ ih =>
    rw [shown, List.flatMap_cons, List.flatten_cons]
    refine List.Sublist.append ?_ ih
    cases hc with
    | line => exact List.Sublist.refl _
    | skipped | nothing => exact List.nil_sublist _

theorem length_flatten (h : List.Forall₂ Received.Covers told parts) :
    (shown told).length + skips told = parts.flatten.length := by
  induction h with
  | nil => rfl
  | cons hc _ ih =>
    rw [shown, skips, List.flatMap_cons, List.length_append, List.map_cons, List.sum_cons,
      List.flatten_cons, List.length_append, ← ih, shown, skips]
    cases hc with
    | line => simp [Received.shown, Received.gap]; omega
    | skipped => simp [Received.shown, Received.gap]; omega
    | nothing => simp [Received.shown, Received.gap]

/-- Who skips nothing is shown everything. -/
theorem shown_eq_flatten (h : List.Forall₂ Received.Covers told parts) (hs : skips told = 0) :
    shown told = parts.flatten :=
  (shown_sublist h).eq_of_length (by rw [← length_flatten h, hs, Nat.add_zero])

end Covering

end TaskMessaging.Channel
