import TaskMessaging.Word

/-!
# Broadcast channels

Every subscriber receives what was published since it subscribed, in order. The channel keeps only
the newest lines; a subscriber that falls further behind skips those that are gone and is told how
many they were.
-/

namespace TaskMessaging

/-- The newest lines that were published, and how many were published in all. -/
structure Channel where
  capacity : Nat
  /-- Oldest first. -/
  kept : List String
  published : Nat
deriving DecidableEq

namespace Channel

/-- The least power of two that is not below a number. -/
def powerOfTwo (n : Nat) : Nat := if n ≤ 1 then 1 else Word.count (Nat.log2 (n - 1) + 1)

/-- A channel that keeps at least `buffer` lines, and at least one. -/
def create (buffer : Nat) : Channel := ⟨powerOfTwo buffer, [], 0⟩

/-- Publishes a line; the oldest one makes room for it. -/
def publish (c : Channel) (line : String) : Channel :=
  let lines := c.kept ++ [line]
  { c with kept := lines.drop (lines.length - c.capacity), published := c.published + 1 }

/-- The number of the oldest line that is still there, counting all lines from zero. -/
def oldest (c : Channel) : Nat := c.published - c.kept.length

/-- What a subscriber gets when it asks for its next line. -/
inductive Received where
  | line (text : String)
  /-- Some lines are gone. -/
  | skipped (count : Nat)
  /-- Nothing was published that it has not seen. -/
  | nothing
deriving DecidableEq

/-- The next line of a subscriber that has seen, or skipped, so many lines. -/
def receive (c : Channel) (seen : Nat) : Received × Nat :=
  if seen < c.oldest then (.skipped (c.oldest - seen), c.oldest)
  else match c.kept[seen - c.oldest]? with
    | some text => (.line text, seen + 1)
    | none => (.nothing, seen)

/-! ## Laws -/

theorem le_powerOfTwo (n : Nat) : n ≤ powerOfTwo n := by
  unfold powerOfTwo
  split
  · assumption
  · have h : n - 1 < Word.count (Nat.log2 (n - 1) + 1) := Nat.lt_log2_self
    omega

theorem powerOfTwo_pos (n : Nat) : 0 < powerOfTwo n := by
  unfold powerOfTwo
  split
  · exact Nat.one_pos
  · exact Word.count_pos _

/-- A channel never keeps more than its capacity. -/
theorem length_kept_publish_le (c : Channel) (line : String) :
    (c.publish line).kept.length ≤ c.capacity := by
  simp [publish]
  omega

end Channel

end TaskMessaging
