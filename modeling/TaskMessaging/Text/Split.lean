/-!
# Splitting at a mark

The parts of a text between the occurrences of one character. There is one part more than there
are marks, and the parts with the mark between them are the text again.
-/

namespace TaskMessaging.Text

/-- The parts between the marks. -/
def splitAt (mark : Char) : List Char → List (List Char)
  | [] => [[]]
  | c :: cs =>
    if c = mark then [] :: splitAt mark cs
    else match splitAt mark cs with
      | part :: parts => (c :: part) :: parts
      | [] => [[c]]

theorem length_splitAt (mark : Char) (cs : List Char) :
    (splitAt mark cs).length = cs.count mark + 1 := by
  induction cs with
  | nil => rfl
  | cons c cs ih =>
    unfold splitAt
    split
    · next h => simp [h, ih]
    · next h =>
      split
      · next hp => simp_all
      · next hp => simp_all

/-- No part holds the mark. -/
theorem not_mem_of_mem_splitAt {mark : Char} {cs part : List Char}
    (h : part ∈ splitAt mark cs) : mark ∉ part := by
  induction cs generalizing part with
  | nil => simp_all [splitAt]
  | cons c cs ih =>
    unfold splitAt at h
    split at h
    · rcases List.mem_cons.1 h with rfl | h
      · simp
      · exact ih h
    · next hc =>
      split at h
      · next hp =>
        rw [hp] at ih
        rcases List.mem_cons.1 h with rfl | h
        · simp only [List.mem_cons, not_or]
          exact ⟨Ne.symm hc, ih List.mem_cons_self⟩
        · exact ih (List.mem_cons_of_mem _ h)
      · simp only [List.mem_singleton] at h
        subst h
        simpa using Ne.symm hc

/-- The parts with the mark between them are the text. -/
theorem intercalate_splitAt (mark : Char) (cs : List Char) :
    List.intercalate [mark] (splitAt mark cs) = cs := by
  induction cs with
  | nil => rfl
  | cons c cs ih =>
    have hn : splitAt mark cs ≠ [] := by
      intro h
      have := length_splitAt mark cs
      simp [h] at this
    unfold splitAt
    split
    · next h =>
      subst h
      cases hp : splitAt c cs with
      | nil => exact absurd hp hn
      | cons part parts => rw [hp] at ih; simp [← ih]
    · split
      · next hp =>
        rw [hp] at ih
        rw [← ih]
        rename_i parts _
        cases parts <;> simp
      · next hp => exact absurd hp hn

end TaskMessaging.Text
