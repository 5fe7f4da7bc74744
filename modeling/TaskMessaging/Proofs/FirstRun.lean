/-!
# First runs

Pools are kept by size and appointments by deadline, so what a bound selects of them is a first run:
the elements in front of the first one beyond the bound.
-/

namespace TaskMessaging

variable {α : Type} {P Q : α → Bool} {l : List α}

/-- Where a property only ever stops to hold, its first run is all of its occurrences. -/
theorem takeWhile_eq_filter (h : l.Pairwise fun x y ↦ P y = true → P x = true) :
    l.takeWhile P = l.filter P := by
  induction l with
  | nil => rfl
  | cons x l ih =>
    obtain ⟨hx, hl⟩ := List.pairwise_cons.mp h
    by_cases hP : P x = true
    · rw [List.takeWhile_cons_of_pos hP, List.filter_cons_of_pos hP, ih hl]
    · rw [List.takeWhile_cons_of_neg hP, List.filter_cons_of_neg hP, eq_comm,
        List.filter_eq_nil_iff]
      exact fun y hy hPy ↦ hP (hx y hy hPy)

/-- Behind the first run of such a property it does not hold. -/
theorem not_of_mem_dropWhile (h : l.Pairwise fun x y ↦ P y = true → P x = true) {y : α}
    (hy : y ∈ l.dropWhile P) : P y = false := by
  induction l with
  | nil => simp at hy
  | cons x l ih =>
    obtain ⟨hx, hl⟩ := List.pairwise_cons.mp h
    by_cases hP : P x = true
    · rw [List.dropWhile_cons_of_pos hP] at hy
      exact ih hl hy
    · rw [List.dropWhile_cons_of_neg hP] at hy
      rcases List.mem_cons.mp hy with rfl | hmem
      · exact Bool.eq_false_iff.mpr hP
      · exact Bool.eq_false_iff.mpr fun hPy ↦ hP (hx y hmem hPy)

theorem dropWhile_eq_filter (h : l.Pairwise fun x y ↦ P y = true → P x = true) :
    l.dropWhile P = l.filter fun x ↦ !P x := by
  have hfirst : (l.takeWhile P).filter (fun x ↦ !P x) = [] := by
    rw [List.filter_eq_nil_iff]
    intro x hx
    rw [List.all_eq_true.mp List.all_takeWhile x hx]
    exact Bool.false_ne_true
  have hrest : (l.dropWhile P).filter (fun x ↦ !P x) = l.dropWhile P := by
    rw [List.filter_eq_self]
    intro x hx
    rw [not_of_mem_dropWhile h hx, Bool.not_false]
  have hsplit := congrArg (List.filter fun x ↦ !P x)
    (List.takeWhile_append_dropWhile (p := P) (l := l))
  rw [List.filter_append, hfirst, hrest, List.nil_append] at hsplit
  exact hsplit

/-! ## Two bounds -/

/-- Up to the wider bound are the elements up to the narrower one, and behind them the rest. -/
theorem takeWhile_append_takeWhile (h : ∀ x, P x = true → Q x = true) :
    l.takeWhile P ++ (l.dropWhile P).takeWhile Q = l.takeWhile Q := by
  induction l with
  | nil => rfl
  | cons x l ih =>
    by_cases hP : P x = true
    · rw [List.takeWhile_cons_of_pos hP, List.dropWhile_cons_of_pos hP,
        List.takeWhile_cons_of_pos (h x hP), List.cons_append, ih]
    · rw [List.takeWhile_cons_of_neg hP, List.dropWhile_cons_of_neg hP, List.nil_append]

theorem dropWhile_dropWhile (h : ∀ x, P x = true → Q x = true) :
    (l.dropWhile P).dropWhile Q = l.dropWhile Q := by
  induction l with
  | nil => rfl
  | cons x l ih =>
    by_cases hP : P x = true
    · rw [List.dropWhile_cons_of_pos hP, List.dropWhile_cons_of_pos (h x hP), ih]
    · rw [List.dropWhile_cons_of_neg hP]

/-- Behind the wider bound nothing is left up to the narrower one. -/
theorem takeWhile_dropWhile (h : ∀ x, P x = true → Q x = true) :
    (l.dropWhile Q).takeWhile P = [] := by
  induction l with
  | nil => rfl
  | cons x l ih =>
    by_cases hQ : Q x = true
    · rw [List.dropWhile_cons_of_pos hQ, ih]
    · rw [List.dropWhile_cons_of_neg hQ, List.takeWhile_cons_of_neg fun hP ↦ hQ (h x hP)]

end TaskMessaging
