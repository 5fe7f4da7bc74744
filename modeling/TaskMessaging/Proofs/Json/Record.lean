import Mathlib.Data.List.Nodup
import TaskMessaging.Json.Value

/-!
# Records in JSON

A record is read off an object by the names of its fields, so neither the order of the members nor
the members of other names matter. `Carries names given v` says that the object `v` has exactly the
members `given` among those with the names of fields, and what is read off such an object is a
function of `given` alone.
-/

namespace TaskMessaging.Json.Value

variable {names : List String} {given ms extras : List (String × Value)} {v : Value} {n : String}

/-- Neither an array nor an object. -/
def IsScalar : Value → Prop
  | .array _ | .object _ => False
  | _ => True

/-- An object with these fields of a record in any order, and beside them with scalars under names
of no field. -/
inductive Carries (names : List String) (given : List (String × Value)) : Value → Prop where
  | intro {extras ms : List (String × Value)} : ms.Perm (given ++ extras) →
      (∀ m ∈ extras, m.1 ∉ names ∧ m.2.IsScalar) → Carries names given (.object ms)

theorem carries_self (names : List String) (given : List (String × Value)) :
    Carries names given (.object given) := by
  have hperm : given.Perm (given ++ []) := by rw [List.append_nil]
  exact .intro hperm (List.forall_mem_nil _)

/-! ## Occurrences -/

theorem occurrences_eq_zero : occurrences n ms = 0 ↔ n ∉ ms.map (·.1) := by
  rw [occurrences, List.countP_eq_zero, List.mem_map]
  constructor
  · rintro h ⟨m, hm, rfl⟩
    exact h m hm BEq.rfl
  · exact fun h m hm heq ↦ h ⟨m, hm, eq_of_beq heq⟩

theorem occurrences_append (n : String) (ms others : List (String × Value)) :
    occurrences n (ms ++ others) = occurrences n ms + occurrences n others := List.countP_append

theorem occurrences_le_one (h : (ms.map (·.1)).Nodup) (n : String) : occurrences n ms ≤ 1 := by
  have hcount := List.nodup_iff_count_le_one.mp h n
  rwa [List.count_eq_countP, List.countP_map] at hcount

theorem occurrences_perm {others : List (String × Value)} (h : ms.Perm others) (n : String) :
    occurrences n ms = occurrences n others := h.countP_eq _

theorem mem_of_lookup (h : ms.lookup n = some v) : (n, v) ∈ ms := by
  obtain ⟨before, after, rfl, -⟩ := List.lookup_eq_some_iff.mp h
  exact List.mem_append_right _ List.mem_cons_self

/-- A member that is not repeated is found. -/
theorem lookup_of_mem (hm : (n, v) ∈ ms) (h : occurrences n ms ≤ 1) : ms.lookup n = some v := by
  obtain ⟨before, after, rfl⟩ := List.append_of_mem hm
  refine List.lookup_eq_some_iff.mpr ⟨before, after, rfl, fun m hmem ↦ ?_⟩
  -- One that came before it would be a second one.
  have hhere : occurrences n ((n, v) :: after) ≠ 0 := fun hzero ↦
    occurrences_eq_zero.mp hzero List.mem_cons_self
  rw [occurrences_append] at h
  have hbefore : occurrences n before = 0 := by omega
  rw [bne_iff_ne]
  rintro rfl
  exact occurrences_eq_zero.mp hbefore (List.mem_map_of_mem hmem)

/-- The order does not matter. -/
theorem lookup_perm {others : List (String × Value)} (hp : ms.Perm others)
    (h : occurrences n ms ≤ 1) : ms.lookup n = others.lookup n := by
  refine Option.ext fun v ↦ ⟨fun hv ↦ ?_, fun hv ↦ ?_⟩
  · exact lookup_of_mem (hp.mem_iff.mp (mem_of_lookup hv)) (occurrences_perm hp n ▸ h)
  · exact lookup_of_mem (hp.mem_iff.mpr (mem_of_lookup hv)) h

/-! ## Fields -/

/-- What is read off an object is what it carries. -/
theorem Carries.fields? (h : Carries names given v) (hnodup : (given.map (·.1)).Nodup) :
    v.fields? names = some (names.map fun n ↦ given.lookup n) := by
  cases h with
  | @intro extras ms hperm hextras =>
    have hextra : ∀ n ∈ names, n ∉ extras.map (·.1) := by
      rintro n hn hmem
      obtain ⟨m, hm, rfl⟩ := List.mem_map.mp hmem
      exact (hextras m hm).1 hn
    have honce : ∀ n ∈ names, occurrences n ms ≤ 1 := fun n hn ↦ by
      rw [occurrences_perm hperm, occurrences_append, occurrences_eq_zero.mpr (hextra n hn)]
      exact occurrences_le_one hnodup n
    have hall : (names.all fun n ↦ occurrences n ms ≤ 1) = true :=
      List.all_eq_true.mpr fun n hn ↦ decide_eq_true (honce n hn)
    rw [Value.fields?, if_pos hall]
    refine congrArg some (List.map_congr_left fun n hn ↦ ?_)
    have hnone : extras.lookup n = none := by
      rw [List.lookup_eq_none_iff]
      rintro m hm
      rw [bne_iff_ne]
      rintro rfl
      exact hextra _ hn (List.mem_map_of_mem hm)
    rw [lookup_perm hperm (honce n hn), List.lookup_append, hnone, Option.or_none]

/-- Some of the members, chosen by their names. -/
def chosen (choice : String → Bool) (ms : List (String × Value)) : List (String × Value) :=
  ms.filter fun m ↦ choice m.1

theorem chosen_all (ms : List (String × Value)) : chosen (fun _ ↦ true) ms = ms :=
  List.filter_eq_self.mpr fun _ _ ↦ rfl

/-- A member is found among those that were chosen if it is one of them. -/
theorem lookup_chosen (choice : String → Bool) (hnodup : (ms.map (·.1)).Nodup)
    {m : String × Value} (hm : m ∈ ms) :
    (chosen choice ms).lookup m.1 = if choice m.1 then some m.2 else none := by
  have hnodup' : ((chosen choice ms).map (·.1)).Nodup := hnodup.sublist (List.filter_sublist.map _)
  cases hc : choice m.1 with
  | true => exact lookup_of_mem (List.mem_filter.mpr ⟨hm, hc⟩) (occurrences_le_one hnodup' _)
  | false =>
    refine List.lookup_eq_none_iff.mpr fun other hother ↦ ?_
    rw [bne_iff_ne]
    intro heq
    have htrue := (List.mem_filter.mp hother).2
    rw [← heq, hc] at htrue
    cases htrue

/-- What is read off an object with some of the fields of a record. -/
theorem Carries.fields?_chosen {choice : String → Bool}
    (h : Carries names (chosen choice ms) v) (hnames : ms.map (·.1) = names)
    (hnodup : names.Nodup) :
    v.fields? names = some (ms.map fun m ↦ if choice m.1 then some m.2 else none) := by
  subst hnames
  rw [h.fields? (hnodup.sublist (List.filter_sublist.map _)), List.map_map]
  exact congrArg some (List.map_congr_left fun m hm ↦ lookup_chosen choice hnodup hm)

end TaskMessaging.Json.Value
