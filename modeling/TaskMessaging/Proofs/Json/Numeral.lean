import Mathlib.Data.List.Induction
import TaskMessaging.Json.Render
import TaskMessaging.Json.Token

/-!
# Numerals

The grammar of numerals, with the number that each of them stands for: a sign, digits without a
needless zero in front, a fraction and an exponent, all but the digits being optional. A number that
is written as digits alone is *plain*, which a reader may insist on; so `1` and `1.0` are spellings
of different numbers here.
-/

namespace TaskMessaging.Json

open Decimal (isDigit)

/-! ## The grammar -/

/-- At least one digit. -/
structure Digits (ds : List Char) : Prop where
  ne_nil : ds ≠ []
  digit : ∀ d ∈ ds, isDigit d = true

/-- Digits without a needless zero in front. -/
structure Whole (ds : List Char) : Prop extends Digits ds where
  zero_alone : ds.head? = some '0' → ds.length = 1

/-- A fraction, by its digits. -/
inductive Fraction : List Char → List Char → Prop where
  | absent : Fraction [] []
  | places {ds : List Char} : Digits ds → Fraction ds ('.' :: ds)

/-- An exponent, by its value. -/
inductive Exponent : Option Int → List Char → Prop where
  | absent : Exponent none []
  | unsigned {e : Char} {ds : List Char} : e = 'e' ∨ e = 'E' → Digits ds →
      Exponent (some (Decimal.value ds)) (e :: ds)
  | plus {e : Char} {ds : List Char} : e = 'e' ∨ e = 'E' → Digits ds →
      Exponent (some (Decimal.value ds)) (e :: '+' :: ds)
  | minus {e : Char} {ds : List Char} : e = 'e' ∨ e = 'E' → Digits ds →
      Exponent (some (-Decimal.value ds)) (e :: '-' :: ds)

/-- A numeral, by the number that it stands for. -/
inductive Numeral : Number → List Char → Prop where
  | intro (negative : Bool) {whole places fraction tail : List Char} {e : Option Int} :
      Whole whole → Fraction places fraction → Exponent e tail →
      Numeral
        ⟨negative, Decimal.value (whole ++ places), e.getD 0 - places.length,
          places.isEmpty && e.isNone⟩
        ((if negative then ['-'] else []) ++ whole ++ fraction ++ tail)

variable {ds cs : List Char} {c : Char} {n : Number}

/-! ## Characters -/

/-- A digit is none of the other characters. -/
theorem ne_of_isDigit {d : Char} (hd : isDigit d = true) (hc : isDigit c = false) : d ≠ c := by
  rintro rfl
  rw [hd] at hc
  cases hc

theorem Digits.exists_cons (h : Digits ds) : ∃ d rest, ds = d :: rest ∧ isDigit d = true := by
  cases ds with
  | nil => exact absurd rfl h.ne_nil
  | cons d rest => exact ⟨d, rest, rfl, h.digit d List.mem_cons_self⟩

/-- What comes behind digits ends them. -/
def Ends (cs : List Char) : Prop := ∀ c, cs.head? = some c → isDigit c = false

theorem takeWhile_digits (h : ∀ d ∈ ds, isDigit d = true) (hcs : Ends cs) :
    (ds ++ cs).takeWhile isDigit = ds := by
  rw [List.takeWhile_append_of_pos h]
  cases cs with
  | nil => rw [List.takeWhile_nil, List.append_nil]
  | cons c cs =>
    rw [List.takeWhile_cons_of_neg (by rw [hcs c rfl]; exact Bool.false_ne_true), List.append_nil]

theorem dropWhile_digits (h : ∀ d ∈ ds, isDigit d = true) (hcs : Ends cs) :
    (ds ++ cs).dropWhile isDigit = cs := by
  rw [List.dropWhile_append_of_pos h]
  cases cs with
  | nil => rfl
  | cons c cs =>
    rw [List.dropWhile_cons_of_neg (by rw [hcs c rfl]; exact Bool.false_ne_true)]

theorem Exponent.ends {e : Option Int} (h : Exponent e cs) : Ends cs := by
  rintro c hc
  cases h with
  | absent => cases hc
  | unsigned he | plus he | minus he =>
    obtain rfl := Option.some.inj hc
    rcases he with rfl | rfl <;> rfl

theorem Fraction.ends {places fraction : List Char} (h : Fraction places fraction)
    (hcs : Ends cs) : Ends (fraction ++ cs) := by
  cases h with
  | absent => exact hcs
  | places =>
    rintro c hc
    obtain rfl := Option.some.inj hc
    rfl

/-! ## Reading -/

theorem Digits.read? (h : Digits ds) : Decimal.read? ds = some (Decimal.value ds) := by
  rw [Decimal.read?, if_pos ⟨h.ne_nil, List.all_eq_true.mpr h.digit⟩]

theorem Exponent.readTail? {e : Option Int} (h : Exponent e cs) (negative : Bool)
    (mantissa places : Nat) (plain : Bool) :
    Number.readTail? negative mantissa places plain cs =
      some ⟨negative, mantissa, e.getD 0 - places, plain && e.isNone⟩ := by
  cases h with
  | absent => simp [Number.readTail?]
  | @unsigned e ds he hds =>
    obtain ⟨d, rest, rfl, hd⟩ := hds.exists_cons
    have hread : Number.readExponent? (d :: rest) = some (Decimal.value (d :: rest) : Int) := by
      rw [Number.readExponent?, hds.read?]
      · rfl
      · rintro ds' h
        exact ne_of_isDigit hd rfl (List.cons.inj h).1
      · rintro ds' h
        exact ne_of_isDigit hd rfl (List.cons.inj h).1
    simp [Number.readTail?, he, hread]
  | plus he hds => simp [Number.readTail?, Number.readExponent?, he, hds.read?]
  | minus he hds => simp [Number.readTail?, Number.readExponent?, he, hds.read?]

theorem readUnsigned?_eq {whole places fraction tail : List Char} {e : Option Int}
    (hw : Whole whole) (hf : Fraction places fraction) (he : Exponent e tail) (negative : Bool) :
    Number.readUnsigned? negative (whole ++ (fraction ++ tail)) =
      some ⟨negative, Decimal.value (whole ++ places), e.getD 0 - places.length,
        places.isEmpty && e.isNone⟩ := by
  have hends := hf.ends he.ends
  have hzero : ¬ (whole = [] ∨ whole.head? = some '0' ∧ 1 < whole.length) := by
    rintro (h | ⟨h, hlt⟩)
    · exact hw.ne_nil h
    · rw [hw.zero_alone h] at hlt
      exact Nat.lt_irrefl _ hlt
  rw [Number.readUnsigned?]
  simp only [takeWhile_digits hw.digit hends, dropWhile_digits hw.digit hends, if_neg hzero]
  cases hf with
  | absent =>
    rw [List.nil_append, List.append_nil]
    have htail := he.readTail? negative (Decimal.value whole) 0 true
    cases he with
    | absent => exact htail
    | unsigned h | plus h | minus h => rcases h with rfl | rfl <;> exact htail
  | places hp =>
    simp only [List.cons_append, takeWhile_digits hp.digit he.ends,
      dropWhile_digits hp.digit he.ends, if_neg hp.ne_nil, he.readTail?]
    cases places with
    | nil => exact absurd rfl hp.ne_nil
    | cons => rfl

/-- A numeral is read as the number that it stands for. -/
theorem Numeral.read? (h : Numeral n cs) : Number.read? cs = some n := by
  cases h with
  | intro negative hw hf he =>
    have hread := readUnsigned?_eq hw hf he negative
    rw [List.append_assoc, List.append_assoc]
    cases negative with
    | true => exact hread
    | false =>
      obtain ⟨d, rest, rfl, hd⟩ := hw.exists_cons
      rw [if_neg Bool.false_ne_true, List.nil_append, Number.read?]
      · exact hread
      · intro ds' h
        exact ne_of_isDigit hd rfl (List.cons.inj h).1

/-! ## Scanning -/

theorem isNumeral_of_isDigit (h : isDigit c = true) : Scanner.isNumeral c = true := by
  simp [Scanner.isNumeral, h]

theorem Exponent.isNumeral {e : Option Int} (h : Exponent e cs) :
    ∀ c ∈ cs, Scanner.isNumeral c = true := by
  have hdigits {ds : List Char} (hds : Digits ds) : ∀ d ∈ ds, Scanner.isNumeral d = true :=
    fun d hd ↦ isNumeral_of_isDigit (hds.digit d hd)
  cases h with
  | absent => exact List.forall_mem_nil _
  | unsigned he hds =>
    refine List.forall_mem_cons.mpr ⟨?_, hdigits hds⟩
    rcases he with rfl | rfl <;> rfl
  | plus he hds | minus he hds =>
    refine List.forall_mem_cons.mpr ⟨?_, List.forall_mem_cons.mpr ⟨rfl, hdigits hds⟩⟩
    rcases he with rfl | rfl <;> rfl

theorem Numeral.isNumeral (h : Numeral n cs) : ∀ c ∈ cs, Scanner.isNumeral c = true := by
  cases h with
  | intro negative hw hf he =>
    refine List.forall_mem_append.mpr ⟨List.forall_mem_append.mpr
      ⟨List.forall_mem_append.mpr ⟨?_, fun d hd ↦ isNumeral_of_isDigit (hw.digit d hd)⟩, ?_⟩,
      he.isNumeral⟩
    · cases negative
      · exact List.forall_mem_nil _
      · exact List.forall_mem_cons.mpr ⟨rfl, List.forall_mem_nil _⟩
    · cases hf with
      | absent => exact List.forall_mem_nil _
      | places hp =>
        exact List.forall_mem_cons.mpr ⟨rfl, fun d hd ↦ isNumeral_of_isDigit (hp.digit d hd)⟩

/-- A numeral starts with a sign or a digit. -/
theorem Numeral.exists_cons (h : Numeral n cs) :
    ∃ c rest, cs = c :: rest ∧ (isDigit c || c = '-') = true := by
  cases h with
  | intro negative hw =>
    obtain ⟨d, rest, rfl, hd⟩ := hw.exists_cons
    cases negative with
    | true => exact ⟨'-', _, rfl, rfl⟩
    | false => exact ⟨d, _, rfl, by rw [hd, Bool.true_or]⟩

/-! ## What is read -/

theorem digits_of_read? {m : Nat} (h : Decimal.read? cs = some m) :
    Digits cs ∧ Decimal.value cs = m := by
  rw [Decimal.read?] at h
  split at h
  · next hcs => exact ⟨⟨hcs.1, List.all_eq_true.mp hcs.2⟩, Option.some.inj h⟩
  · cases h

theorem exponent_of_readTail? {negative plain : Bool} {mantissa places : Nat}
    (h : Number.readTail? negative mantissa places plain cs = some n) :
    ∃ e, Exponent e cs ∧ n = ⟨negative, mantissa, e.getD 0 - places, plain && e.isNone⟩ := by
  cases cs with
  | nil =>
    refine ⟨none, .absent, (Option.some.inj h).symm.trans ?_⟩
    simp
  | cons c cs =>
    rw [Number.readTail?] at h
    split at h
    · next hc =>
      obtain ⟨e, he, rfl⟩ := Option.map_eq_some_iff.mp h
      refine ⟨some e, ?_, by simp⟩
      rw [Number.readExponent?.eq_def] at he
      split at he
      all_goals
        obtain ⟨m, hm, rfl⟩ := Option.map_eq_some_iff.mp he
        obtain ⟨hds, rfl⟩ := digits_of_read? hm
      · exact .plus hc hds
      · exact .minus hc hds
      · exact .unsigned hc hds
    · cases h

theorem isDigit_takeWhile (cs : List Char) : ∀ c ∈ cs.takeWhile isDigit, isDigit c = true :=
  List.all_eq_true.mp List.all_takeWhile

theorem numeral_of_readUnsigned? {negative : Bool}
    (h : Number.readUnsigned? negative cs = some n) :
    Numeral n ((if negative then ['-'] else []) ++ cs) := by
  have hcs := List.takeWhile_append_dropWhile (p := isDigit) (l := cs)
  have hdigits := isDigit_takeWhile cs
  simp only [Number.readUnsigned?] at h
  generalize cs.takeWhile isDigit = whole at h hcs hdigits
  generalize cs.dropWhile isDigit = rest at h hcs
  subst hcs
  split at h
  · cases h
  · next hzero =>
    have hwhole : Whole whole := by
      refine ⟨⟨fun hnil ↦ hzero (Or.inl hnil), hdigits⟩, fun hhead ↦ ?_⟩
      have hpos := List.length_pos_of_mem (List.mem_of_head? hhead)
      have hle : ¬ 1 < whole.length := fun hlt ↦ hzero (Or.inr ⟨hhead, hlt⟩)
      omega
    split at h
    · next rest =>
      split at h
      · cases h
      · next hplaces =>
        obtain ⟨e, he, rfl⟩ := exponent_of_readTail? h
        have hp : Digits (rest.takeWhile isDigit) := ⟨hplaces, isDigit_takeWhile rest⟩
        have hn := Numeral.intro negative hwhole (.places hp) he
        rw [List.isEmpty_eq_false_iff.mpr hplaces, List.append_assoc, List.append_assoc,
          List.cons_append, List.takeWhile_append_dropWhile] at hn
        exact hn
    · obtain ⟨e, he, rfl⟩ := exponent_of_readTail? h
      have hn := Numeral.intro negative hwhole .absent he
      rw [List.append_nil, List.append_nil, List.append_assoc] at hn
      exact hn

/-- What is read as a number is a numeral that stands for it. -/
theorem numeral_of_read? (h : Number.read? cs = some n) : Numeral n cs := by
  rw [Number.read?.eq_def] at h
  split at h
  · exact numeral_of_readUnsigned? h
  · exact numeral_of_readUnsigned? h

/-- The numerals of a natural number, as a reader insists on that takes no others. -/
theorem exists_numeral_natural {m : Nat} :
    (∃ n, Numeral n cs ∧ n.natural? = some m) ↔ Whole cs ∧ Decimal.value cs = m := by
  constructor
  · rintro ⟨n, h, hm⟩
    cases h with
    | @intro negative whole places fraction tail e hw hf he =>
      rw [Number.natural?] at hm
      split at hm
      · next hplain =>
        simp only [Bool.and_eq_true, Bool.not_eq_true', List.isEmpty_iff,
          Option.isNone_iff_eq_none] at hplain
        obtain ⟨⟨rfl, rfl⟩, rfl⟩ := hplain
        cases he
        cases hf with
        | absent =>
          rw [List.append_nil] at hm
          exact ⟨by simpa using hw, by simpa using hm⟩
        | places hp => exact absurd rfl hp.ne_nil
      · cases hm
  · rintro ⟨hw, rfl⟩
    have hn := Numeral.intro false hw .absent .absent
    rw [List.append_nil, List.append_nil, List.append_nil] at hn
    exact ⟨_, hn, rfl⟩

/-! ## Writing -/

theorem head?_digits {m : Nat} (h : 0 < m) : (Decimal.digits m).head? ≠ some '0' := by
  induction m using Nat.strongRecOn with
  | ind m ih =>
    rw [Decimal.digits]
    split
    · next hlt =>
      have hnonzero : ∀ d : Fin 10, 0 < d.val → Decimal.digitChar d ≠ '0' := by decide
      exact fun h0 ↦ hnonzero ⟨m, hlt⟩ h (Option.some.inj h0)
    · next hge =>
      have hrest := ih (m / 10) (by omega) (by omega)
      obtain ⟨d, ds, hd⟩ := List.exists_cons_of_ne_nil (Decimal.digits_ne_nil (m / 10))
      rw [hd] at hrest ⊢
      exact hrest

theorem digits_digits (m : Nat) : Digits (Decimal.digits m) :=
  ⟨Decimal.digits_ne_nil m, Decimal.isDigit_of_mem_digits m⟩

theorem whole_digits (m : Nat) : Whole (Decimal.digits m) := by
  refine ⟨digits_digits m, fun hzero ↦ ?_⟩
  rcases Nat.eq_zero_or_pos m with rfl | hpos
  · rw [Decimal.digits]
    rfl
  · exact absurd hzero (head?_digits hpos)

theorem digitValue_lt {d : Char} (h : isDigit d = true) : Decimal.digitValue d < 10 := by
  rw [isDigit, Bool.and_eq_true, decide_eq_true_iff, decide_eq_true_iff] at h
  rw [Decimal.digitValue]
  omega

theorem digitChar_digitValue {d : Char} (h : isDigit d = true) :
    Decimal.digitChar (Decimal.digitValue d) = d := by
  rw [← Char.toNat_inj, Decimal.digitChar_toNat (digitValue_lt h), Decimal.digitValue]
  rw [isDigit, Bool.and_eq_true, decide_eq_true_iff, decide_eq_true_iff] at h
  omega

/-- In front of another digit there is no zero. -/
theorem Whole.head?_ne_zero {d : Char} (h : Whole (ds ++ [d])) (hne : ds ≠ []) :
    ds.head? ≠ some '0' := by
  intro hzero
  have hlen := h.zero_alone (by rw [List.head?_append, hzero]; rfl)
  rw [List.length_append, List.length_singleton] at hlen
  exact absurd (List.length_pos_iff.mpr hne) (by omega)

/-- A number has one numeral without a needless zero. -/
theorem Whole.eq_digits (h : Whole ds) : ds = Decimal.digits (Decimal.value ds) := by
  induction ds using List.reverseRecOn with
  | nil => exact absurd rfl h.ne_nil
  | append_singleton ds d ih =>
    have hd : isDigit d = true := h.digit d (List.mem_append_right _ List.mem_cons_self)
    have hlt := digitValue_lt hd
    rw [Decimal.value_concat]
    by_cases hne : ds = []
    · subst hne
      have hvalue : 10 * Decimal.value [] + Decimal.digitValue d = Decimal.digitValue d :=
        Nat.zero_add _
      rw [hvalue, Decimal.digits, if_pos hlt, digitChar_digitValue hd]
      rfl
    · have hhead := h.head?_ne_zero hne
      have hinit : Digits ds := ⟨hne, fun c hc ↦ h.digit c (List.mem_append_left _ hc)⟩
      have hds := ih ⟨hinit, fun hzero ↦ absurd hzero hhead⟩
      have hpos : Decimal.value ds ≠ 0 := by
        intro hzero
        rw [hds, hzero, Decimal.digits] at hhead
        exact hhead rfl
      have hdiv : (10 * Decimal.value ds + Decimal.digitValue d) / 10 = Decimal.value ds := by omega
      have hmod : (10 * Decimal.value ds + Decimal.digitValue d) % 10 = Decimal.digitValue d := by
        omega
      rw [Decimal.digits, if_neg (by omega), hdiv, hmod, digitChar_digitValue hd, ← hds]

theorem exponent_intText (e : Int) : Exponent (some e) ('e' :: (Decimal.intText e).toList) := by
  cases e with
  | ofNat m =>
    have h := Exponent.unsigned (Or.inl rfl) (digits_digits m)
    rw [Decimal.value_digits] at h
    rw [Decimal.intText, Decimal.text, String.toList_ofList]
    exact h
  | negSucc m =>
    have h := Exponent.minus (Or.inl rfl) (digits_digits (m + 1))
    rw [Decimal.value_digits] at h
    rw [Decimal.intText, String.toList_ofList]
    exact h

/-- A number is written as a numeral that stands for it, provided that its exponent can be left out
where it is plain. -/
theorem numeral_render (h : n.plain = true → n.exponent = 0) : Numeral n n.render := by
  obtain ⟨negative, mantissa, exponent, plain⟩ := n
  rw [Number.render]
  cases plain with
  | true =>
    obtain rfl : exponent = 0 := h rfl
    have hn := Numeral.intro negative (whole_digits mantissa) .absent .absent
    rw [List.append_nil, Decimal.value_digits, List.append_nil] at hn
    exact hn
  | false =>
    have hn := Numeral.intro negative (whole_digits mantissa) .absent (exponent_intText exponent)
    rw [List.append_nil, Decimal.value_digits, List.append_nil, Option.getD_some] at hn
    simpa using hn

end TaskMessaging.Json
