import Mathlib.Data.List.Forall2
import TaskMessaging.Json.Render
import TaskMessaging.Json.Token

/-!
# Strings

The grammar of strings, with the text that each of them stands for. A string is a list of *items*:
characters, written as themselves or behind a backslash, and code units, written by four hexadecimal
digits. Two code units that are the halves of a pair are one character together; a half without the
other is legal to write, but then the string is no text.

The scanner does not know yet whether a first half will get its other half, so it holds the half
back. What it makes of the rest of a string is therefore said of the items that are still to come
with that half in front of them.
-/

namespace TaskMessaging.Json

open Scanner (escaped?)
open Text

/-! ## The grammar -/

/-- A part of a string. -/
inductive Item where
  | char (c : Char)
  | unit (u : Nat)

/-- How a part is written. -/
inductive Item.Writes : Item → List Char → Prop where
  | raw {c : Char} : c ≠ '"' → c ≠ '\\' → 32 ≤ c.toNat → Writes (.char c) [c]
  | short {e c : Char} : escaped? e = some c → Writes (.char c) ['\\', e]
  | code {d₃ d₂ d₁ d₀ : Char} {v₃ v₂ v₁ v₀ : Nat} : Hex.value? d₃ = some v₃ →
      Hex.value? d₂ = some v₂ → Hex.value? d₁ = some v₁ → Hex.value? d₀ = some v₀ →
      Writes (.unit (16 * (16 * (16 * v₃ + v₂) + v₁) + v₀)) ['\\', 'u', d₃, d₂, d₁, d₀]

/-- The first half of a pair. -/
def IsHigh (u : Nat) : Prop := 0xD800 ≤ u ∧ u < 0xDC00

/-- The second half of a pair. -/
def IsLow (u : Nat) : Prop := 0xDC00 ≤ u ∧ u < 0xE000

instance (u : Nat) : Decidable (IsHigh u) := inferInstanceAs (Decidable (_ ∧ _))

instance (u : Nat) : Decidable (IsLow u) := inferInstanceAs (Decidable (_ ∧ _))

/-- The character of a pair. -/
def ofPair (high low : Nat) : Char :=
  .ofNat (0x10000 + (high - 0xD800) * 0x400 + (low - 0xDC00))

/-- The text that the parts of a string make, if it is one. -/
def text? : List Item → Option (List Char)
  | [] => some []
  | .char c :: items => (text? items).map (c :: ·)
  | .unit u :: .unit v :: items =>
    if IsHigh u ∧ IsLow v then (text? items).map (ofPair u v :: ·)
    else if IsHigh u ∨ IsLow u then none
    else (text? (.unit v :: items)).map (Char.ofNat u :: ·)
  | .unit u :: items =>
    if IsHigh u ∨ IsLow u then none else (text? items).map (Char.ofNat u :: ·)

/-- A string with its quotes, by its text. -/
inductive Quoted : Option String → List Char → Prop where
  | intro {items : List Item} {parts : List (List Char)} : List.Forall₂ Item.Writes items parts →
      Quoted ((text? items).map String.ofList) ('"' :: parts.flatten ++ ['"'])

variable {item : Item} {items : List Item} {parts : List (List Char)} {cs : List Char} {u v : Nat}

/-! ## Pairs -/

theorem IsHigh.not_isLow (h : IsHigh u) : ¬ IsLow u := fun hl ↦ Nat.not_le_of_lt h.2 hl.1

theorem text?_unit (hh : ¬ IsHigh u) (hl : ¬ IsLow u) :
    text? (.unit u :: items) = (text? items).map (Char.ofNat u :: ·) := by
  rcases items with - | ⟨c | v, items⟩ <;> simp [text?, hh, hl]

theorem text?_pair (hh : IsHigh u) (hl : IsLow v) :
    text? (.unit u :: .unit v :: items) = (text? items).map (ofPair u v :: ·) := by
  rw [text?, if_pos ⟨hh, hl⟩]

/-- A half without the other makes no text. -/
theorem text?_half (h : IsHigh u ∨ IsLow u)
    (hnext : ∀ v, items.head? = some (.unit v) → ¬ (IsHigh u ∧ IsLow v)) :
    text? (.unit u :: items) = none := by
  rcases items with - | ⟨c | v, items⟩
  · simp [text?, h]
  · simp [text?, h]
  · rw [text?, if_neg (hnext v rfl), if_pos h]

theorem text?_low (h : IsLow u) : text? (.unit u :: items) = none :=
  text?_half (Or.inr h) fun _ _ hp ↦ hp.1.not_isLow h

/-! ## Scanning -/

/-- What the scanner is in after it has read a part. -/
def absorb (done : List Token) (read : List Char) (paired : Bool) (high : Option Nat) :
    Item → Scanner
  | .char c => ⟨done, .string (c :: read) (paired && high.isNone) none⟩
  | .unit u => Scanner.unit done read paired high u

theorem foldlM_writes (h : item.Writes cs) (done : List Token) (read : List Char) (paired : Bool)
    (high : Option Nat) :
    cs.foldlM Scanner.step ⟨done, .string read paired high⟩ =
      some (absorb done read paired high item) := by
  cases h with
  | raw hq hb hc => simp [Scanner.step, absorb, hq, hb, Nat.not_lt_of_le hc]
  | @short e c he =>
    have hu : e ≠ 'u' := by
      rintro rfl
      cases he
    simp [Scanner.step, absorb, he, hu]
  | code h₃ h₂ h₁ h₀ => simp [Scanner.step, absorb, h₃, h₂, h₁, h₀]

section Unit

variable {done : List Token} {read : List Char} {paired : Bool} {high : Option Nat}

theorem unit_of_isHigh (h : IsHigh u) : Scanner.unit done read paired high u =
    ⟨done, .string read (paired && high.isNone) (some u)⟩ := if_pos h

theorem unit_of_isLow (h : IsLow u) : Scanner.unit done read paired high u =
    high.elim ⟨done, .string read false none⟩
      fun v ↦ ⟨done, .string (ofPair v u :: read) paired none⟩ := by
  cases high with
  | none => exact (if_neg fun hh : IsHigh u ↦ hh.not_isLow h).trans (if_pos h)
  | some v => exact (if_neg fun hh : IsHigh u ↦ hh.not_isLow h).trans (if_pos h)

theorem unit_of_not (hh : ¬ IsHigh u) (hl : ¬ IsLow u) : Scanner.unit done read paired high u =
    ⟨done, .string (Char.ofNat u :: read) (paired && high.isNone) none⟩ :=
  (if_neg hh).trans (if_neg hl)

end Unit

/-- What becomes of a string with parts that are still to come. -/
def outcome (read : List Char) (paired : Bool) (high : Option Nat) (items : List Item) :
    Option (List Char) :=
  if paired then (text? (high.toList.map .unit ++ items)).map (read.reverse ++ ·) else none

theorem outcome_nil {read : List Char} {paired : Bool} {high : Option Nat}
    (hh : ∀ u, high = some u → IsHigh u) :
    outcome read paired high [] = if paired && high.isNone then some read.reverse else none := by
  cases high with
  | none => simp [outcome, text?]
  | some u =>
    have hhalf : text? [.unit u] = none := text?_half (Or.inl (hh u rfl)) nofun
    simp [outcome, hhalf]

/-- The scanner reads on without changing what becomes of the string. -/
theorem outcome_absorb (done : List Token) (read : List Char) (paired : Bool) (high : Option Nat)
    (hh : ∀ u, high = some u → IsHigh u) (item : Item) (items : List Item) :
    ∃ read' paired' high', absorb done read paired high item = ⟨done, .string read' paired' high'⟩ ∧
      (∀ u, high' = some u → IsHigh u) ∧
      outcome read' paired' high' items = outcome read paired high (item :: items) := by
  -- A half that was held back and does not go with what follows spoils the string.
  have hspoilt {u : Nat} {read' : List Char} {high' : Option Nat} (hu : IsHigh u)
      (hnext : ∀ v, item = .unit v → ¬ IsLow v) :
      outcome read' (paired && false) high' items =
        outcome read paired (some u) (item :: items) := by
    have hhalf : text? (.unit u :: item :: items) = none :=
      text?_half (Or.inl hu) fun v hv hp ↦ hnext v (Option.some.inj hv) hp.2
    simp [outcome, hhalf]
  cases item with
  | char c =>
    refine ⟨_, _, _, rfl, nofun, ?_⟩
    cases high with
    | none => simp [outcome, text?, Function.comp_def]
    | some u => exact hspoilt (hh u rfl) nofun
  | unit v =>
    by_cases hhigh : IsHigh v
    · rw [absorb, unit_of_isHigh hhigh]
      refine ⟨_, _, _, rfl, fun u hu ↦ Option.some.inj hu ▸ hhigh, ?_⟩
      cases high with
      | none => simp [outcome]
      | some u => exact hspoilt (hh u rfl) fun w hw ↦ Item.unit.inj hw ▸ hhigh.not_isLow
    · by_cases hlow : IsLow v
      · rw [absorb, unit_of_isLow hlow]
        cases high with
        | none =>
          refine ⟨_, _, _, rfl, nofun, ?_⟩
          simp [outcome, text?_low hlow]
        | some u =>
          refine ⟨_, _, _, rfl, nofun, ?_⟩
          simp [outcome, text?_pair (hh u rfl) hlow, Function.comp_def]
      · rw [absorb, unit_of_not hhigh hlow]
        refine ⟨_, _, _, rfl, nofun, ?_⟩
        cases high with
        | none => simp [outcome, text?_unit hhigh hlow, Function.comp_def]
        | some u => exact hspoilt (hh u rfl) fun w hw ↦ Item.unit.inj hw ▸ hlow

theorem foldlM_parts (h : List.Forall₂ Item.Writes items parts) (done : List Token)
    (read : List Char) (paired : Bool) (high : Option Nat) (hh : ∀ u, high = some u → IsHigh u) :
    ∃ read' paired' high',
      parts.flatten.foldlM Scanner.step ⟨done, .string read paired high⟩ =
        some ⟨done, .string read' paired' high'⟩ ∧ (∀ u, high' = some u → IsHigh u) ∧
      outcome read' paired' high' [] = outcome read paired high items := by
  induction h generalizing read paired high with
  | nil => exact ⟨read, paired, high, rfl, hh, rfl⟩
  | @cons item part items parts hw _ ih =>
    obtain ⟨read', paired', high', habsorb, hh', houtcome⟩ :=
      outcome_absorb done read paired high hh item items
    rw [List.flatten_cons, List.foldlM_append, foldlM_writes hw, habsorb, ← houtcome]
    exact ih read' paired' high' hh'

/-- A string is one token, by its text. -/
theorem Quoted.foldlM_step {s : Option String} (h : Quoted s cs) (done : List Token) :
    cs.foldlM Scanner.step ⟨done, .between⟩ = some ⟨.string s :: done, .between⟩ := by
  cases h with
  | @intro items parts hparts =>
    obtain ⟨read, paired, high, hrun, hh, houtcome⟩ := foldlM_parts hparts done [] true none nofun
    have hend : Scanner.step ⟨done, .string read paired high⟩ '"' =
        some ⟨.string ((outcome read paired high []).map String.ofList) :: done, .between⟩ := by
      rw [outcome_nil hh]
      cases hp : paired && high.isNone <;> simp [Scanner.step, Scanner.emit, hp]
    change (parts.flatten ++ ['"']).foldlM Scanner.step ⟨done, .string [] true none⟩ = _
    rw [List.foldlM_append, hrun, Option.bind_eq_bind, Option.bind_some, List.foldlM_cons, hend,
      houtcome]
    simp [outcome]

/-! ## What is read

The other way round, the scanner gets into a string through parts of one only. What it holds then
is what these parts are so far: whatever follows, the same becomes of the string. -/

/-- The scanner has read these parts of a string. -/
structure Partial (items : List Item) (read : List Char) (paired : Bool) (high : Option Nat) :
    Prop where
  isHigh : ∀ u, high = some u → IsHigh u
  same : ∀ rest, outcome read paired high rest = outcome [] true none (items ++ rest)

theorem partial_nil : Partial [] [] true none := ⟨nofun, fun _ ↦ rfl⟩

/-- The digits of a code unit as far as they are there, with the number of those that are missing
and the value of the others. -/
inductive CodeDigits : Nat → Nat → List Char → Prop where
  | none : CodeDigits 4 0 []
  | one {d₃ : Char} {v₃ : Nat} : Hex.value? d₃ = some v₃ → CodeDigits 3 v₃ [d₃]
  | two {d₃ d₂ : Char} {v₃ v₂ : Nat} : Hex.value? d₃ = some v₃ → Hex.value? d₂ = some v₂ →
      CodeDigits 2 (16 * v₃ + v₂) [d₃, d₂]
  | three {d₃ d₂ d₁ : Char} {v₃ v₂ v₁ : Nat} : Hex.value? d₃ = some v₃ → Hex.value? d₂ = some v₂ →
      Hex.value? d₁ = some v₁ → CodeDigits 1 (16 * (16 * v₃ + v₂) + v₁) [d₃, d₂, d₁]

/-- What the scanner is in the middle of, behind the beginning of a string. -/
inductive Inside : Scanning → List Char → Prop where
  | string {items : List Item} {parts : List (List Char)} {read : List Char} {paired : Bool}
      {high : Option Nat} : List.Forall₂ Item.Writes items parts →
      Partial items read paired high → Inside (.string read paired high) ('"' :: parts.flatten)
  | escape {items : List Item} {parts : List (List Char)} {read : List Char} {paired : Bool}
      {high : Option Nat} : List.Forall₂ Item.Writes items parts →
      Partial items read paired high →
      Inside (.escape read paired high) ('"' :: parts.flatten ++ ['\\'])
  | code {items : List Item} {parts : List (List Char)} {read ds : List Char} {paired : Bool}
      {high : Option Nat} {missing value : Nat} : List.Forall₂ Item.Writes items parts →
      Partial items read paired high → CodeDigits missing value ds →
      Inside (.code read paired high missing value) ('"' :: parts.flatten ++ '\\' :: 'u' :: ds)

section Inside

variable {done : List Token} {read : List Char} {paired : Bool} {high : Option Nat} {s : Scanner}
  {c : Char}

theorem Partial.absorb (h : Partial items read paired high) (done : List Token) (item : Item) :
    ∃ read' paired' high', absorb done read paired high item = ⟨done, .string read' paired' high'⟩ ∧
      Partial (items ++ [item]) read' paired' high' := by
  obtain ⟨read', paired', high', habsorb, hhigh, -⟩ :=
    outcome_absorb done read paired high h.isHigh item []
  refine ⟨read', paired', high', habsorb, hhigh, fun rest ↦ ?_⟩
  obtain ⟨_, _, _, habsorb', -, houtcome⟩ :=
    outcome_absorb done read paired high h.isHigh item rest
  rw [habsorb] at habsorb'
  cases habsorb'
  rw [houtcome, h.same, List.append_assoc]
  rfl

/-- The text of a string that ends here. -/
theorem Partial.text?_eq (h : Partial items read paired high) :
    (if paired && high.isNone then some (String.ofList read.reverse) else none) =
      (text? items).map String.ofList := by
  have hend := h.same []
  have hall : outcome [] true none items = text? items := by simp [outcome]
  rw [outcome_nil h.isHigh, List.append_nil, hall] at hend
  rw [← hend]
  split <;> rfl

/-- Behind one more part the scanner is inside the string again. -/
theorem Inside.absorb (hparts : List.Forall₂ Item.Writes items parts)
    (h : Partial items read paired high) (hw : item.Writes cs) (done : List Token) :
    ∃ now, Json.absorb done read paired high item = ⟨done, now⟩ ∧
      Inside now ('"' :: parts.flatten ++ cs) := by
  obtain ⟨read', paired', high', habsorb, hpartial⟩ := h.absorb done item
  refine ⟨_, habsorb, ?_⟩
  have hinside := Inside.string (List.rel_append hparts (.cons hw .nil)) hpartial
  rwa [List.flatten_append, List.flatten_singleton] at hinside

/-- Inside a string the scanner goes on with it or ends it. -/
theorem Inside.step {now : Scanning} (h : Inside now cs)
    (hstep : Scanner.step ⟨done, now⟩ c = some s) :
    (∃ now', s = ⟨done, now'⟩ ∧ Inside now' (cs ++ [c])) ∨
      ∃ text, s = ⟨.string text :: done, .between⟩ ∧ Quoted text (cs ++ [c]) := by
  cases h with
  | @string items parts read paired high hparts hpartial =>
    simp only [Scanner.step, hpartial.text?_eq] at hstep
    split_ifs at hstep with hq hb hc
    · subst hq
      exact Or.inr ⟨_, (Option.some.inj hstep).symm, .intro hparts⟩
    · subst hb
      exact Or.inl ⟨_, (Option.some.inj hstep).symm, .escape hparts hpartial⟩
    · obtain ⟨now', hnow, hinside⟩ :=
        Inside.absorb hparts hpartial (.raw hq hb (Nat.le_of_not_lt hc)) done
      exact Or.inl ⟨now', (Option.some.inj hstep).symm.trans hnow, hinside⟩
  | @escape items parts read paired high hparts hpartial =>
    rw [List.append_assoc]
    simp only [Scanner.step] at hstep
    split_ifs at hstep with hu
    · subst hu
      exact Or.inl ⟨_, (Option.some.inj hstep).symm, .code hparts hpartial .none⟩
    · obtain ⟨e, he, rfl⟩ := Option.map_eq_some_iff.mp hstep
      obtain ⟨now', hnow, hinside⟩ := Inside.absorb hparts hpartial (.short he) done
      exact Or.inl ⟨now', hnow, hinside⟩
  | @code items parts read ds paired high missing value hparts hpartial hdigits =>
    rw [List.append_assoc]
    obtain ⟨d, hd, rfl⟩ := Option.map_eq_some_iff.mp hstep
    cases hdigits with
    | none =>
      rw [Nat.mul_zero, Nat.zero_add]
      exact Or.inl ⟨_, rfl, .code hparts hpartial (.one hd)⟩
    | one h₃ => exact Or.inl ⟨_, rfl, .code hparts hpartial (.two h₃ hd)⟩
    | two h₃ h₂ => exact Or.inl ⟨_, rfl, .code hparts hpartial (.three h₃ h₂ hd)⟩
    | three h₃ h₂ h₁ =>
      obtain ⟨now', hnow, hinside⟩ := Inside.absorb hparts hpartial (.code h₃ h₂ h₁ hd) done
      exact Or.inl ⟨now', hnow, hinside⟩

end Inside

/-! ## Writing -/

/-- How a character is written: by its number where it has no name. -/
def itemOf (c : Char) : Item :=
  if c.toNat < 32 ∧ c ≠ '\x08' ∧ c ≠ '\x0c' ∧ c ≠ '\n' ∧ c ≠ '\r' ∧ c ≠ '\t' then .unit c.toNat
  else .char c

theorem writes_escape (c : Char) : (itemOf c).Writes (escape c) := by
  rw [escape]
  split_ifs with hq hb h8 h12 hn hr ht hctl
  · subst hq
    exact .short rfl
  · subst hb
    exact .short rfl
  · subst h8
    exact .short rfl
  · subst h12
    exact .short rfl
  · subst hn
    exact .short rfl
  · subst hr
    exact .short rfl
  · subst ht
    exact .short rfl
  · have hzero : Hex.value? '0' = some 0 := rfl
    have hcode := Item.Writes.code hzero hzero (Hex.value?_digit (c.toNat / 16) (by omega))
      (Hex.value?_digit (c.toNat % 16) (by omega))
    have hvalue : 16 * (16 * (16 * 0 + 0) + c.toNat / 16) + c.toNat % 16 = c.toNat := by omega
    rw [hvalue] at hcode
    rw [itemOf, if_pos ⟨hctl, h8, h12, hn, hr, ht⟩]
    exact hcode
  · rw [itemOf, if_neg fun h ↦ hctl h.1]
    exact .raw hq hb (Nat.le_of_not_lt hctl)

theorem text?_map_itemOf (cs : List Char) : text? (cs.map itemOf) = some cs := by
  induction cs with
  | nil => rfl
  | cons c cs ih =>
    rw [List.map_cons, itemOf]
    split
    · next hc =>
      have hlt : c.toNat < 0xD800 := Nat.lt_trans hc.1 (by decide)
      have hlow : ¬ IsLow c.toNat := fun h ↦ by
        have := h.1
        omega
      rw [text?_unit (fun h ↦ Nat.not_le_of_lt hlt h.1) hlow, ih, Option.map_some,
        Char.ofNat_toNat]
    · rw [text?, ih, Option.map_some]

/-- A text is written as a string of that text. -/
theorem quoted_quote (s : String) : Quoted (some s) (quote s) := by
  have hparts : List.Forall₂ Item.Writes (s.toList.map itemOf) (s.toList.map escape) := by
    rw [List.forall₂_map_left_iff, List.forall₂_map_right_iff]
    exact List.forall₂_same.mpr fun c _ ↦ writes_escape c
  have h := Quoted.intro hparts
  rw [text?_map_itemOf, Option.map_some, String.ofList_toList, ← List.flatMap_def] at h
  exact h

end TaskMessaging.Json
