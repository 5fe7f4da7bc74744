import Mathlib.Tactic.SplitIfs
import TaskMessaging.Json.Render

/-!
# Values on one line

A text of values, one to a line, is cut into its values wherever a line ends. That works because a
value never spreads over lines: what is written of it has no control character at all. Inside
strings the escapes see to that, and outside of them nothing but digits, letters and punctuation is
written.
-/

namespace TaskMessaging.Json

/-- Characters that stand on one line, as there is no control character among them. -/
def OnLine (cs : List Char) : Prop := ∀ c ∈ cs, 32 ≤ c.toNat

instance (cs : List Char) : Decidable (OnLine cs) :=
  List.decidableBAll (fun c : Char ↦ 32 ≤ c.toNat) cs

variable {cs ds : List Char} {c : Char}

theorem OnLine.append (hc : OnLine cs) (hd : OnLine ds) : OnLine (cs ++ ds) :=
  List.forall_mem_append.mpr ⟨hc, hd⟩

theorem OnLine.cons (hc : 32 ≤ c.toNat) (hd : OnLine cs) : OnLine (c :: cs) :=
  List.forall_mem_cons.mpr ⟨hc, hd⟩

theorem OnLine.enclosed {opening closing : Char} (h : OnLine cs) (ho : 32 ≤ opening.toNat)
    (hc : 32 ≤ closing.toNat) : OnLine (opening :: cs ++ [closing]) :=
  (OnLine.cons ho h).append (List.forall_mem_singleton.mpr hc)

theorem onLine_nil : OnLine [] := List.forall_mem_nil _

theorem OnLine.newline_notMem (h : OnLine cs) : '\n' ∉ cs := fun hmem ↦
  absurd (h '\n' hmem) (by decide)

/-! ## Strings -/

theorem onLine_digit : ∀ d < 16, 32 ≤ (Text.Hex.digit d).toNat := by decide

theorem onLine_escape (c : Char) : OnLine (escape c) := by
  have hpair {d : Char} (hd : 32 ≤ d.toNat) : OnLine ['\\', d] :=
    (onLine_nil.cons hd).cons (by decide)
  rw [escape]
  split_ifs with h1 h2 h3 h4 h5 h6 h7 hcontrol
  · exact hpair (by decide)
  · exact hpair (by decide)
  · exact hpair (by decide)
  · exact hpair (by decide)
  · exact hpair (by decide)
  · exact hpair (by decide)
  · exact hpair (by decide)
  · have hcode : OnLine ['\\', 'u', '0', '0'] := by decide
    exact hcode.append ((onLine_nil.cons (onLine_digit _ (by omega))).cons
      (onLine_digit _ (by omega)))
  · exact onLine_nil.cons (Nat.le_of_not_lt hcontrol)

theorem onLine_quote (s : String) : OnLine (quote s) := by
  refine OnLine.enclosed ?_ (by decide) (by decide)
  intro c hc
  obtain ⟨d, -, hd⟩ := List.mem_flatMap.mp hc
  exact onLine_escape d c hd

/-! ## Numbers -/

theorem onLine_digits (n : Nat) : OnLine (Decimal.digits n) := by
  intro c hc
  have hdigit := Decimal.isDigit_of_mem_digits n c hc
  rw [Decimal.isDigit, Bool.and_eq_true, decide_eq_true_iff, decide_eq_true_iff] at hdigit
  omega

theorem onLine_intText (i : Int) : OnLine (Decimal.intText i).toList := by
  cases i with
  | ofNat n =>
    rw [Decimal.intText, Decimal.text, String.toList_ofList]
    exact onLine_digits n
  | negSucc n =>
    rw [Decimal.intText, String.toList_ofList]
    exact (onLine_digits (n + 1)).cons (by decide)

theorem Number.onLine_render (n : Number) : OnLine n.render := by
  rw [Number.render]
  refine (OnLine.append ?_ (onLine_digits n.mantissa)).append ?_
  · cases n.negative with
    | true => exact onLine_nil.cons (by decide)
    | false => exact onLine_nil
  · cases n.plain with
    | true => exact onLine_nil
    | false => exact (onLine_intText n.exponent).cons (by decide)

/-! ## Values -/

namespace Value

theorem onLine_member {name : String} (h : OnLine cs) : OnLine (quote name ++ ':' :: cs) :=
  (onLine_quote name).append (h.cons (by decide))

mutual

theorem onLine_render : ∀ v : Value, OnLine v.render
  | .null => by decide
  | .bool true => by decide
  | .bool false => by decide
  | .number n => n.onLine_render
  | .text s => onLine_quote s
  | .unpaired => by decide
  | .array vs => (onLine_renderElements vs).enclosed (by decide) (by decide)
  | .object ms => (onLine_renderMembers ms).enclosed (by decide) (by decide)

theorem onLine_renderElements : ∀ vs : List Value, OnLine (renderElements vs)
  | [] => onLine_nil
  | [v] => onLine_render v
  | v :: w :: vs => (onLine_render v).append ((onLine_renderElements (w :: vs)).cons (by decide))

theorem onLine_renderMembers : ∀ ms : List (String × Value), OnLine (renderMembers ms)
  | [] => onLine_nil
  | [(_, v)] => onLine_member (onLine_render v)
  | (_, v) :: m :: ms =>
    onLine_member ((onLine_render v).append ((onLine_renderMembers (m :: ms)).cons (by decide)))

end

/-- The text of a value is one line. -/
theorem newline_notMem_toText (v : Value) : '\n' ∉ v.toText.toList := by
  rw [toText, String.toList_ofList]
  exact (onLine_render v).newline_notMem

end Value

end TaskMessaging.Json
