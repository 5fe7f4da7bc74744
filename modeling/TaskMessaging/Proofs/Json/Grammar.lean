import TaskMessaging.Json.Parse
import TaskMessaging.Proofs.Json.Numeral
import TaskMessaging.Proofs.Json.Quoted

/-!
# The grammar of JSON

`Spells` says which texts stand for a value, and every one of them is read as that value. Blanks may
stand around values and names and within empty brackets. A text is cut into tokens first, and since
the value determines the tokens, its texts differ only in what the tokens are spelled with and what
stands between them.

## Cutting

A word or a numeral ends where something else begins, so the scanner emits it one character late.
`Reads cs ts` allows for that: behind `cs` the scanner has the tokens `ts`, of which it may still
owe the last. What may follow is what can neither continue a word nor a numeral, and in the grammar
nothing else ever does.
-/

namespace TaskMessaging.Json

open Scanner (isBlank isLetter isNumeral)

/-! ## The grammar -/

def Blank (cs : List Char) : Prop := ∀ c ∈ cs, isBlank c = true

/-- A value, or what stands between the brackets of an array or object that is not empty. -/
inductive Phrase where
  | value (v : Value)
  | elements (vs : List Value)
  | members (ms : List (String × Value))

/-- The texts of a phrase. -/
inductive Spells : Phrase → List Char → Prop where
  | blanks {v : Value} {before cs after : List Char} : Blank before → Spells (.value v) cs →
      Blank after → Spells (.value v) (before ++ cs ++ after)
  | null : Spells (.value .null) ['n', 'u', 'l', 'l']
  | true : Spells (.value (.bool true)) ['t', 'r', 'u', 'e']
  | false : Spells (.value (.bool false)) ['f', 'a', 'l', 's', 'e']
  | number {n : Number} {cs : List Char} : Numeral n cs → Spells (.value (.number n)) cs
  | text {s : String} {cs : List Char} : Quoted (some s) cs → Spells (.value (.text s)) cs
  | unpaired {cs : List Char} : Quoted none cs → Spells (.value .unpaired) cs
  | emptyArray {cs : List Char} : Blank cs → Spells (.value (.array [])) ('[' :: cs ++ [']'])
  | array {vs : List Value} {cs : List Char} : Spells (.elements vs) cs →
      Spells (.value (.array vs)) ('[' :: cs ++ [']'])
  | emptyObject {cs : List Char} : Blank cs →
      Spells (.value (.object [])) ('\x7b' :: cs ++ ['\x7d'])
  | object {ms : List (String × Value)} {cs : List Char} : Spells (.members ms) cs →
      Spells (.value (.object ms)) ('\x7b' :: cs ++ ['\x7d'])
  | element {v : Value} {cs : List Char} : Spells (.value v) cs → Spells (.elements [v]) cs
  | moreElements {v : Value} {vs : List Value} {cs rest : List Char} : Spells (.value v) cs →
      Spells (.elements vs) rest → Spells (.elements (v :: vs)) (cs ++ ',' :: rest)
  | member {name : String} {v : Value} {before quoted after cs : List Char} : Blank before →
      Quoted (some name) quoted → Blank after → Spells (.value v) cs →
      Spells (.members [(name, v)]) (before ++ quoted ++ after ++ ':' :: cs)
  | moreMembers {m : String × Value} {ms : List (String × Value)} {cs rest : List Char} :
      Spells (.members [m]) cs → Spells (.members ms) rest →
      Spells (.members (m :: ms)) (cs ++ ',' :: rest)

theorem Spells.elements_ne_nil {vs : List Value} {cs : List Char} (h : Spells (.elements vs) cs) :
    vs ≠ [] := by
  cases h <;> exact List.cons_ne_nil _ _

theorem Spells.members_ne_nil {ms : List (String × Value)} {cs : List Char}
    (h : Spells (.members ms) cs) : ms ≠ [] := by
  cases h <;> exact List.cons_ne_nil _ _

/-! ## Tokens -/

namespace Value

mutual

/-- The tokens of a value. -/
def tokens : Value → List Token
  | .null => [.null]
  | .bool b => [.bool b]
  | .number n => [.number n]
  | .text s => [.string (some s)]
  | .unpaired => [.string none]
  | .array vs => .openArray :: elementTokens vs ++ [.closeArray]
  | .object ms => .openObject :: memberTokens ms ++ [.closeObject]

/-- The tokens of elements and of the commas between them. -/
def elementTokens : List Value → List Token
  | [] => []
  | [v] => tokens v
  | v :: w :: vs => tokens v ++ .comma :: elementTokens (w :: vs)

/-- The tokens of members and of the commas between them. -/
def memberTokens : List (String × Value) → List Token
  | [] => []
  | [(name, v)] => .string (some name) :: .colon :: tokens v
  | (name, v) :: m :: ms =>
    .string (some name) :: .colon :: (tokens v ++ .comma :: memberTokens (m :: ms))

end

end Value

namespace Value

variable {v : Value} {vs : List Value} {m : String × Value} {ms : List (String × Value)}

theorem elementTokens_cons (h : vs ≠ []) :
    elementTokens (v :: vs) = tokens v ++ .comma :: elementTokens vs := by
  cases vs with
  | nil => exact absurd rfl h
  | cons => rfl

theorem memberTokens_cons (h : ms ≠ []) :
    memberTokens (m :: ms) = memberTokens [m] ++ .comma :: memberTokens ms := by
  obtain ⟨name, v⟩ := m
  cases ms with
  | nil => exact absurd rfl h
  | cons => rfl

end Value

/-- The tokens of a phrase. -/
def Phrase.tokens : Phrase → List Token
  | .value v => v.tokens
  | .elements vs => Value.elementTokens vs
  | .members ms => Value.memberTokens ms

/-! ## Cutting -/

namespace Scanner

variable {s t : Scanner} {cs rest : List Char} {c : Char} {ts us : List Token} {token : Token}

/-- Can neither continue a word nor a numeral. -/
def Delimits (c : Char) : Prop := isLetter c = false ∧ isNumeral c = false

/-- Behind a delimiter nothing is owed any more. -/
theorem step_of_finish (h : s.finish = some t) (hc : Delimits c) : s.step c = t.begin? c := by
  obtain ⟨done, now⟩ := s
  cases now with
  | between =>
    obtain rfl := Option.some.inj h
    rfl
  | word read =>
    rw [step]
    simp only [hc.1, Bool.false_eq_true, if_false, h, Option.bind_some]
  | number read =>
    rw [step]
    simp only [hc.2, Bool.false_eq_true, if_false, h, Option.bind_some]
  | string | escape | code => cases h

/-- From between two tokens, the scanner reads tokens, and may still owe the last of them. -/
def Reads (cs : List Char) (ts : List Token) : Prop :=
  ∀ done, ∃ s, cs.foldlM step ⟨done, .between⟩ = some s ∧
    s.finish = some ⟨ts.reverse ++ done, .between⟩

theorem foldlM_blank (h : Blank cs) (done : List Token) :
    cs.foldlM step ⟨done, .between⟩ = some ⟨done, .between⟩ := by
  induction cs with
  | nil => rfl
  | cons c cs ih =>
    obtain ⟨hc, hcs⟩ := List.forall_mem_cons.mp h
    rw [List.foldlM_cons]
    change (Scanner.begin? ⟨done, .between⟩ c).bind _ = _
    rw [begin?, if_pos hc, Option.bind_some]
    exact ih hcs

theorem reads_blank (h : Blank cs) : Reads cs [] := fun done ↦ ⟨_, foldlM_blank h done, rfl⟩

theorem Reads.blank_append (h : Reads cs ts) {before : List Char} (hb : Blank before) :
    Reads (before ++ cs) ts := by
  intro done
  rw [List.foldlM_append, foldlM_blank hb]
  exact h done

/-- What is read goes on behind a delimiter. -/
theorem Reads.append (h : Reads cs ts) (hrest : Reads (c :: rest) us) (hc : Delimits c) :
    Reads (cs ++ c :: rest) (ts ++ us) := by
  intro done
  obtain ⟨s, hrun, hfinish⟩ := h done
  obtain ⟨t, hrun', hfinish'⟩ := hrest (ts.reverse ++ done)
  refine ⟨t, ?_, ?_⟩
  · rw [List.foldlM_append, hrun, Option.bind_eq_bind, Option.bind_some, ← hrun', List.foldlM_cons,
      List.foldlM_cons, step_of_finish hfinish hc]
    rfl
  · rw [hfinish', List.reverse_append, List.append_assoc]

theorem delimits_of_isBlank (h : isBlank c = true) : Delimits c := by
  have hcases : c = ' ' ∨ c = '\t' ∨ c = '\n' ∨ c = '\r' := by
    simpa [isBlank, or_assoc] using h
  rcases hcases with rfl | rfl | rfl | rfl <;> exact ⟨rfl, rfl⟩

theorem Reads.append_blank (h : Reads cs ts) {after : List Char} (ha : Blank after) :
    Reads (cs ++ after) ts := by
  cases after with
  | nil => rwa [List.append_nil]
  | cons c after =>
    have hread := h.append (reads_blank ha) (delimits_of_isBlank (ha c List.mem_cons_self))
    rwa [List.append_nil] at hread

/-- A character that is a token of its own. -/
def Punctuates (c : Char) (token : Token) : Prop :=
  Delimits c ∧ ∀ done, begin? ⟨done, .between⟩ c = some ⟨token :: done, .between⟩

theorem Punctuates.cons (hc : Punctuates c token) (h : Reads cs ts) :
    Reads (c :: cs) (token :: ts) := by
  intro done
  obtain ⟨s, hrun, hfinish⟩ := h (token :: done)
  refine ⟨s, ?_, ?_⟩
  · rw [List.foldlM_cons]
    change (begin? ⟨done, .between⟩ c).bind _ = _
    rw [hc.2, Option.bind_some]
    exact hrun
  · rw [hfinish, List.reverse_cons, List.append_assoc]
    rfl

theorem reads_nil : Reads [] [] := reads_blank (List.forall_mem_nil _)

theorem punctuates_comma : Punctuates ',' .comma := ⟨⟨rfl, rfl⟩, fun _ ↦ rfl⟩

theorem punctuates_colon : Punctuates ':' .colon := ⟨⟨rfl, rfl⟩, fun _ ↦ rfl⟩

theorem punctuates_openArray : Punctuates '[' .openArray := ⟨⟨rfl, rfl⟩, fun _ ↦ rfl⟩

theorem punctuates_closeArray : Punctuates ']' .closeArray := ⟨⟨rfl, rfl⟩, fun _ ↦ rfl⟩

theorem punctuates_openObject : Punctuates '\x7b' .openObject := ⟨⟨rfl, rfl⟩, fun _ ↦ rfl⟩

theorem punctuates_closeObject : Punctuates '\x7d' .closeObject := ⟨⟨rfl, rfl⟩, fun _ ↦ rfl⟩

/-- What stands in brackets. -/
theorem Reads.enclosed {opening closing : Char} {first last : Token} (h : Reads cs ts)
    (ho : Punctuates opening first) (hc : Punctuates closing last) :
    Reads (opening :: cs ++ [closing]) (first :: ts ++ [last]) :=
  ho.cons (h.append (hc.cons reads_nil) hc.1)

theorem reads_quoted {s : Option String} (h : Quoted s cs) : Reads cs [.string s] :=
  fun done ↦ ⟨_, h.foldlM_step done, rfl⟩

theorem begin?_numeral (h : (Decimal.isDigit c || c = '-') = true) (done : List Token) :
    begin? ⟨done, .between⟩ c = some ⟨done, .number [c]⟩ := by
  rcases Bool.or_eq_true_iff.mp h with hd | hminus
  · have hblank : isBlank c = false := by
      simp [isBlank, ne_of_isDigit hd (c := ' ') rfl, ne_of_isDigit hd (c := '\t') rfl,
        ne_of_isDigit hd (c := '\n') rfl, ne_of_isDigit hd (c := '\r') rfl]
    rw [begin?, if_neg (by rw [hblank]; exact Bool.false_ne_true), if_neg (ne_of_isDigit hd rfl),
      if_neg (ne_of_isDigit hd rfl), if_neg (ne_of_isDigit hd rfl), if_neg (ne_of_isDigit hd rfl),
      if_neg (ne_of_isDigit hd rfl), if_neg (ne_of_isDigit hd rfl), if_neg (ne_of_isDigit hd rfl),
      if_pos h]
  · obtain rfl := of_decide_eq_true hminus
    rfl

theorem foldlM_numeral (h : ∀ c ∈ cs, isNumeral c = true) (done : List Token)
    (read : List Char) : cs.foldlM step ⟨done, .number read⟩ =
      some ⟨done, .number (cs.reverse ++ read)⟩ := by
  induction cs generalizing read with
  | nil => rfl
  | cons c cs ih =>
    obtain ⟨hc, hcs⟩ := List.forall_mem_cons.mp h
    have hstep : step ⟨done, .number read⟩ c = some ⟨done, .number (c :: read)⟩ := if_pos hc
    rw [List.foldlM_cons, hstep, Option.bind_eq_bind, Option.bind_some, ih hcs, List.reverse_cons,
      List.append_assoc]
    rfl

theorem reads_numeral {n : Number} (h : Numeral n cs) : Reads cs [.number n] := by
  intro done
  obtain ⟨c, rest, rfl, hc⟩ := h.exists_cons
  have hrun := foldlM_numeral (List.forall_mem_cons.mp h.isNumeral).2 done [c]
  refine ⟨⟨done, .number (rest.reverse ++ [c])⟩, ?_, ?_⟩
  · rw [List.foldlM_cons]
    change (begin? ⟨done, .between⟩ c).bind _ = _
    rw [begin?_numeral hc]
    exact hrun
  · rw [finish]
    simp only [List.reverse_append, List.reverse_reverse, List.reverse_singleton,
      List.singleton_append, h.read?]
    rfl

end Scanner

open Scanner

/-- A phrase is cut into its tokens. -/
theorem Spells.reads {p : Phrase} {cs : List Char} (h : Spells p cs) : Reads cs p.tokens := by
  induction h with
  | blanks hb _ ha ih => exact (ih.blank_append hb).append_blank ha
  | null => exact fun done ↦ ⟨_, rfl, rfl⟩
  | true => exact fun done ↦ ⟨_, rfl, rfl⟩
  | false => exact fun done ↦ ⟨_, rfl, rfl⟩
  | number h => exact reads_numeral h
  | text h => exact reads_quoted h
  | unpaired h => exact reads_quoted h
  | emptyArray h => exact (reads_blank h).enclosed punctuates_openArray punctuates_closeArray
  | array _ ih => exact ih.enclosed punctuates_openArray punctuates_closeArray
  | emptyObject h => exact (reads_blank h).enclosed punctuates_openObject punctuates_closeObject
  | object _ ih => exact ih.enclosed punctuates_openObject punctuates_closeObject
  | element _ ih => exact ih
  | moreElements _ hvs ih ihs =>
    rw [Phrase.tokens, Value.elementTokens_cons hvs.elements_ne_nil]
    exact ih.append (punctuates_comma.cons ihs) punctuates_comma.1
  | member hb hq ha _ ih =>
    have hname := ((reads_quoted hq).blank_append hb).append_blank ha
    exact hname.append (punctuates_colon.cons ih) punctuates_colon.1
  | moreMembers _ hms ih ihs =>
    rw [Phrase.tokens, Value.memberTokens_cons hms.members_ne_nil]
    exact ih.append (punctuates_comma.cons ihs) punctuates_comma.1

/-- The tokens of a text that is spelled correctly. -/
theorem Spells.scan?_eq {v : Value} {cs : List Char} (h : Spells (.value v) cs) :
    Token.scan? cs = some v.tokens := by
  obtain ⟨s, hrun, hfinish⟩ := h.reads []
  rw [Token.scan?, start, hrun, Option.bind_some, hfinish, Option.map_some, List.append_nil,
    List.reverse_reverse]
  rfl

/-! ## Parsing -/

namespace Value

/-- The tokens of a value do not start with a closing bracket. -/
theorem exists_tokens_cons (v : Value) :
    ∃ t ts, v.tokens = t :: ts ∧ t ≠ .closeArray := by
  cases v with
  | array vs => exact ⟨_, _, List.cons_append, nofun⟩
  | object ms => exact ⟨_, _, List.cons_append, nofun⟩
  | null | bool | number | text | unpaired => exact ⟨_, _, rfl, nofun⟩

theorem exists_elementTokens_cons {vs : List Value} (h : vs ≠ []) :
    ∃ t ts, elementTokens vs = t :: ts ∧ t ≠ .closeArray := by
  cases vs with
  | nil => exact absurd rfl h
  | cons v vs =>
    obtain ⟨t, ts, hv, ht⟩ := v.exists_tokens_cons
    cases vs with
    | nil => exact ⟨t, ts, hv, ht⟩
    | cons w vs => exact ⟨t, _, by rw [elementTokens, hv, List.cons_append], ht⟩

theorem exists_memberTokens_cons {ms : List (String × Value)} (h : ms ≠ []) :
    ∃ name ts, memberTokens ms = .string (some name) :: ts := by
  rcases ms with - | ⟨⟨name, v⟩, - | ⟨m, ms⟩⟩
  · exact absurd rfl h
  · exact ⟨name, _, rfl⟩
  · exact ⟨name, _, rfl⟩

theorem read?_openArray {fuel : Nat} {ts : List Token} (h : ts.head? ≠ some .closeArray) :
    read? (fuel + 1) (.openArray :: ts) =
      (readElements? fuel ts).map fun (vs, ts) ↦ (.array vs, ts) := by
  cases ts with
  | nil => rfl
  | cons t ts =>
    cases t with
    | closeArray => exact absurd rfl h
    | _ => rfl

theorem read?_openObject {fuel : Nat} {ts : List Token} (h : ts.head? ≠ some .closeObject) :
    read? (fuel + 1) (.openObject :: ts) =
      (readMembers? fuel ts).map fun (ms, ts) ↦ (.object ms, ts) := by
  cases ts with
  | nil => rfl
  | cons t ts =>
    cases t with
    | closeObject => exact absurd rfl h
    | _ => rfl

mutual

/-- A value is read off its tokens, whatever follows them. -/
theorem read?_tokens : ∀ (v : Value) (fuel : Nat) (rest : List Token), v.tokens.length ≤ fuel →
    read? fuel (v.tokens ++ rest) = some (v, rest)
  | v, 0, rest, h => by
    obtain ⟨t, ts, hv, -⟩ := v.exists_tokens_cons
    rw [hv] at h
    cases h
  | .null, fuel + 1, rest, _ => rfl
  | .bool b, fuel + 1, rest, _ => rfl
  | .number n, fuel + 1, rest, _ => rfl
  | .text s, fuel + 1, rest, _ => rfl
  | .unpaired, fuel + 1, rest, _ => rfl
  | .array [], fuel + 1, rest, _ => rfl
  | .array (v :: vs), fuel + 1, rest, h => by
    obtain ⟨t, ts, hts, ht⟩ := exists_elementTokens_cons (List.cons_ne_nil v vs)
    have helements := readElements?_tokens (v :: vs) fuel rest (List.cons_ne_nil v vs) (by
      simp only [tokens, List.length_append, List.length_cons, List.length_nil] at h
      omega)
    rw [tokens, List.append_assoc]
    change read? (fuel + 1) (.openArray :: (elementTokens (v :: vs) ++ .closeArray :: rest)) = _
    rw [read?_openArray, helements]
    · rfl
    · rw [hts]
      exact fun h ↦ ht (Option.some.inj h)
  | .object [], fuel + 1, rest, _ => rfl
  | .object (m :: ms), fuel + 1, rest, h => by
    obtain ⟨name, ts, hts⟩ := exists_memberTokens_cons (List.cons_ne_nil m ms)
    have hmembers := readMembers?_tokens (m :: ms) fuel rest (List.cons_ne_nil m ms) (by
      simp only [tokens, List.length_append, List.length_cons, List.length_nil] at h
      omega)
    rw [tokens, List.append_assoc]
    change read? (fuel + 1) (.openObject :: (memberTokens (m :: ms) ++ .closeObject :: rest)) = _
    rw [read?_openObject, hmembers]
    · rfl
    · rw [hts]
      exact fun h ↦ nomatch h

theorem readElements?_tokens : ∀ (vs : List Value) (fuel : Nat) (rest : List Token), vs ≠ [] →
    (elementTokens vs).length < fuel →
    readElements? fuel (elementTokens vs ++ .closeArray :: rest) = some (vs, rest)
  | _, 0, _, _, h => absurd h (Nat.not_lt_zero _)
  | [], _, _, h, _ => absurd rfl h
  | [v], fuel + 1, rest, _, h => by
    rw [elementTokens] at h
    rw [elementTokens, readElements?, read?_tokens v fuel _ (Nat.le_of_lt_succ h)]
  | v :: w :: vs, fuel + 1, rest, _, h => by
    simp only [elementTokens, List.length_append, List.length_cons] at h
    rw [elementTokens, List.append_assoc, readElements?, read?_tokens v fuel _ (by omega)]
    simp only [List.cons_append]
    rw [readElements?_tokens (w :: vs) fuel rest (List.cons_ne_nil w vs) (by omega)]
    rfl

theorem readMembers?_tokens : ∀ (ms : List (String × Value)) (fuel : Nat) (rest : List Token),
    ms ≠ [] → (memberTokens ms).length < fuel →
    readMembers? fuel (memberTokens ms ++ .closeObject :: rest) = some (ms, rest)
  | _, 0, _, _, h => absurd h (Nat.not_lt_zero _)
  | [], _, _, h, _ => absurd rfl h
  | [(name, v)], fuel + 1, rest, _, h => by
    simp only [memberTokens, List.length_cons] at h
    rw [memberTokens]
    simp only [List.cons_append]
    rw [readMembers?, read?_tokens v fuel _ (by omega)]
  | (name, v) :: m :: ms, fuel + 1, rest, _, h => by
    simp only [memberTokens, List.length_append, List.length_cons] at h
    rw [memberTokens]
    simp only [List.cons_append, List.append_assoc]
    rw [readMembers?, read?_tokens v fuel _ (by omega)]
    simp only
    rw [readMembers?_tokens (m :: ms) fuel rest (List.cons_ne_nil m ms) (by omega)]
    rfl

end

theorem ofTokens?_tokens (v : Value) : ofTokens? v.tokens = some v := by
  have hread := read?_tokens v (v.tokens.length + 1) [] (Nat.le_succ _)
  rw [List.append_nil] at hread
  rw [ofTokens?, hread]

end Value

/-- **Reading.** A text that spells a value is read as that value. -/
theorem Spells.parse?_eq {v : Value} {text : String} (h : Spells (.value v) text.toList) :
    Value.parse? text = some v := by
  rw [Value.parse?, h.scan?_eq, Option.bind_some, Value.ofTokens?_tokens]

/-! ## Writing -/

namespace Value

mutual

/-- A plain number in the value has no exponent that would be lost in writing. -/
def Writable : Value → Prop
  | .number n => n.plain = true → n.exponent = 0
  | .array vs => WritableElements vs
  | .object ms => WritableMembers ms
  | _ => True

def WritableElements : List Value → Prop
  | [] => True
  | v :: vs => Writable v ∧ WritableElements vs

def WritableMembers : List (String × Value) → Prop
  | [] => True
  | (_, v) :: ms => Writable v ∧ WritableMembers ms

end

end Value

theorem quoted_unpaired : Quoted none ['"', '\\', 'u', 'd', '8', '0', '0', '"'] := by
  have hd : Text.Hex.value? 'd' = some 13 := rfl
  have height : Text.Hex.value? '8' = some 8 := rfl
  have hzero : Text.Hex.value? '0' = some 0 := rfl
  have hhalf : text? [.unit (16 * (16 * (16 * 13 + 8) + 0) + 0)] = none := rfl
  have h := Quoted.intro (.cons (Item.Writes.code hd height hzero hzero) .nil)
  rw [hhalf] at h
  exact h

theorem blank_nil : Blank [] := List.forall_mem_nil _

theorem spells_member {name : String} {v : Value} {cs : List Char} (h : Spells (.value v) cs) :
    Spells (.members [(name, v)]) (quote name ++ ':' :: cs) := by
  have hmember := Spells.member blank_nil (quoted_quote name) blank_nil h
  rwa [List.nil_append, List.append_nil] at hmember

namespace Value

mutual

/-- A value is written as a text that spells it. -/
theorem spells_render : ∀ v : Value, v.Writable → Spells (.value v) v.render
  | .null, _ => .null
  | .bool true, _ => .true
  | .bool false, _ => .false
  | .number _, h => .number (numeral_render h)
  | .text s, _ => .text (quoted_quote s)
  | .unpaired, _ => .unpaired quoted_unpaired
  | .array [], _ => .emptyArray blank_nil
  | .array (v :: vs), h => .array (spells_renderElements (v :: vs) (List.cons_ne_nil v vs) h)
  | .object [], _ => .emptyObject blank_nil
  | .object (m :: ms), h => .object (spells_renderMembers (m :: ms) (List.cons_ne_nil m ms) h)

theorem spells_renderElements : ∀ vs : List Value, vs ≠ [] → WritableElements vs →
    Spells (.elements vs) (renderElements vs)
  | [], h, _ => absurd rfl h
  | [v], _, h => .element (spells_render v h.1)
  | v :: w :: vs, _, h =>
    .moreElements (spells_render v h.1)
      (spells_renderElements (w :: vs) (List.cons_ne_nil w vs) h.2)

theorem spells_renderMembers : ∀ ms : List (String × Value), ms ≠ [] → WritableMembers ms →
    Spells (.members ms) (renderMembers ms)
  | [], h, _ => absurd rfl h
  | [(_, v)], _, h => spells_member (spells_render v h.1)
  | (name, v) :: m :: ms, _, h => by
    have hfirst : Spells (.members [(name, v)]) (quote name ++ ':' :: v.render) :=
      spells_member (spells_render v h.1)
    have hmore := hfirst.moreMembers (spells_renderMembers (m :: ms) (List.cons_ne_nil m ms) h.2)
    rwa [List.append_assoc, List.cons_append] at hmore

end

/-- **Writing.** What a value is written as is read as that value. -/
theorem parse?_toText {v : Value} (h : v.Writable) : parse? v.toText = some v := by
  have hspells := spells_render v h
  rw [← String.toList_ofList (l := v.render)] at hspells
  exact hspells.parse?_eq

end Value

end TaskMessaging.Json
