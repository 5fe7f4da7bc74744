import TaskMessaging.Proofs.Json.Grammar

/-!
# Nothing else is read

The reader takes the texts that the grammar allows, and no others: where it finds a value, the text
spells that value. Together with the other direction this makes reading and spelling the same
thing, and whatever is said about texts that are read can be said about the grammar.

## Cutting, backwards

A run of the scanner is followed forwards, character by character. What it has read so far is cut
in two: tokens with blanks around them, and the beginning of a token that it is in the middle of.
The scanner lets some texts pass in which two tokens touch that no value has side by side, so
`Lexemes` does not ask what may follow a token. That is left to the parser, which finds in the
tokens exactly those of one value.
-/

namespace TaskMessaging.Json

open Scanner (isBlank isLetter isNumeral)

variable {cs ds before after rest : List Char} {c : Char} {t : Token} {ts us : List Token}

/-! ## Tokens in a text -/

/-- How a token is spelled. -/
inductive Lexeme : Token → List Char → Prop where
  | openObject : Lexeme .openObject ['\x7b']
  | closeObject : Lexeme .closeObject ['\x7d']
  | openArray : Lexeme .openArray ['[']
  | closeArray : Lexeme .closeArray [']']
  | comma : Lexeme .comma [',']
  | colon : Lexeme .colon [':']
  | null : Lexeme .null ['n', 'u', 'l', 'l']
  | true : Lexeme (.bool true) ['t', 'r', 'u', 'e']
  | false : Lexeme (.bool false) ['f', 'a', 'l', 's', 'e']
  | number {n : Number} {cs : List Char} : Numeral n cs → Lexeme (.number n) cs
  | string {s : Option String} {cs : List Char} : Quoted s cs → Lexeme (.string s) cs

/-- Tokens with blanks around them. -/
inductive Lexemes : List Token → List Char → Prop where
  | nil {cs : List Char} : Blank cs → Lexemes [] cs
  | cons {t : Token} {ts : List Token} {before cs rest : List Char} : Blank before →
      Lexeme t cs → Lexemes ts rest → Lexemes (t :: ts) (before ++ cs ++ rest)

theorem Blank.append (hc : Blank cs) (hd : Blank ds) : Blank (cs ++ ds) :=
  List.forall_mem_append.mpr ⟨hc, hd⟩

theorem Lexemes.blank_append (h : Lexemes ts cs) (hb : Blank before) :
    Lexemes ts (before ++ cs) := by
  cases h with
  | nil hcs => exact .nil (hb.append hcs)
  | cons hb' ht hts =>
    rw [← List.append_assoc, ← List.append_assoc]
    exact .cons (hb.append hb') ht hts

theorem Lexemes.append (h : Lexemes ts cs) (hrest : Lexemes us rest) :
    Lexemes (ts ++ us) (cs ++ rest) := by
  induction h with
  | nil hcs => exact hrest.blank_append hcs
  | cons hb ht _ ih =>
    rw [List.append_assoc]
    exact .cons hb ht ih

theorem Lexemes.append_blank (h : Lexemes ts cs) (ha : Blank after) : Lexemes ts (cs ++ after) := by
  have happend := h.append (.nil ha)
  rwa [List.append_nil] at happend

theorem lexemes_singleton (h : Lexeme t cs) : Lexemes [t] cs := by
  have hcons := Lexemes.cons blank_nil h (.nil blank_nil)
  rwa [List.nil_append, List.append_nil] at hcons

theorem Lexemes.concat (h : Lexemes ts cs) (ht : Lexeme t ds) : Lexemes (ts ++ [t]) (cs ++ ds) :=
  h.append (lexemes_singleton ht)

/-- Tokens that stand one behind the other can be cut apart. -/
theorem Lexemes.exists_append (h : Lexemes (ts ++ us) cs) :
    ∃ front back, cs = front ++ back ∧ Lexemes ts front ∧ Lexemes us back := by
  induction ts generalizing cs with
  | nil => exact ⟨[], cs, rfl, .nil blank_nil, h⟩
  | cons t ts ih =>
    cases h with
    | cons hb ht hts =>
      obtain ⟨front, back, rfl, hfront, hback⟩ := ih hts
      exact ⟨_, back, (List.append_assoc ..).symm, .cons hb ht hfront, hback⟩

theorem Lexemes.exists_cons (h : Lexemes (t :: ts) cs) :
    ∃ before spelling rest, cs = before ++ spelling ++ rest ∧ Blank before ∧ Lexeme t spelling ∧
      Lexemes ts rest := by
  cases h with
  | cons hb ht hts => exact ⟨_, _, _, rfl, hb, ht, hts⟩

theorem Lexemes.blank (h : Lexemes [] cs) : Blank cs := by
  cases h with
  | nil hcs => exact hcs

/-! ## Cutting -/

/-- What the scanner is in the middle of, by the characters behind the last whole token. -/
inductive Begun : Scanning → List Char → Prop where
  | between : Begun .between []
  | word {read : List Char} : Begun (.word read) read.reverse
  | number {read : List Char} : Begun (.number read) read.reverse
  | inside {now : Scanning} {cs : List Char} : Inside now cs → Begun now cs

/-- The scanner has read these characters. -/
def Scanned (s : Scanner) (cs : List Char) : Prop :=
  ∃ front back, cs = front ++ back ∧ Lexemes s.done.reverse front ∧ Begun s.now back

namespace Scanner

variable {s s' : Scanner}

theorem scanned_between {done : List Token} (h : Lexemes done.reverse cs) :
    Scanned ⟨done, .between⟩ cs := ⟨cs, [], (List.append_nil cs).symm, h, .between⟩

theorem lexemes_emit {done : List Token} (h : Lexemes done.reverse cs) (ht : Lexeme t ds) :
    Lexemes (t :: done).reverse (cs ++ ds) := by
  rw [List.reverse_cons]
  exact h.concat ht

theorem lexeme_of_word? (h : word? cs = some t) : Lexeme t cs := by
  rw [word?.eq_def] at h
  split at h
  · cases h
    exact .null
  · cases h
    exact .true
  · cases h
    exact .false
  · cases h

/-- Where the scanner may stop there are only whole tokens. -/
theorem lexemes_of_finish (h : Scanned s cs) (hfinish : s.finish = some s') :
    ∃ done, s' = ⟨done, .between⟩ ∧ Lexemes done.reverse cs := by
  obtain ⟨done, now⟩ := s
  obtain ⟨front, back, rfl, hfront, hback⟩ := h
  cases hback with
  | between =>
    cases hfinish
    exact ⟨done, rfl, hfront.append_blank blank_nil⟩
  | word =>
    obtain ⟨t, ht, rfl⟩ := Option.map_eq_some_iff.mp hfinish
    exact ⟨_, rfl, lexemes_emit hfront (lexeme_of_word? ht)⟩
  | number =>
    obtain ⟨n, hn, rfl⟩ := Option.map_eq_some_iff.mp hfinish
    exact ⟨_, rfl, lexemes_emit hfront (.number (numeral_of_read? hn))⟩
  | inside hinside => cases hinside <;> cases hfinish

/-- Behind whole tokens comes a blank, one more token, or the beginning of one. -/
theorem scanned_begin? {done : List Token} (h : Lexemes done.reverse cs)
    (hbegin : begin? ⟨done, .between⟩ c = some s) : Scanned s (cs ++ [c]) := by
  have hemit {t : Token} (ht : Lexeme t [c]) : Scanned ⟨t :: done, .between⟩ (cs ++ [c]) :=
    scanned_between (lexemes_emit h ht)
  have hstart {now : Scanning} (hnow : Begun now [c]) : Scanned ⟨done, now⟩ (cs ++ [c]) :=
    ⟨cs, [c], rfl, h, hnow⟩
  rw [begin?] at hbegin
  rcases ite_eq_iff.mp hbegin with ⟨hblank, ⟨⟩⟩ | ⟨-, hbegin⟩
  · exact scanned_between (h.append_blank (List.forall_mem_singleton.mpr hblank))
  rcases ite_eq_iff.mp hbegin with ⟨rfl, ⟨⟩⟩ | ⟨-, hbegin⟩
  · exact hemit .openObject
  rcases ite_eq_iff.mp hbegin with ⟨rfl, ⟨⟩⟩ | ⟨-, hbegin⟩
  · exact hemit .closeObject
  rcases ite_eq_iff.mp hbegin with ⟨rfl, ⟨⟩⟩ | ⟨-, hbegin⟩
  · exact hemit .openArray
  rcases ite_eq_iff.mp hbegin with ⟨rfl, ⟨⟩⟩ | ⟨-, hbegin⟩
  · exact hemit .closeArray
  rcases ite_eq_iff.mp hbegin with ⟨rfl, ⟨⟩⟩ | ⟨-, hbegin⟩
  · exact hemit .comma
  rcases ite_eq_iff.mp hbegin with ⟨rfl, ⟨⟩⟩ | ⟨-, hbegin⟩
  · exact hemit .colon
  rcases ite_eq_iff.mp hbegin with ⟨rfl, ⟨⟩⟩ | ⟨-, hbegin⟩
  · exact hstart (.inside (.string .nil partial_nil))
  rcases ite_eq_iff.mp hbegin with ⟨-, ⟨⟩⟩ | ⟨-, hbegin⟩
  · exact hstart .number
  rcases ite_eq_iff.mp hbegin with ⟨-, ⟨⟩⟩ | ⟨-, hnone⟩
  · exact hstart .word
  · cases hnone

/-- One more character. -/
theorem scanned_step (h : Scanned s cs) (hstep : s.step c = some s') : Scanned s' (cs ++ [c]) := by
  -- A word or a numeral ends where it cannot go on, and there something else begins.
  have hends (hnext : s.finish.bind (·.begin? c) = some s') : Scanned s' (cs ++ [c]) := by
    obtain ⟨t, hfinish, hbegin⟩ := Option.bind_eq_some_iff.mp hnext
    obtain ⟨done, rfl, hdone⟩ := lexemes_of_finish h hfinish
    exact scanned_begin? hdone hbegin
  obtain ⟨done, now⟩ := s
  obtain ⟨front, back, rfl, hfront, hback⟩ := id h
  cases hback with
  | between => exact scanned_begin? (hfront.append_blank blank_nil) hstep
  | @word read =>
    simp only [step] at hstep
    split at hstep
    · obtain rfl := Option.some.inj hstep
      refine ⟨front, (c :: read).reverse, ?_, hfront, .word⟩
      rw [List.reverse_cons, List.append_assoc]
    · exact hends hstep
  | @number read =>
    simp only [step] at hstep
    split at hstep
    · obtain rfl := Option.some.inj hstep
      refine ⟨front, (c :: read).reverse, ?_, hfront, .number⟩
      rw [List.reverse_cons, List.append_assoc]
    · exact hends hstep
  | inside hinside =>
    rw [List.append_assoc]
    rcases hinside.step hstep with ⟨now', rfl, hnow⟩ | ⟨text, rfl, hquoted⟩
    · exact ⟨front, _, rfl, hfront, .inside hnow⟩
    · exact scanned_between (lexemes_emit hfront (.string hquoted))

theorem scanned_run (h : Scanned s cs) (hrun : ds.foldlM step s = some s') :
    Scanned s' (cs ++ ds) := by
  induction ds generalizing s cs with
  | nil =>
    cases hrun
    rwa [List.append_nil]
  | cons d ds ih =>
    rw [List.foldlM_cons] at hrun
    obtain ⟨t, hstep, hrun⟩ := Option.bind_eq_some_iff.mp hrun
    have hscanned := ih (scanned_step h hstep) hrun
    rwa [List.append_assoc, List.singleton_append] at hscanned

end Scanner

/-- A text is cut into the tokens that stand in it. -/
theorem Token.lexemes_of_scan? (h : Token.scan? cs = some ts) : Lexemes ts cs := by
  obtain ⟨s, hrun, hmap⟩ := Option.bind_eq_some_iff.mp h
  obtain ⟨t, hfinish, rfl⟩ := Option.map_eq_some_iff.mp hmap
  have hstart : Scanned Scanner.start [] := Scanner.scanned_between (.nil blank_nil)
  obtain ⟨done, rfl, hdone⟩ := Scanner.lexemes_of_finish (Scanner.scanned_run hstart hrun) hfinish
  exact hdone

/-! ## Parsing -/

namespace Value

mutual

/-- What is read off tokens has these tokens. -/
theorem eq_tokens_of_read? : ∀ {fuel : Nat} {v : Value} {ts rest : List Token},
    read? fuel ts = some (v, rest) → ts = v.tokens ++ rest
  | 0, _, _, _, h => by cases h
  | fuel + 1, v, ts, rest, h => by
    rw [read?.eq_def] at h
    split at h
    case h_1 => cases h
    case h_8 =>
      obtain ⟨⟨vs, tail⟩, hvs, heq⟩ := Option.map_eq_some_iff.mp h
      obtain ⟨rfl, rfl⟩ := Prod.mk.inj heq
      obtain ⟨-, rfl⟩ := eq_elementTokens_of_readElements? hvs
      change _ = .openArray :: elementTokens vs ++ [.closeArray] ++ tail
      rw [List.append_assoc]
      rfl
    case h_10 =>
      obtain ⟨⟨ms, tail⟩, hms, heq⟩ := Option.map_eq_some_iff.mp h
      obtain ⟨rfl, rfl⟩ := Prod.mk.inj heq
      obtain ⟨-, rfl⟩ := eq_memberTokens_of_readMembers? hms
      change _ = .openObject :: memberTokens ms ++ [.closeObject] ++ tail
      rw [List.append_assoc]
      rfl
    case h_11 => cases h
    all_goals
      obtain ⟨rfl, rfl⟩ := Prod.mk.inj (Option.some.inj h)
      rfl

theorem eq_elementTokens_of_readElements? : ∀ {fuel : Nat} {vs : List Value}
    {ts rest : List Token}, readElements? fuel ts = some (vs, rest) →
    vs ≠ [] ∧ ts = elementTokens vs ++ .closeArray :: rest
  | 0, _, _, _, h => by cases h
  | fuel + 1, vs, ts, rest, h => by
    simp only [readElements?] at h
    split at h
    · next v ts hv =>
      obtain ⟨⟨vs, tail⟩, hvs, heq⟩ := Option.map_eq_some_iff.mp h
      obtain ⟨rfl, rfl⟩ := Prod.mk.inj heq
      obtain ⟨hne, rfl⟩ := eq_elementTokens_of_readElements? hvs
      refine ⟨List.cons_ne_nil _ _, ?_⟩
      rw [eq_tokens_of_read? hv, elementTokens_cons hne, List.append_assoc, List.cons_append]
    · next v ts hv =>
      obtain ⟨rfl, rfl⟩ := Prod.mk.inj (Option.some.inj h)
      exact ⟨List.cons_ne_nil _ _, eq_tokens_of_read? hv⟩
    · cases h

theorem eq_memberTokens_of_readMembers? : ∀ {fuel : Nat} {ms : List (String × Value)}
    {ts rest : List Token}, readMembers? fuel ts = some (ms, rest) →
    ms ≠ [] ∧ ts = memberTokens ms ++ .closeObject :: rest
  | 0, _, _, _, h => by cases h
  | fuel + 1, ms, ts, rest, h => by
    rw [readMembers?.eq_def] at h
    split at h
    · cases h
    · split at h
      · next v ts hv =>
        obtain ⟨⟨ms, tail⟩, hms, heq⟩ := Option.map_eq_some_iff.mp h
        obtain ⟨rfl, rfl⟩ := Prod.mk.inj heq
        obtain ⟨hne, rfl⟩ := eq_memberTokens_of_readMembers? hms
        refine ⟨List.cons_ne_nil _ _, ?_⟩
        rw [eq_tokens_of_read? hv, memberTokens_cons hne, List.append_assoc, List.cons_append]
        rfl
      · next v ts hv =>
        obtain ⟨rfl, rfl⟩ := Prod.mk.inj (Option.some.inj h)
        refine ⟨List.cons_ne_nil _ _, ?_⟩
        rw [eq_tokens_of_read? hv]
        rfl
      · cases h
    · cases h

end

theorem eq_tokens_of_ofTokens? {v : Value} {ts : List Token} (h : ofTokens? ts = some v) :
    ts = v.tokens := by
  rw [ofTokens?] at h
  split at h
  · next hread =>
    obtain rfl := Option.some.inj h
    rw [eq_tokens_of_read? hread, List.append_nil]
  · cases h

/-! ## From tokens to the grammar -/

theorem spells_of_lexeme {v : Value} (h : Lexemes [t] cs)
    (hv : ∀ ds, Lexeme t ds → Spells (.value v) ds) : Spells (.value v) cs := by
  obtain ⟨before, spelling, rest, rfl, hb, ht, hrest⟩ := h.exists_cons
  exact .blanks hb (hv _ ht) hrest.blank

/-- Tokens in brackets. -/
theorem exists_of_enclosed {first last : Token} (h : Lexemes (first :: ts ++ [last]) cs) :
    ∃ before opening inner closing after, cs = before ++ (opening ++ inner ++ closing) ++ after ∧
      Blank before ∧ Lexeme first opening ∧ Lexemes ts inner ∧ Lexeme last closing ∧
      Blank after := by
  obtain ⟨before, opening, rest, rfl, hb, ho, hrest⟩ := h.exists_cons
  obtain ⟨front, back, rfl, hts, hback⟩ := Lexemes.exists_append hrest
  obtain ⟨gap, closing, after, rfl, hgap, hc, ha⟩ := hback.exists_cons
  refine ⟨before, opening, front ++ gap, closing, after, ?_, hb, ho, hts.append_blank hgap, hc,
    ha.blank⟩
  simp only [List.append_assoc]

theorem spells_of_member {name : String} {v : Value} (h : Lexemes (memberTokens [(name, v)]) cs)
    (hv : ∀ ds, Lexemes v.tokens ds → Spells (.value v) ds) : Spells (.members [(name, v)]) cs := by
  obtain ⟨before, quoted, rest, rfl, hb, hq, hrest⟩ := h.exists_cons
  obtain ⟨after, colon, rest, rfl, ha, hcolon, hvalue⟩ := hrest.exists_cons
  cases hq with
  | string hq =>
    cases hcolon
    have hmember := Spells.member hb hq ha (hv _ hvalue)
    simpa only [List.append_assoc, List.singleton_append] using hmember

mutual

/-- A text in which the tokens of a value stand spells the value. -/
theorem spells_of_lexemes : ∀ (v : Value) {cs : List Char}, Lexemes v.tokens cs →
    Spells (.value v) cs
  | .null, _, h => spells_of_lexeme h fun _ ht ↦ by
    cases ht
    exact .null
  | .bool true, _, h => spells_of_lexeme h fun _ ht ↦ by
    cases ht
    exact .true
  | .bool false, _, h => spells_of_lexeme h fun _ ht ↦ by
    cases ht
    exact .false
  | .number n, _, h => spells_of_lexeme h fun _ ht ↦ by
    cases ht with
    | number hn => exact .number hn
  | .text s, _, h => spells_of_lexeme h fun _ ht ↦ by
    cases ht with
    | string hs => exact .text hs
  | .unpaired, _, h => spells_of_lexeme h fun _ ht ↦ by
    cases ht with
    | string hs => exact .unpaired hs
  | .array [], _, h => by
    obtain ⟨_, _, _, _, _, rfl, hb, ho, hinner, hc, ha⟩ := exists_of_enclosed h
    cases ho
    cases hc
    exact .blanks hb (.emptyArray hinner.blank) ha
  | .array (v :: vs), _, h => by
    obtain ⟨_, _, _, _, _, rfl, hb, ho, hinner, hc, ha⟩ := exists_of_enclosed h
    cases ho
    cases hc
    exact .blanks hb (.array (spells_of_elements (v :: vs) (List.cons_ne_nil v vs) hinner)) ha
  | .object [], _, h => by
    obtain ⟨_, _, _, _, _, rfl, hb, ho, hinner, hc, ha⟩ := exists_of_enclosed h
    cases ho
    cases hc
    exact .blanks hb (.emptyObject hinner.blank) ha
  | .object (m :: ms), _, h => by
    obtain ⟨_, _, _, _, _, rfl, hb, ho, hinner, hc, ha⟩ := exists_of_enclosed h
    cases ho
    cases hc
    exact .blanks hb (.object (spells_of_members (m :: ms) (List.cons_ne_nil m ms) hinner)) ha

theorem spells_of_elements : ∀ (vs : List Value) {cs : List Char}, vs ≠ [] →
    Lexemes (elementTokens vs) cs → Spells (.elements vs) cs
  | [], _, h, _ => absurd rfl h
  | [v], _, _, h => .element (spells_of_lexemes v h)
  | v :: w :: vs, _, _, h => by
    obtain ⟨front, back, rfl, hfront, hback⟩ := Lexemes.exists_append h
    obtain ⟨gap, comma, rest, rfl, hgap, hcomma, hrest⟩ := hback.exists_cons
    cases hcomma
    have hmore := Spells.moreElements (spells_of_lexemes v (hfront.append_blank hgap))
      (spells_of_elements (w :: vs) (List.cons_ne_nil w vs) hrest)
    simpa only [List.append_assoc, List.singleton_append] using hmore

theorem spells_of_members : ∀ (ms : List (String × Value)) {cs : List Char}, ms ≠ [] →
    Lexemes (memberTokens ms) cs → Spells (.members ms) cs
  | [], _, h, _ => absurd rfl h
  | [(_, v)], _, _, h => spells_of_member h fun _ ↦ spells_of_lexemes v
  | (name, v) :: m :: ms, _, _, h => by
    rw [memberTokens_cons (List.cons_ne_nil m ms)] at h
    obtain ⟨front, back, rfl, hfront, hback⟩ := Lexemes.exists_append h
    obtain ⟨gap, comma, rest, rfl, hgap, hcomma, hrest⟩ := hback.exists_cons
    cases hcomma
    have hfirst : Spells (.members [(name, v)]) (front ++ gap) :=
      spells_of_member (hfront.append_blank hgap) fun _ ↦ spells_of_lexemes v
    have hmore := hfirst.moreMembers (spells_of_members (m :: ms) (List.cons_ne_nil m ms) hrest)
    simpa only [List.append_assoc, List.singleton_append] using hmore

end

/-- The tokens of a value stand in its texts. -/
theorem spells_iff_lexemes {v : Value} : Spells (.value v) cs ↔ Lexemes v.tokens cs :=
  ⟨fun h ↦ Token.lexemes_of_scan? h.scan?_eq, spells_of_lexemes v⟩

/-- **Reading is spelling.** A text is read as a value exactly if it spells the value. -/
theorem parse?_eq_some_iff {v : Value} {text : String} :
    parse? text = some v ↔ Spells (.value v) text.toList := by
  constructor
  · intro h
    obtain ⟨ts, hscan, hts⟩ := Option.bind_eq_some_iff.mp h
    obtain rfl := eq_tokens_of_ofTokens? hts
    exact spells_of_lexemes v (Token.lexemes_of_scan? hscan)
  · exact Spells.parse?_eq

end Value

/-! ## Texts of some values -/

/-- The characters have a property, up to blanks around them. -/
def Padded (P : List Char → Prop) (cs : List Char) : Prop :=
  ∃ before core after, cs = before ++ core ++ after ∧ Blank before ∧ P core ∧ Blank after

/-- An object with one member; `inner` is the text of its value. -/
inductive SoleMember (name : String) (inner : List Char) : List Char → Prop where
  | intro {gap quoted gap' : List Char} : Blank gap → Quoted (some name) quoted → Blank gap' →
      SoleMember name inner ('\x7b' :: (gap ++ quoted ++ gap' ++ ':' :: inner) ++ ['\x7d'])

section Padded

variable {P Q : List Char → Prop} {name : String} {v : Value}

theorem Padded.imp (h : Padded P cs) (hPQ : ∀ ds, P ds → Q ds) : Padded Q cs := by
  obtain ⟨before, core, after, rfl, hb, hcore, ha⟩ := h
  exact ⟨before, core, after, rfl, hb, hPQ core hcore, ha⟩

theorem padded_of (h : P cs) : Padded P cs :=
  ⟨[], cs, [], by rw [List.nil_append, List.append_nil], blank_nil, h, blank_nil⟩

theorem spells_of_padded (h : Padded (Spells (.value v)) cs) : Spells (.value v) cs := by
  obtain ⟨before, core, after, rfl, hb, hcore, ha⟩ := h
  exact .blanks hb hcore ha

theorem padded_lexeme (h : Lexemes [t] cs) : Padded (Lexeme t) cs := by
  obtain ⟨before, core, after, rfl, hb, ht, ha⟩ := h.exists_cons
  exact ⟨before, core, after, rfl, hb, ht, ha.blank⟩

theorem spells_null_iff : Spells (.value .null) cs ↔ Padded (· = ['n', 'u', 'l', 'l']) cs := by
  constructor
  · refine fun h ↦ (padded_lexeme (Value.spells_iff_lexemes.mp h)).imp fun ds ht ↦ ?_
    cases ht
    rfl
  · refine fun h ↦ spells_of_padded (h.imp ?_)
    rintro ds rfl
    exact .null

theorem spells_number_iff {n : Number} :
    Spells (.value (.number n)) cs ↔ Padded (Numeral n) cs := by
  constructor
  · refine fun h ↦ (padded_lexeme (Value.spells_iff_lexemes.mp h)).imp fun ds ht ↦ ?_
    cases ht with
    | number hn => exact hn
  · exact fun h ↦ spells_of_padded (h.imp fun _ ↦ .number)

theorem spells_text_iff {s : String} :
    Spells (.value (.text s)) cs ↔ Padded (Quoted (some s)) cs := by
  constructor
  · refine fun h ↦ (padded_lexeme (Value.spells_iff_lexemes.mp h)).imp fun ds ht ↦ ?_
    cases ht with
    | string hs => exact hs
  · exact fun h ↦ spells_of_padded (h.imp fun _ ↦ .text)

theorem spells_soleMember_iff : Spells (.value (.object [(name, v)])) cs ↔
    ∃ inner, Padded (SoleMember name inner) cs ∧ Spells (.value v) inner := by
  constructor
  · intro h
    obtain ⟨before, _, members, _, after, rfl, hb, ho, hmembers, hc, ha⟩ :=
      Value.exists_of_enclosed (Value.spells_iff_lexemes.mp h)
    cases ho
    cases hc
    obtain ⟨gap, quoted, rest, rfl, hgap, hq, hrest⟩ := hmembers.exists_cons
    obtain ⟨gap', _, inner, rfl, hgap', hcolon, hinner⟩ := hrest.exists_cons
    cases hcolon
    cases hq with
    | string hq =>
      have hsole : SoleMember name inner _ := .intro hgap hq hgap'
      refine ⟨inner, ⟨before, _, after, ?_, hb, hsole, ha⟩, Value.spells_of_lexemes v hinner⟩
      simp only [List.append_assoc, List.cons_append, List.nil_append]
  · rintro ⟨inner, hpadded, hinner⟩
    refine spells_of_padded (hpadded.imp ?_)
    rintro ds ⟨hgap, hq, hgap'⟩
    exact .object (.member hgap hq hgap' hinner)

end Padded

end TaskMessaging.Json
