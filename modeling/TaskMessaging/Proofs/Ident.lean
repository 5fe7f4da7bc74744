import TaskMessaging.Ident
import TaskMessaging.Proofs.Json.Exact

/-!
# Identifiers and destinations in JSON

Which texts are read as an identifier or as a destination, and as which one. An identifier is
written with digits alone, and since a number has one numeral without needless zeros, its texts are
that numeral with blanks around it. A destination has many texts, as names may be spelled with
escapes and a broadcast has two forms, but there too reading undoes writing.
-/

namespace TaskMessaging

open Json (Blank Numeral Padded Quoted SoleMember Spells Value Whole)

/-! ## Texts -/

/-- The texts of a number that is written with digits alone. -/
def BareNumber (n : Nat) : List Char → Prop :=
  Padded fun digits ↦ Whole digits ∧ Decimal.value digits = n

/-- The texts of a destination. -/
inductive Destination.Spelled : Destination → List Char → Prop where
  | word {cs : List Char} : Padded (Quoted (some "broadcast")) cs → Spelled .broadcast cs
  | object {inner cs : List Char} : Padded (SoleMember "broadcast" inner) cs →
      Padded (· = ['n', 'u', 'l', 'l']) inner → Spelled .broadcast cs
  | task {id : TaskId} {inner cs : List Char} : Padded (SoleMember "task" inner) cs →
      BareNumber id.number.toNat inner → Spelled (.task id) cs

/-- Reading and writing numbers of so many bits as names of things. -/
structure NumberLaw (bits : Nat) {α : Type} (number : α → Nat) (ofText? : String → Option α)
    (toText : α → String) : Prop where
  lt : ∀ x, number x < Word.count bits
  /-- What is read is a bare number that fits. -/
  accepts : ∀ text, (∃ x, ofText? text = some x) ↔
    ∃ n < Word.count bits, BareNumber n text.toList
  reads : ∀ text x, ofText? text = some x ↔ BareNumber (number x) text.toList
  writes : ∀ x, toText x = Decimal.text (number x)
  inverse : ∀ x, ofText? (toText x) = some x
  /-- What is written of a text that was read is the text without its blanks. -/
  canonical : ∀ text x, ofText? text = some x →
    ofText? (toText x) = some x ∧ Padded (· = (toText x).toList) text.toList

/-- Reading and writing destinations. -/
structure DestinationLaw : Prop where
  reads : ∀ text d, Destination.ofJsonText? text = some d ↔ d.Spelled text.toList
  writes : ∀ d : Destination, d.toJson.toText.toList = match d with
    | .broadcast => '"' :: "broadcast".toList ++ ['"']
    | .task id => '\x7b' :: '"' :: "task".toList ++ '"' :: ':' :: Decimal.digits id.number.toNat ++
      ['\x7d']
  inverse : ∀ d : Destination, Destination.ofJsonText? d.toJson.toText = some d
  canonical : ∀ text d, Destination.ofJsonText? text = some d →
    Destination.ofJsonText? d.toJson.toText = some d

variable {cs : List Char} {n : Nat} {v : Value}

/-! ## Numbers -/

theorem natBelow?_eq_some_iff {bound : Nat} :
    v.natBelow? bound = some n ↔ (∃ m, v = .number m ∧ m.natural? = some n) ∧ n < bound := by
  cases v with
  | number m =>
    rw [Value.natBelow?, Option.filter_eq_some_iff, decide_eq_true_iff]
    simp
  | null | bool | text | unpaired | array | object => simp [Value.natBelow?]

/-- The texts of the values that a natural number is read off. -/
theorem exists_spells_natural_iff :
    (∃ m, Spells (.value (.number m)) cs ∧ m.natural? = some n) ↔ BareNumber n cs := by
  simp only [Json.spells_number_iff]
  constructor
  · rintro ⟨m, hspells, hn⟩
    exact hspells.imp fun _ hm ↦ Json.exists_numeral_natural.mp ⟨m, hm, hn⟩
  · rintro ⟨before, digits, after, rfl, hb, hdigits, ha⟩
    obtain ⟨m, hm, hn⟩ := Json.exists_numeral_natural.mpr hdigits
    exact ⟨m, ⟨before, digits, after, rfl, hb, hm, ha⟩, hn⟩

theorem BareNumber.padded (h : BareNumber n cs) : Padded (· = Decimal.digits n) cs :=
  Padded.imp h fun _ hd ↦ hd.2 ▸ hd.1.eq_digits

theorem bareNumber_digits (n : Nat) : BareNumber n (Decimal.digits n) :=
  Json.padded_of ⟨Json.whole_digits n, Decimal.value_digits n⟩

theorem render_nat (n : Nat) : (Value.nat n).render = Decimal.digits n := by
  show [] ++ Decimal.digits n ++ [] = _
  rw [List.nil_append, List.append_nil]

theorem toText_nat (n : Nat) : (Value.nat n).toText = Decimal.text n := by
  rw [Value.toText, render_nat, Decimal.text]

section Number

variable {bits : Nat} {α : Type} {number : α → Nat} {ofNat : Nat → α} {ofJson? : Value → Option α}

theorem map_natBelow?_eq_some_iff (hlt : ∀ x, number x < Word.count bits)
    (hnumber : ∀ n < Word.count bits, number (ofNat n) = n) (hofNat : ∀ x, ofNat (number x) = x)
    {x : α} : (v.natBelow? (Word.count bits)).map ofNat = some x ↔
      ∃ m, v = .number m ∧ m.natural? = some (number x) := by
  rw [Option.map_eq_some_iff]
  constructor
  · rintro ⟨n, hn, rfl⟩
    obtain ⟨hm, hbound⟩ := natBelow?_eq_some_iff.mp hn
    rwa [hnumber n hbound]
  · exact fun hm ↦ ⟨number x, natBelow?_eq_some_iff.mpr ⟨hm, hlt x⟩, hofNat x⟩

theorem uint16?_eq_some_iff {n : UInt16} :
    v.uint16? = some n ↔ ∃ m, v = .number m ∧ m.natural? = some n.toNat :=
  map_natBelow?_eq_some_iff UInt16.toNat_lt (fun _ ↦ UInt16.toNat_ofNat_of_lt')
    fun _ ↦ UInt16.ofNat_toNat

theorem uint64?_eq_some_iff {n : UInt64} :
    v.uint64? = some n ↔ ∃ m, v = .number m ∧ m.natural? = some n.toNat :=
  map_natBelow?_eq_some_iff UInt64.toNat_lt (fun _ ↦ UInt64.toNat_ofNat_of_lt')
    fun _ ↦ UInt64.ofNat_toNat

/-- Identifiers obey the law if they are read off the values of their numbers. -/
theorem number_law (hlt : ∀ x, number x < Word.count bits)
    (hsurjective : ∀ n < Word.count bits, ∃ x, number x = n)
    (hread : ∀ v x, ofJson? v = some x ↔ ∃ m, v = .number m ∧ m.natural? = some (number x)) :
    NumberLaw bits number (fun text ↦ (Value.parse? text).bind ofJson?)
      fun x ↦ (Value.nat (number x)).toText := by
  have reads (text : String) (x : α) :
      (Value.parse? text).bind ofJson? = some x ↔ BareNumber (number x) text.toList := by
    rw [Option.bind_eq_some_iff, ← exists_spells_natural_iff]
    constructor
    · rintro ⟨v, hparse, hv⟩
      obtain ⟨m, rfl, hm⟩ := (hread v x).mp hv
      exact ⟨m, Value.parse?_eq_some_iff.mp hparse, hm⟩
    · rintro ⟨m, hspells, hm⟩
      exact ⟨.number m, Value.parse?_eq_some_iff.mpr hspells, (hread _ x).mpr ⟨m, rfl, hm⟩⟩
  have inverse (x : α) : (Value.parse? (Value.nat (number x)).toText).bind ofJson? = some x := by
    rw [reads, toText_nat, Decimal.text, String.toList_ofList]
    exact bareNumber_digits (number x)
  refine ⟨hlt, fun text ↦ ⟨?_, ?_⟩, reads, fun x ↦ toText_nat (number x), inverse,
    fun text x h ↦ ⟨inverse x, ?_⟩⟩
  · rintro ⟨x, h⟩
    exact ⟨number x, hlt x, (reads text x).mp h⟩
  · rintro ⟨n, hn, h⟩
    obtain ⟨x, rfl⟩ := hsurjective n hn
    exact ⟨x, (reads text x).mpr h⟩
  · rw [toText_nat, Decimal.text, String.toList_ofList]
    exact ((reads text x).mp h).padded

end Number

theorem TaskId.ofJson?_eq_some_iff {id : TaskId} :
    TaskId.ofJson? v = some id ↔ ∃ m, v = .number m ∧ m.natural? = some id.number.toNat := by
  cases id
  rw [← uint16?_eq_some_iff, TaskId.ofJson?, Option.map_eq_some_iff]
  simp

theorem MessageKind.ofJson?_eq_some_iff {kind : MessageKind} :
    MessageKind.ofJson? v = some kind ↔
      ∃ m, v = .number m ∧ m.natural? = some kind.number.toNat := by
  cases kind
  rw [← uint16?_eq_some_iff, MessageKind.ofJson?, Option.map_eq_some_iff]
  simp

theorem TimerId.ofJson?_eq_some_iff {id : TimerId} :
    TimerId.ofJson? v = some id ↔ ∃ m, v = .number m ∧ m.natural? = some id.number.toNat := by
  cases id
  rw [← uint64?_eq_some_iff, TimerId.ofJson?, Option.map_eq_some_iff]
  simp

/-! ## Destinations -/

namespace Destination

variable {d : Destination}

/-- The values that are read as a destination. -/
inductive Presents : Destination → Value → Prop where
  | word : Presents .broadcast (.text "broadcast")
  | object : Presents .broadcast (.object [("broadcast", .null)])
  | task {id : TaskId} {v : Value} : TaskId.ofJson? v = some id →
      Presents (.task id) (.object [("task", v)])

theorem ofJson?_eq_some_iff : ofJson? v = some d ↔ Presents d v := by
  constructor
  · intro h
    rw [ofJson?.eq_def] at h
    split at h
    · cases h
      exact .word
    · cases h
      exact .object
    · obtain ⟨id, hid, rfl⟩ := Option.map_eq_some_iff.mp h
      exact .task hid
    · cases h
  · rintro (_ | _ | hid)
    · rfl
    · rfl
    · exact Option.map_eq_some_iff.mpr ⟨_, hid, rfl⟩

theorem exists_presents_iff : (∃ v, Spells (.value v) cs ∧ Presents d v) ↔ d.Spelled cs := by
  constructor
  · rintro ⟨v, hspells, _ | _ | htask⟩
    · exact .word (Json.spells_text_iff.mp hspells)
    · obtain ⟨inner, hsole, hnull⟩ := Json.spells_soleMember_iff.mp hspells
      exact .object hsole (Json.spells_null_iff.mp hnull)
    · obtain ⟨inner, hsole, hnumber⟩ := Json.spells_soleMember_iff.mp hspells
      obtain ⟨m, rfl, hm⟩ := TaskId.ofJson?_eq_some_iff.mp htask
      exact .task hsole (exists_spells_natural_iff.mp ⟨m, hnumber, hm⟩)
  · rintro (hword | ⟨hsole, hnull⟩ | ⟨hsole, hnumber⟩)
    · exact ⟨_, Json.spells_text_iff.mpr hword, .word⟩
    · exact ⟨_, Json.spells_soleMember_iff.mpr ⟨_, hsole, Json.spells_null_iff.mpr hnull⟩, .object⟩
    · obtain ⟨m, hspells, hm⟩ := exists_spells_natural_iff.mpr hnumber
      exact ⟨_, Json.spells_soleMember_iff.mpr ⟨_, hsole, hspells⟩,
        .task (TaskId.ofJson?_eq_some_iff.mpr ⟨m, rfl, hm⟩)⟩

theorem ofJsonText?_eq_some_iff {text : String} :
    ofJsonText? text = some d ↔ d.Spelled text.toList := by
  rw [ofJsonText?, Option.bind_eq_some_iff, ← exists_presents_iff]
  exact exists_congr fun v ↦ and_congr Value.parse?_eq_some_iff ofJson?_eq_some_iff

theorem presents_toJson (d : Destination) : Presents d d.toJson := by
  cases d with
  | broadcast => exact .word
  | task id => exact .task (TaskId.ofJson?_eq_some_iff.mpr ⟨_, rfl, rfl⟩)

theorem writable_toJson (d : Destination) : d.toJson.Writable := by
  cases d with
  | broadcast => trivial
  | task id => exact ⟨fun _ ↦ rfl, trivial⟩

theorem toList_toText (d : Destination) : d.toJson.toText.toList = match d with
    | .broadcast => '"' :: "broadcast".toList ++ ['"']
    | .task id => '\x7b' :: '"' :: "task".toList ++ '"' :: ':' :: Decimal.digits id.number.toNat ++
      ['\x7d'] := by
  rw [Value.toText, String.toList_ofList]
  cases d with
  | broadcast => rfl
  | task id =>
    show '\x7b' :: (Json.quote "task" ++ ':' :: (Value.nat id.number.toNat).render) ++ ['\x7d'] = _
    rw [render_nat]
    rfl

end Destination

/-! ## The law -/

/-- What the readers of identifiers and destinations accept, and that they undo the writers. -/
structure IdentifierLaw : Prop where
  tasks : NumberLaw 16 (fun id : TaskId ↦ id.number.toNat) TaskId.ofJsonText?
    fun id ↦ id.toJson.toText
  kinds : NumberLaw 16 (fun kind : MessageKind ↦ kind.number.toNat) MessageKind.ofJsonText?
    fun kind ↦ kind.toJson.toText
  timers : NumberLaw 64 (fun id : TimerId ↦ id.number.toNat) TimerId.ofJsonText?
    fun id ↦ id.toJson.toText
  destinations : DestinationLaw

theorem destination_law : DestinationLaw := by
  have inverse (d : Destination) : Destination.ofJsonText? d.toJson.toText = some d := by
    rw [Destination.ofJsonText?, Value.parse?_toText d.writable_toJson, Option.bind_some]
    exact Destination.ofJson?_eq_some_iff.mpr d.presents_toJson
  exact ⟨fun _ _ ↦ Destination.ofJsonText?_eq_some_iff, Destination.toList_toText, inverse,
    fun _ d _ ↦ inverse d⟩

theorem identifier_law : IdentifierLaw where
  tasks := number_law (fun id ↦ id.number.toNat_lt)
    (fun n hn ↦ ⟨⟨UInt16.ofNat n⟩, UInt16.toNat_ofNat_of_lt' hn⟩) fun _ _ ↦
      TaskId.ofJson?_eq_some_iff
  kinds := number_law (fun kind ↦ kind.number.toNat_lt)
    (fun n hn ↦ ⟨⟨UInt16.ofNat n⟩, UInt16.toNat_ofNat_of_lt' hn⟩) fun _ _ ↦
      MessageKind.ofJson?_eq_some_iff
  timers := number_law (fun id ↦ id.number.toNat_lt)
    (fun n hn ↦ ⟨⟨UInt64.ofNat n⟩, UInt64.toNat_ofNat_of_lt' hn⟩) fun _ _ ↦
      TimerId.ofJson?_eq_some_iff
  destinations := destination_law

example : TaskId.ofJsonText? " 65535\n" = some ⟨65535⟩ ∧ TaskId.ofJsonText? "65536" = none ∧
    TaskId.ofJsonText? "-0" = none ∧ TaskId.ofJsonText? "1e0" = none := by
  decide +kernel

end TaskMessaging
