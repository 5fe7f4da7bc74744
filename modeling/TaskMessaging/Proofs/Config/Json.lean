import TaskMessaging.Config.Json
import TaskMessaging.Proofs.Config.Reader
import TaskMessaging.Proofs.Json.Grammar
import TaskMessaging.Proofs.Json.Record

/-!
# Configurations in JSON

What a configuration is written as is read as that configuration. More generally a document may
leave out any fields, which then have their defaults, may give the others in any order, with any
blanks and any escapes in its strings, and may have scalars under unknown names. It may not give a
field twice.

A document that leaves out fields is described by what it *selects*: some of the top-level fields
and, within each section, some of its fields. `Config.select` takes the selected fields from a
configuration and the others from the defaults, and `Abridges` says which values present them.
-/

namespace TaskMessaging.Config

open Json (Value Spells)
open Json.Value (Carries chosen occurrences)

/-! ## Selections -/

/-- The fields that a document gives. -/
structure Selection where
  fields : String → Bool
  /-- By the name of the section and the name of the field in it. -/
  inside : String → String → Bool

/-- A value that is given, or a default. -/
def pick {α : Type} (given : Bool) (x default : α) : α := if given then x else default

def MailboxSection.select (choice : String → Bool) (s : MailboxSection) : MailboxSection where
  capacity := pick (choice "capacity") s.capacity default.capacity

def DispatcherSection.select (choice : String → Bool) (s : DispatcherSection) :
    DispatcherSection where
  stopOnFault := pick (choice "stop_on_fault") s.stopOnFault default.stopOnFault
  installSignalMask :=
    pick (choice "install_signal_mask") s.installSignalMask default.installSignalMask

def DiagnosticsSection.select (choice : String → Bool) (s : DiagnosticsSection) :
    DiagnosticsSection where
  enabled := pick (choice "enabled") s.enabled default.enabled
  bindAddress := pick (choice "bind_address") s.bindAddress default.bindAddress
  port := pick (choice "port") s.port default.port
  maxConnections := pick (choice "max_connections") s.maxConnections default.maxConnections
  buffer := pick (choice "buffer") s.buffer default.buffer

def LoggingSection.select (choice : String → Bool) (s : LoggingSection) : LoggingSection where
  level := pick (choice "level") s.level default.level
  json := pick (choice "json") s.json default.json

/-- The configuration with the selected fields of another one, and defaults for the others. -/
def select (sel : Selection) (c : Config) : Config where
  pools := pick (sel.fields "pools") c.pools default.pools
  mailbox := pick (sel.fields "mailbox") (c.mailbox.select (sel.inside "mailbox")) default.mailbox
  dispatcher := pick (sel.fields "dispatcher") (c.dispatcher.select (sel.inside "dispatcher"))
    default.dispatcher
  diagnostics := pick (sel.fields "diagnostics") (c.diagnostics.select (sel.inside "diagnostics"))
    default.diagnostics
  logging := pick (sel.fields "logging") (c.logging.select (sel.inside "logging")) default.logging
  fatalPolicy := pick (sel.fields "fatal_policy") c.fatalPolicy default.fatalPolicy

/-! ## Documents -/

/-- The members of an object. -/
def members : Value → List (String × Value)
  | .object ms => ms
  | _ => []

/-- A document with the selected fields of a configuration. -/
inductive Abridges (sel : Selection) (c : Config) : Value → Prop where
  | intro {pools : List Value} {mailbox dispatcher diagnostics logging v : Value} :
      List.Forall₂ (fun p ↦ Carries PoolSpec.fieldNames (members (PoolSpec.toJson p)))
        c.pools pools →
      Carries MailboxSection.fieldNames
        (chosen (sel.inside "mailbox") (members c.mailbox.toJson)) mailbox →
      Carries DispatcherSection.fieldNames
        (chosen (sel.inside "dispatcher") (members c.dispatcher.toJson)) dispatcher →
      Carries DiagnosticsSection.fieldNames
        (chosen (sel.inside "diagnostics") (members c.diagnostics.toJson)) diagnostics →
      Carries LoggingSection.fieldNames
        (chosen (sel.inside "logging") (members c.logging.toJson)) logging →
      Carries fieldNames (chosen sel.fields [("pools", .array pools), ("mailbox", mailbox),
        ("dispatcher", dispatcher), ("diagnostics", diagnostics), ("logging", logging),
        ("fatal_policy", c.fatalPolicy.toJson)]) v →
      Abridges sel c v

variable {sel : Selection} {c : Config} {v : Value} {choice : String → Bool}

/-! ## Reading -/

theorem given?_if {α : Type} {read : Value → Option α} {x default : α} (b : Bool)
    (h : read v = some x) :
    given? read default (if b then some v else none) = some (pick b x default) := by
  cases b with
  | true => exact h
  | false => rfl

section Given

variable (b : Bool)

theorem given?_uint64 (n default : UInt64) :
    given? jsonReader.uint64? default (if b then some (.nat n.toNat) else none) =
      some (pick b n default) := given?_if b (uint64?_nat n)

theorem given?_uint16 (n default : UInt16) :
    given? jsonReader.uint16? default (if b then some (.nat n.toNat) else none) =
      some (pick b n default) := given?_if b (uint16?_nat n)

theorem given?_bool (x default : Bool) :
    given? jsonReader.bool? default (if b then some (.bool x) else none) =
      some (pick b x default) := given?_if b rfl

theorem given?_text (s default : String) :
    given? jsonReader.text? default (if b then some (.text s) else none) =
      some (pick b s default) := given?_if b rfl

end Given

theorem MailboxSection.read?_of_carries {s : MailboxSection}
    (h : Carries fieldNames (chosen choice (members s.toJson)) v) :
    read? jsonReader v = some (s.select choice) :=
  read?_eq_some (h.fields?_chosen rfl (by decide)) (given?_uint64 _ _ _)

theorem DispatcherSection.read?_of_carries {s : DispatcherSection}
    (h : Carries fieldNames (chosen choice (members s.toJson)) v) :
    read? jsonReader v = some (s.select choice) :=
  read?_eq_some (h.fields?_chosen rfl (by decide)) (given?_bool _ _ _) (given?_bool _ _ _)

theorem DiagnosticsSection.read?_of_carries {s : DiagnosticsSection}
    (h : Carries fieldNames (chosen choice (members s.toJson)) v) :
    read? jsonReader v = some (s.select choice) :=
  read?_eq_some (h.fields?_chosen rfl (by decide)) (given?_bool _ _ _) (given?_text _ _ _)
    (given?_uint16 _ _ _) (given?_uint64 _ _ _) (given?_uint64 _ _ _)

theorem LoggingSection.read?_of_carries {s : LoggingSection}
    (h : Carries fieldNames (chosen choice (members s.toJson)) v) :
    read? jsonReader v = some (s.select choice) :=
  read?_eq_some (h.fields?_chosen rfl (by decide)) (given?_text _ _ _) (given?_bool _ _ _)

theorem PoolSpec.read?_of_carries {p : PoolSpec}
    (h : Carries fieldNames (members p.toJson) v) : read? jsonReader v = some p := by
  rw [← Json.Value.chosen_all (members p.toJson)] at h
  exact read?_eq_some (h.fields?_chosen rfl (by decide)) rfl rfl (uint64?_nat _) (uint64?_nat _)

theorem readPools?_of_carries {ps : List PoolSpec} {vs : List Value}
    (h : List.Forall₂ (fun p ↦ Carries PoolSpec.fieldNames (members (PoolSpec.toJson p))) ps vs) :
    readPools? jsonReader (.array vs) = some ps :=
  readPools?_eq_some rfl (h.imp fun _ _ ↦ PoolSpec.read?_of_carries)

/-- **Reading** takes the fields that a document gives, and defaults for the others. -/
theorem ofJson?_of_abridges (h : Abridges sel c v) : ofJson? v = some (c.select sel) := by
  cases h with
  | intro hpools hmailbox hdispatcher hdiagnostics hlogging hc =>
    exact read?_eq_some (hc.fields?_chosen rfl (by decide))
      (given?_if _ (readPools?_of_carries hpools))
      (given?_if _ (MailboxSection.read?_of_carries hmailbox))
      (given?_if _ (DispatcherSection.read?_of_carries hdispatcher))
      (given?_if _ (DiagnosticsSection.read?_of_carries hdiagnostics))
      (given?_if _ (LoggingSection.read?_of_carries hlogging))
      (given?_if _ (FatalPolicy.ofJson?_toJson c.fatalPolicy))

/-! ## Writing -/

/-- Everything is given. -/
def Selection.everything : Selection := ⟨fun _ ↦ true, fun _ _ ↦ true⟩

theorem abridges_toJson (c : Config) : Abridges .everything c c.toJson := by
  have hsection {names : List String} {ms : List (String × Value)} :
      Carries names (chosen (fun _ ↦ true) ms) (.object ms) := by
    rw [Json.Value.chosen_all]
    exact Json.Value.carries_self names ms
  refine .intro ?_ hsection hsection hsection hsection hsection
  rw [List.forall₂_map_right_iff]
  exact List.forall₂_same.mpr fun p _ ↦ Json.Value.carries_self _ _

theorem writable_nat (n : Nat) : (Value.nat n).Writable := fun _ ↦ rfl

theorem writable_pools (ps : List PoolSpec) :
    Value.WritableElements (ps.map PoolSpec.toJson) := by
  induction ps with
  | nil => exact trivial
  | cons p ps ih => exact ⟨⟨writable_nat _, writable_nat _, trivial⟩, ih⟩

theorem writable_toJson (c : Config) : c.toJson.Writable :=
  ⟨writable_pools c.pools, ⟨writable_nat _, trivial⟩, ⟨trivial, trivial, trivial⟩,
    ⟨trivial, trivial, writable_nat _, writable_nat _, writable_nat _, trivial⟩,
    ⟨trivial, trivial, trivial⟩, trivial, trivial⟩

/-! ## Rejecting -/

/-- The sections and the names of their fields. -/
def sections : List (String × List String) :=
  [("mailbox", MailboxSection.fieldNames), ("dispatcher", DispatcherSection.fieldNames),
    ("diagnostics", DiagnosticsSection.fieldNames), ("logging", LoggingSection.fieldNames)]

/-- A document that gives a field twice in one object, or that leaves out a field of a pool. -/
inductive Malformed : Value → Prop where
  | field {name : String} {ms : List (String × Value)} : name ∈ fieldNames →
      1 < occurrences name ms → Malformed (.object ms)
  | inSection {name field : String} {names : List String} {ms fields : List (String × Value)} :
      (name, names) ∈ sections → (name, .object fields) ∈ ms → field ∈ names →
      1 < occurrences field fields → Malformed (.object ms)
  | inPool {field : String} {ms fields : List (String × Value)} {pools : List Value} :
      ("pools", .array pools) ∈ ms → .object fields ∈ pools → field ∈ PoolSpec.fieldNames →
      occurrences field fields ≠ 1 → Malformed (.object ms)

variable {name field : String} {names : List String} {ms fields : List (String × Value)}

theorem fields?_object (h : ∀ n ∈ names, occurrences n ms ≤ 1) :
    Value.fields? names (.object ms) = some (names.map fun n ↦ ms.lookup n) :=
  if_pos (List.all_eq_true.mpr fun n hn ↦ decide_eq_true (h n hn))

theorem fields?_eq_none (hn : name ∈ names) (h : 1 < occurrences name ms) :
    Value.fields? names (.object ms) = none := by
  refine if_neg fun hall ↦ Nat.not_le_of_lt h ?_
  exact of_decide_eq_true (List.all_eq_true.mp hall name hn)

theorem given?_eq_none {α β : Type} {read : β → Option α} {default : α} {o : Option β} {x : β}
    (ho : o = some x) (h : read x = none) : given? read default o = none := by
  rw [ho]
  exact h

theorem PoolSpec.read?_eq_none (hn : field ∈ fieldNames) (h : occurrences field fields ≠ 1) :
    read? jsonReader (.object fields) = none := by
  by_cases hrepeated : ∃ n ∈ fieldNames, 1 < occurrences n fields
  · obtain ⟨n, hn, hlt⟩ := hrepeated
    exact congrArg (Option.bind · _) (fields?_eq_none hn hlt)
  · have honce : ∀ n ∈ fieldNames, occurrences n fields ≤ 1 := fun n hn ↦
      Nat.le_of_not_lt fun hlt ↦ hrepeated ⟨n, hn, hlt⟩
    have hmissing : fields.lookup field = none := by
      rw [List.lookup_eq_none_iff]
      rintro m hm
      rw [bne_iff_ne]
      rintro rfl
      have hzero : occurrences m.1 fields = 0 := by
        have := honce _ hn
        omega
      exact Json.Value.occurrences_eq_zero.mp hzero (List.mem_map_of_mem hm)
    refine (congrArg (Option.bind · _) (fields?_object honce)).trans ?_
    rcases List.mem_pair.mp hn with rfl | rfl
    · simp only [fieldNames, List.map_cons, List.map_nil, Option.bind_some, hmissing]
    · simp only [fieldNames, List.map_cons, List.map_nil, Option.bind_some, hmissing]
      cases fields.lookup "item_count" <;> rfl

theorem readPools?_eq_none {pools : List Value} (hv : v ∈ pools)
    (h : PoolSpec.read? jsonReader v = none) : readPools? jsonReader (.array pools) = none := by
  change pools.mapM (PoolSpec.read? jsonReader) = none
  induction pools with
  | nil => exact absurd hv List.not_mem_nil
  | cons w pools ih =>
    rw [List.mapM_cons]
    rcases List.mem_cons.mp hv with rfl | hmem
    · rw [h]
      rfl
    · rw [ih hmem]
      cases PoolSpec.read? jsonReader w <;> rfl

/-- What is read off a document, where no field is repeated. -/
theorem ofJson?_object (h : ∀ n ∈ fieldNames, occurrences n ms ≤ 1) :
    ofJson? (.object ms) = (do
      return {
        pools := ← given? (readPools? jsonReader) default.pools (ms.lookup "pools")
        mailbox := ← given? (MailboxSection.read? jsonReader) default.mailbox (ms.lookup "mailbox")
        dispatcher :=
          ← given? (DispatcherSection.read? jsonReader) default.dispatcher (ms.lookup "dispatcher")
        diagnostics := ← given? (DiagnosticsSection.read? jsonReader) default.diagnostics
          (ms.lookup "diagnostics")
        logging := ← given? (LoggingSection.read? jsonReader) default.logging (ms.lookup "logging")
        fatalPolicy :=
          ← given? jsonReader.policy? default.fatalPolicy (ms.lookup "fatal_policy") }) :=
  congrArg (Option.bind · _) (fields?_object h)

/-- Either a document is not read, or it gives every field once at most. -/
theorem ofJson?_eq_none_or (ms : List (String × Value)) :
    ofJson? (.object ms) = none ∨ ∀ n ∈ fieldNames, occurrences n ms ≤ 1 := by
  by_cases h : ∀ n ∈ fieldNames, occurrences n ms ≤ 1
  · exact Or.inr h
  · simp only [not_forall, Nat.not_le] at h
    obtain ⟨n, hn, hlt⟩ := h
    exact Or.inl (congrArg (Option.bind · _) (fields?_eq_none hn hlt))

theorem ofJson?_of_section (hsection : (name, names) ∈ sections)
    (hmem : (name, .object fields) ∈ ms) (hfield : field ∈ names)
    (hlt : 1 < occurrences field fields) : ofJson? (.object ms) = none := by
  refine (ofJson?_eq_none_or ms).elim id fun honce ↦ ?_
  have hlookup (hn : name ∈ fieldNames) : ms.lookup name = some (.object fields) :=
    Json.Value.lookup_of_mem hmem (honce name hn)
  have hfields := fields?_eq_none hfield hlt
  rw [ofJson?_object honce]
  simp only [sections, List.mem_cons, Prod.mk.injEq, List.not_mem_nil, or_false] at hsection
  rcases hsection with ⟨rfl, rfl⟩ | ⟨rfl, rfl⟩ | ⟨rfl, rfl⟩ | ⟨rfl, rfl⟩
  · have hread : MailboxSection.read? jsonReader (.object fields) = none :=
      congrArg (Option.bind · _) hfields
    simp [given?_eq_none (hlookup (by decide)) hread]
  · have hread : DispatcherSection.read? jsonReader (.object fields) = none :=
      congrArg (Option.bind · _) hfields
    simp [given?_eq_none (hlookup (by decide)) hread]
  · have hread : DiagnosticsSection.read? jsonReader (.object fields) = none :=
      congrArg (Option.bind · _) hfields
    simp [given?_eq_none (hlookup (by decide)) hread]
  · have hread : LoggingSection.read? jsonReader (.object fields) = none :=
      congrArg (Option.bind · _) hfields
    simp [given?_eq_none (hlookup (by decide)) hread]

theorem ofJson?_of_pool {pools : List Value} (hmem : ("pools", .array pools) ∈ ms)
    (hpool : .object fields ∈ pools) (hfield : field ∈ PoolSpec.fieldNames)
    (hne : occurrences field fields ≠ 1) : ofJson? (.object ms) = none := by
  refine (ofJson?_eq_none_or ms).elim id fun honce ↦ ?_
  have hlookup := Json.Value.lookup_of_mem hmem (honce "pools" (by decide))
  have hread := readPools?_eq_none hpool (PoolSpec.read?_eq_none hfield hne)
  rw [ofJson?_object honce]
  simp [given?_eq_none hlookup hread]

/-- What is malformed is not read. -/
theorem ofJson?_of_malformed (h : Malformed v) : ofJson? v = none := by
  cases h with
  | field hn hlt => exact congrArg (Option.bind · _) (fields?_eq_none hn hlt)
  | inSection hsection hmem hfield hlt => exact ofJson?_of_section hsection hmem hfield hlt
  | inPool hmem hpool hfield hne => exact ofJson?_of_pool hmem hpool hfield hne

/-! ## The law -/

theorem ofJsonText?_of_spells {text : String} (h : Spells (.value v) text.toList) :
    ofJsonText? text = ofJson? v := by
  rw [ofJsonText?, h.parse?_eq, Option.bind_some]

/-- What documents about a configuration are read as. -/
structure JsonLaw (c : Config) : Prop where
  inverse : ofJsonText? c.toJson.toText = some c
  /-- A document may leave out fields, and may be spelled in any way. -/
  gaps : ∀ sel v (text : String), Abridges sel c v → Spells (.value v) text.toList →
    ofJsonText? text = some (c.select sel)
  malformed : ∀ v (text : String), Malformed v → Spells (.value v) text.toList →
    ofJsonText? text = none

/-- **Reading inverts writing**, and fills what is left out with defaults. -/
theorem json_law (c : Config) : JsonLaw c where
  inverse := by
    rw [ofJsonText?, Value.parse?_toText (writable_toJson c), Option.bind_some]
    exact ofJson?_of_abridges (abridges_toJson c)
  gaps _ _ _ h hspells := (ofJsonText?_of_spells hspells).trans (ofJson?_of_abridges h)
  malformed _ _ h hspells := (ofJsonText?_of_spells hspells).trans (ofJson?_of_malformed h)

/-- A document with a gap, an escape, an unknown field and blanks. -/
example : ofJsonText? " \x7b \"x\":-1.5e3,\"logging\" :\x7b\"level\":\"\\u0061\\n\"\x7d\x7d " =
    some { default with logging := ⟨"a\n", false⟩ } := by decide +kernel

end TaskMessaging.Config
