import TaskMessaging.Config.Json
import TaskMessaging.Proofs.Diagnostics.Stream
import TaskMessaging.Proofs.Ident
import TaskMessaging.Proofs.Json.Line
import TaskMessaging.Text.Split

/-!
# Reading records back

A client is sent one record after the other with a line feed behind each, and nothing else tells it
where a record ends. The name of a kind is whatever its registrant chose, line feeds and quotes
included. Here is why the client still gets every record, and exactly as it was made: a line is
read as an object that shows each field of its record, and there is no line feed in it, so that a
text of lines is cut into just these lines.
-/

namespace TaskMessaging

/-! ## Cutting lines -/

namespace Text

variable {mark : Char} {part : List Char}

/-- The first part ends at the first mark. -/
theorem splitAt_append_cons (h : mark ∉ part) (cs : List Char) :
    splitAt mark (part ++ mark :: cs) = part :: splitAt mark cs := by
  induction part with
  | nil => exact if_pos rfl
  | cons c part ih =>
    rw [List.mem_cons, not_or] at h
    rw [List.cons_append, splitAt, if_neg (Ne.symm h.1), ih h.2]

theorem splitAt_flatMap {α : Type} {f : α → List Char} (h : ∀ x, mark ∉ f x) (xs : List α) :
    splitAt mark (xs.flatMap fun x ↦ f x ++ [mark]) = xs.map f ++ [[]] := by
  induction xs with
  | nil => rfl
  | cons x xs ih =>
    rw [List.flatMap_cons, List.append_assoc, List.singleton_append, splitAt_append_cons (h x), ih]
    rfl

end Text

/-! ## Bytes -/

theorem toList_loop (bytes : ByteArray) (i : Nat) (done : List UInt8) :
    ByteArray.toList.loop bytes i done = done.reverse ++ bytes.data.toList.drop i := by
  fun_induction ByteArray.toList.loop bytes i done with
  | case1 i done h ih =>
    have hi : i < bytes.data.toList.length := h
    have hget : bytes.get! i = bytes.data.toList[i] := getElem!_pos bytes.data i h
    rw [ih, List.drop_eq_getElem_cons hi, hget, List.reverse_cons, List.append_assoc,
      List.singleton_append]
  | case2 i done h => rw [List.drop_eq_nil_of_le (Nat.le_of_not_lt h), List.append_nil]

theorem DiagnosticClient.wire_eq (line : String) :
    wire line = (line ++ "\n").toByteArray.data.toList := toList_loop _ 0 []

namespace MessageRecord

open Json (OnLine Value)

/-! ## Readers -/

/-- The record that a line stands for. -/
def ofLine? (line : String) : Option MessageRecord := (Value.parse? line).bind ofJson?

/-- The records of a text that holds one line for each, every line with its end. -/
def ofText? (text : String) : Option (List MessageRecord) :=
  let parts := Text.splitAt '\n' text.toList
  if parts.getLast? = some [] then parts.dropLast.mapM fun part ↦ ofLine? (String.ofList part)
  else none

/-- The records that were sent as these bytes. -/
def ofWire? (bytes : List UInt8) : Option (List MessageRecord) :=
  (String.fromUTF8? bytes.toByteArray).bind ofText?

/-- The lines of some records, every line with its end. -/
def text (rs : List MessageRecord) : String :=
  String.ofList (rs.flatMap fun r ↦ r.line.toList ++ ['\n'])

/-- The lines of some records as bytes. -/
def wire (rs : List MessageRecord) : List UInt8 := rs.flatMap fun r ↦ DiagnosticClient.wire r.line

/-- The members of an object, in whatever order, show the fields of a record. -/
structure Shows (r : MessageRecord) (members : List (String × Value)) : Prop where
  nodup : (members.map (·.1)).Nodup
  sequence : (members.lookup "sequence").bind Value.uint64? = some r.sequence
  kind : (members.lookup "kind").bind MessageKind.ofJson? = some r.kind
  kindName : (members.lookup "kind_name").bind Value.text? = some r.kindName
  origin : (members.lookup "origin").bind TaskId.ofJson? = some r.origin
  destination : (members.lookup "destination").bind Destination.ofJson? = some r.destination
  payloadLength : (members.lookup "payload_len").bind Value.uint64? = some r.payloadLength
  timestamp : (members.lookup "timestamp_ns").bind Value.uint64? = some r.timestamp

/-! ## One record -/

variable {r other : MessageRecord} {ms : List (String × Value)}

theorem writable_toJson (r : MessageRecord) : r.toJson.Writable :=
  ⟨fun _ ↦ rfl, fun _ ↦ rfl, trivial, fun _ ↦ rfl, r.destination.writable_toJson, fun _ ↦ rfl,
    fun _ ↦ rfl, trivial⟩

theorem parse?_line (r : MessageRecord) : Value.parse? r.line = some r.toJson :=
  Value.parse?_toText r.writable_toJson

theorem onLine_line (r : MessageRecord) : OnLine r.line.toList := by
  rw [line, Value.toText, String.toList_ofList]
  exact r.toJson.onLine_render

theorem exists_shows (r : MessageRecord) : ∃ ms, r.toJson = .object ms ∧ Shows r ms := by
  refine ⟨_, rfl, ?_, ?_, ?_, ?_, ?_, ?_, ?_, ?_⟩
  · show List.Nodup ["sequence", "kind", "kind_name", "origin", "destination", "payload_len",
      "timestamp_ns"]
    decide
  · exact Config.uint64?_nat r.sequence
  · exact MessageKind.ofJson?_eq_some_iff.mpr ⟨_, rfl, rfl⟩
  · rfl
  · exact TaskId.ofJson?_eq_some_iff.mpr ⟨_, rfl, rfl⟩
  · exact Destination.ofJson?_eq_some_iff.mpr r.destination.presents_toJson
  · exact Config.uint64?_nat r.payloadLength
  · exact Config.uint64?_nat r.timestamp

theorem ofJson?_toJson (r : MessageRecord) : ofJson? r.toJson = some r := by
  have hkind : MessageKind.ofJson? r.kind.toJson = some r.kind :=
    MessageKind.ofJson?_eq_some_iff.mpr ⟨_, rfl, rfl⟩
  have horigin : TaskId.ofJson? r.origin.toJson = some r.origin :=
    TaskId.ofJson?_eq_some_iff.mpr ⟨_, rfl, rfl⟩
  have hdestination : Destination.ofJson? r.destination.toJson = some r.destination :=
    Destination.ofJson?_eq_some_iff.mpr r.destination.presents_toJson
  rw [toJson, ofJson?, Config.uint64?_nat, hkind, horigin, hdestination, Config.uint64?_nat,
    Config.uint64?_nat]
  rfl

theorem ofLine?_line (r : MessageRecord) : ofLine? r.line = some r := by
  rw [ofLine?, parse?_line, Option.bind_some, ofJson?_toJson]

theorem line_injective : Function.Injective line := fun r other h ↦
  Option.some_inj.mp (by rw [← ofLine?_line r, h, ofLine?_line])

/-! ## Many records -/

variable (rs : List MessageRecord)

theorem splitAt_text :
    Text.splitAt '\n' (text rs).toList = rs.map (fun r ↦ r.line.toList) ++ [[]] := by
  rw [text, String.toList_ofList]
  exact Text.splitAt_flatMap (fun r ↦ r.onLine_line.newline_notMem) rs

theorem mapM_ofLine?_line :
    (rs.map fun r ↦ r.line.toList).mapM (fun part ↦ ofLine? (String.ofList part)) = some rs := by
  induction rs with
  | nil => rfl
  | cons r rs ih =>
    rw [List.map_cons, List.mapM_cons, String.ofList_toList, ofLine?_line, ih]
    rfl

theorem ofText?_text : ofText? (text rs) = some rs := by
  rw [ofText?, splitAt_text]
  simp only [List.getLast?_append, List.getLast?_singleton, Option.some_or, if_true,
    List.dropLast_concat]
  exact mapM_ofLine?_line rs

theorem wire_eq (rs : List MessageRecord) : wire rs = (text rs).toByteArray.data.toList := by
  induction rs with
  | nil => rfl
  | cons r rs ih =>
    have htext : text (r :: rs) = (r.line ++ "\n") ++ text rs := by
      rw [text, List.flatMap_cons, String.ofList_append, String.ofList_append, String.ofList_toList]
      rfl
    rw [htext, String.toByteArray_append, ByteArray.data_append, Array.toList_append, ← ih,
      ← DiagnosticClient.wire_eq]
    rfl

theorem ofWire?_wire (rs : List MessageRecord) : ofWire? (wire rs) = some rs := by
  have hbytes : (wire rs).toByteArray = (text rs).toByteArray := by
    rw [wire_eq]
    exact ByteArray.ext (Array.toList_inj.mp List.toList_data_toByteArray)
  rw [ofWire?, hbytes, String.fromUTF8?, dif_pos (text rs).isValidUTF8]
  exact ofText?_text rs

/-! ## The law -/

/-- What a client can make of the lines it is sent. -/
structure LineLaw : Prop where
  /-- There is no control character in a line, in particular no line feed. -/
  onLine : ∀ r : MessageRecord, OnLine r.line.toList
  /-- A line is one object with every field of its record. -/
  shows : ∀ r : MessageRecord, ∃ ms, Value.parse? r.line = some (.object ms) ∧ Shows r ms
  reads : ∀ r : MessageRecord, ofLine? r.line = some r
  injective : Function.Injective line
  /-- A text of lines is cut into these lines, with nothing behind the last one. -/
  splits : ∀ rs, Text.splitAt '\n' (text rs).toList = rs.map (fun r ↦ r.line.toList) ++ [[]]
  readsText : ∀ rs, ofText? (text rs) = some rs
  readsWire : ∀ rs, ofWire? (wire rs) = some rs

theorem line_law : LineLaw where
  onLine := onLine_line
  shows := fun r ↦ by
    obtain ⟨ms, hms, hshows⟩ := r.exists_shows
    exact ⟨ms, hms ▸ r.parse?_line, hshows⟩
  reads := ofLine?_line
  injective := line_injective
  splits := splitAt_text
  readsText := ofText?_text
  readsWire := ofWire?_wire

end MessageRecord

end TaskMessaging
