import TaskMessaging.Ident
import TaskMessaging.Limits
import TaskMessaging.Pool.Narration

/-!
# Envelopes

An envelope wraps one payload with its routing header. The header never changes; the payload is
either owned, and then moved out exactly once, or merely referenced. Whoever takes an owned
payload has to release it, and a copy for another recipient is made by a fork, which gives the
copy a payload of its own exactly when the template owns one.
-/

namespace TaskMessaging

/-- A payload small enough to travel in the envelope. -/
structure InlinePayload where
  bytes : List UInt8
  length_le : bytes.length ≤ Limits.inlineBytes

instance : DecidableEq InlinePayload := fun a b ↦
  decidable_of_iff (a.bytes = b.bytes) (by cases a; cases b; simp)

namespace InlinePayload

/-- The bytes as an inline payload, if they are few enough. -/
def ofBytes? (bytes : List UInt8) : Option InlinePayload :=
  if h : bytes.length ≤ Limits.inlineBytes then some ⟨bytes, h⟩ else none

/-- The bytes as decimal numbers. -/
def text (p : InlinePayload) : String :=
  "InlinePayload([" ++ String.intercalate ", " (p.bytes.map fun b ↦ Decimal.text b.toNat) ++ "])"

theorem ofBytes?_bytes (p : InlinePayload) : ofBytes? p.bytes = some p := by
  simp [ofBytes?, p.length_le]

end InlinePayload

/-- How an inline payload lies in its envelope: in an area of fixed size, of which the first `count`
bytes belong to it. -/
structure InlineArea where
  count : UInt8
  area : List UInt8
  length_area : area.length = Limits.inlineBytes

instance : DecidableEq InlineArea := fun a b ↦
  decidable_of_iff (a.count = b.count ∧ a.area = b.area) (by cases a; cases b; simp)

/-- The bytes that belong to the payload. -/
def InlineArea.contents (a : InlineArea) : List UInt8 := a.area.take a.count.toNat

/-- The bytes at the start of a cleared area. -/
def InlinePayload.area (p : InlinePayload) : InlineArea where
  count := UInt8.ofNat p.bytes.length
  area := p.bytes ++ List.replicate (Limits.inlineBytes - p.bytes.length) 0
  length_area := by
    rw [List.length_append, List.length_replicate, Nat.add_sub_cancel' p.length_le]

/-- Clearing the rest of the area hides nothing of the payload. -/
theorem InlinePayload.contents_area (p : InlinePayload) : p.area.contents = p.bytes := by
  have hlt : p.bytes.length < 2 ^ 8 := Nat.lt_of_le_of_lt p.length_le (by decide)
  have hcount : p.area.count.toNat = p.bytes.length := UInt8.toNat_ofNat_of_lt' hlt
  rw [InlineArea.contents, hcount]
  exact List.take_left

/-- What an envelope carries. -/
inductive Payload where
  | empty
  | inline (data : InlinePayload)
  /-- An item of the pool allocator. -/
  | pooled (handle : ItemHandle)
  | text (text : String)
deriving DecidableEq

instance : Inhabited Payload := ⟨.empty⟩

namespace Payload

/-- An inline payload, if the bytes are few enough. -/
def inline? (bytes : List UInt8) : Option Payload := (InlinePayload.ofBytes? bytes).map .inline

def handle? : Payload → Option ItemHandle
  | .pooled h => some h
  | _ => none

/-- Bytes carried; for an item its size, and nothing for an item that is not live. -/
def length (a : Allocator) : Payload → Nat
  | .empty => 0
  | .inline data => data.bytes.length
  | .pooled h => match a.itemSize h with
    | .ok n => n
    | .error _ => 0
  | .text s => s.utf8ByteSize

/-- What asking for the length adds to a journal. -/
def lengthNotes (a : Allocator) : Payload → Journal
  | .pooled h => a.accessNotes h
  | _ => []

/-- An independent copy: an item is duplicated, everything else is copied as it stands. -/
def duplicate (a : Allocator) : Payload → Except PoolError Payload × Allocator
  | .pooled h => match a.duplicate h with
    | (.ok copy, a) => (.ok (.pooled copy), a)
    | (.error e, a) => (.error e, a)
  | p => (.ok p, a)

/-- Returns an item to its pool; other payloads need no release. -/
def release (a : Allocator) (kind : MessageKind) : Payload → Except PoolError Allocator
  | .pooled h => a.free h kind.number
  | _ => .ok a

/-- What a release adds to a journal. -/
def releaseNotes (a : Allocator) (kind : MessageKind) : Payload → Journal
  | .pooled h => a.freeNotes h kind.number
  | _ => []

end Payload

/-- A message on its way. -/
structure Envelope where
  kind : MessageKind
  origin : TaskId
  destination : Destination
  payload : Payload
  /-- Whoever holds the envelope has to release the payload. -/
  ownsPayload : Bool
deriving DecidableEq

namespace Envelope

/-- An envelope that owns its payload. -/
def owning (kind : MessageKind) (origin : TaskId) (destination : Destination)
    (payload : Payload) : Envelope :=
  ⟨kind, origin, destination, payload, true⟩

/-- An envelope that only references its payload. -/
def borrowed (kind : MessageKind) (origin : TaskId) (destination : Destination)
    (payload : Payload) : Envelope :=
  ⟨kind, origin, destination, payload, false⟩

/-- The payload that the holder has to release. -/
def owned? (e : Envelope) : Option Payload := if e.ownsPayload then some e.payload else none

/-- Moves the payload out. A second time there is nothing to move. -/
def takePayload (e : Envelope) : Option Payload × Envelope :=
  if e.ownsPayload then (some e.payload, { e with payload := .empty, ownsPayload := false })
  else (none, e)

/-- The same envelope for one recipient. -/
def readdress (e : Envelope) (target : TaskId) : Envelope := { e with destination := .task target }

/-- A copy for one recipient, with a payload of its own if this envelope owns one. -/
def fork (e : Envelope) (target : TaskId) (a : Allocator) : Except PoolError Envelope × Allocator :=
  if e.ownsPayload then
    match e.payload.duplicate a with
    | (.ok p, a) => (.ok { e with destination := .task target, payload := p }, a)
    | (.error err, a) => (.error err, a)
  else (.ok (e.readdress target), a)

/-- What a fork adds to a journal. -/
def forkNotes (e : Envelope) (a : Allocator) : Journal :=
  match e.owned? with
  | some (.pooled h) => a.duplicateNotes h
  | _ => []

/-- Releases the payload if it is owned; the header is dropped. -/
def release (e : Envelope) (a : Allocator) : Except PoolError Allocator :=
  match e.owned? with
  | some p => p.release a e.kind
  | none => .ok a

/-- What a release adds to a journal. -/
def releaseNotes (e : Envelope) (a : Allocator) : Journal :=
  match e.owned? with
  | some p => p.releaseNotes a e.kind
  | none => []

/-! ## Laws -/

/-- Ownership moves once. -/
theorem takePayload_takePayload (e : Envelope) : e.takePayload.2.takePayload.1 = none := by
  unfold takePayload
  split <;> simp_all

theorem takePayload_fst (e : Envelope) : e.takePayload.1 = e.owned? := by
  unfold takePayload owned?
  split <;> rfl

/-- A copy has the header of its template, but for the destination. -/
theorem fork_header {e copy : Envelope} {target : TaskId} {a b : Allocator}
    (h : e.fork target a = (.ok copy, b)) :
    copy.kind = e.kind ∧ copy.origin = e.origin ∧ copy.destination = .task target ∧
      copy.ownsPayload = e.ownsPayload := by
  unfold fork at h
  split at h
  · split at h
    · cases h; exact ⟨rfl, rfl, rfl, rfl⟩
    · cases h
  · cases h; exact ⟨rfl, rfl, rfl, rfl⟩

end Envelope

end TaskMessaging
