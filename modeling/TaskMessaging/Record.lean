import TaskMessaging.Ident

/-!
# Message records

What diagnostic clients are told about one delivered envelope: everything but the payload itself.
A record is one line of JSON.
-/

namespace TaskMessaging

/-- One delivery. -/
structure MessageRecord where
  /-- Counts the deliveries of a system, starting at one. -/
  sequence : UInt64
  kind : MessageKind
  /-- The name of the kind at the time of the delivery. -/
  kindName : String
  origin : TaskId
  destination : Destination
  payloadLength : UInt64
  /-- Nanoseconds since the epoch, zero where no wall clock is read. -/
  timestamp : UInt64
deriving DecidableEq

namespace MessageRecord

/-- The fields by name, in their declared order. -/
def toJson (r : MessageRecord) : Json.Value :=
  .object [
    ("sequence", .nat r.sequence.toNat),
    ("kind", r.kind.toJson),
    ("kind_name", .text r.kindName),
    ("origin", r.origin.toJson),
    ("destination", r.destination.toJson),
    ("payload_len", .nat r.payloadLength.toNat),
    ("timestamp_ns", .nat r.timestamp.toNat)]

/-- The line for a client, without its line feed. -/
def line (r : MessageRecord) : String := r.toJson.toText

/-- The record that an object with exactly these fields stands for. -/
def ofJson? : Json.Value → Option MessageRecord
  | .object [("sequence", sequence), ("kind", kind), ("kind_name", .text kindName),
      ("origin", origin), ("destination", destination), ("payload_len", length),
      ("timestamp_ns", timestamp)] => do
    return {
      sequence := ← sequence.uint64?
      kind := ← MessageKind.ofJson? kind
      kindName := kindName
      origin := ← TaskId.ofJson? origin
      destination := ← Destination.ofJson? destination
      payloadLength := ← length.uint64?
      timestamp := ← timestamp.uint64? }
  | _ => none

end MessageRecord

end TaskMessaging
