import TaskMessaging.Config.Reader
import TaskMessaging.Json.Parse
import TaskMessaging.Json.Render

/-!
# Configuration in JSON

What is given has to have exactly the right type, nothing is converted. Writing a configuration
gives every field, in the declared order.
-/

namespace TaskMessaging

namespace FatalPolicy

def toJson (p : FatalPolicy) : Json.Value := .text p.name

/-- A name, or an object whose one member has the name and the value null. -/
def ofJson? : Json.Value → Option FatalPolicy
  | .text name => ofName? name
  | .object [(name, .null)] => ofName? name
  | _ => none

@[simp] theorem ofJson?_toJson (p : FatalPolicy) : ofJson? p.toJson = some p := ofName?_name p

end FatalPolicy

namespace Config

open Json (Value)

/-! ## Writing -/

def PoolSpec.toJson (p : PoolSpec) : Value :=
  .object [("item_count", .nat p.itemCount.toNat), ("item_size", .nat p.itemSize.toNat)]

def MailboxSection.toJson (s : MailboxSection) : Value :=
  .object [("capacity", .nat s.capacity.toNat)]

def DispatcherSection.toJson (s : DispatcherSection) : Value :=
  .object [("stop_on_fault", .bool s.stopOnFault),
    ("install_signal_mask", .bool s.installSignalMask)]

def DiagnosticsSection.toJson (s : DiagnosticsSection) : Value :=
  .object [
    ("enabled", .bool s.enabled),
    ("bind_address", .text s.bindAddress),
    ("port", .nat s.port.toNat),
    ("max_connections", .nat s.maxConnections.toNat),
    ("buffer", .nat s.buffer.toNat)]

def LoggingSection.toJson (s : LoggingSection) : Value :=
  .object [("level", .text s.level), ("json", .bool s.json)]

def toJson (c : Config) : Value :=
  .object [
    ("pools", .array (c.pools.map PoolSpec.toJson)),
    ("mailbox", c.mailbox.toJson),
    ("dispatcher", c.dispatcher.toJson),
    ("diagnostics", c.diagnostics.toJson),
    ("logging", c.logging.toJson),
    ("fatal_policy", c.fatalPolicy.toJson)]

/-! ## Reading -/

/-- Reads JSON values strictly. -/
def jsonReader : Reader Value where
  fields? := Value.fields?
  elements? := Value.elements?
  uint16? := Value.uint16?
  uint64? := Value.uint64?
  bool? := Value.bool?
  text? := Value.text?
  policy? := FatalPolicy.ofJson?

/-- The configuration that a JSON value describes. -/
def ofJson? (v : Value) : Option Config := read? jsonReader v

/-- The configuration that a JSON text describes. -/
def ofJsonText? (text : String) : Option Config := (Value.parse? text).bind ofJson?

/-! ## Laws -/

@[simp] theorem natBelow?_nat {bound n : Nat} (h : n < bound) :
    (Value.nat n).natBelow? bound = some n := by
  simp [Value.nat, Value.natBelow?, Json.Number.natural?, Json.Number.ofNat, h]

@[simp] theorem uint64?_nat (n : UInt64) : (Value.nat n.toNat).uint64? = some n := by
  simp [Value.uint64?, natBelow?_nat (show n.toNat < Word.count 64 from n.toNat_lt)]

@[simp] theorem uint16?_nat (n : UInt16) : (Value.nat n.toNat).uint16? = some n := by
  simp [Value.uint16?, natBelow?_nat (show n.toNat < Word.count 16 from n.toNat_lt)]

@[simp] theorem PoolSpec.read?_toJson (p : PoolSpec) : read? jsonReader p.toJson = some p := by
  simp [PoolSpec.read?, PoolSpec.toJson, PoolSpec.fieldNames, jsonReader, Value.fields?,
    Value.occurrences, List.lookup_cons]

end Config

end TaskMessaging
