import TaskMessaging.Config.Basic

/-!
# Reading a configuration

A configuration is a record of records, whatever the form in which it comes. A reader says how
values of one form are taken apart; what is put together from the parts is the same for all forms.
A field that is left out keeps its default, except in a pool, which has none.
-/

namespace TaskMessaging.Config

/-- How values of a form `β` are read. -/
structure Reader (β : Type) where
  /-- The value of each named field of a record, if it was given. -/
  fields? : List String → β → Option (List (Option β))
  elements? : β → Option (List β)
  uint16? : β → Option UInt16
  uint64? : β → Option UInt64
  bool? : β → Option Bool
  text? : β → Option String
  policy? : β → Option FatalPolicy

/-- Reads a field that may be left out. -/
def given? (read : β → Option α) (default : α) : Option β → Option α
  | none => some default
  | some v => read v

def PoolSpec.fieldNames : List String := ["item_count", "item_size"]

def PoolSpec.read? (r : Reader β) (v : β) : Option PoolSpec := do
  match ← r.fields? fieldNames v with
  | [some count, some size] => return ⟨← r.uint64? count, ← r.uint64? size⟩
  | _ => none

/-- The pools, in their order. -/
def readPools? (r : Reader β) (v : β) : Option (List PoolSpec) := do
  (← r.elements? v).mapM (PoolSpec.read? r)

def MailboxSection.fieldNames : List String := ["capacity"]

def MailboxSection.read? (r : Reader β) (v : β) : Option MailboxSection := do
  match ← r.fields? fieldNames v with
  | [capacity] => return ⟨← given? r.uint64? default.capacity capacity⟩
  | _ => none

def DispatcherSection.fieldNames : List String := ["stop_on_fault", "install_signal_mask"]

def DispatcherSection.read? (r : Reader β) (v : β) : Option DispatcherSection := do
  match ← r.fields? fieldNames v with
  | [stopOnFault, installSignalMask] =>
    return {
      stopOnFault := ← given? r.bool? default.stopOnFault stopOnFault
      installSignalMask := ← given? r.bool? default.installSignalMask installSignalMask }
  | _ => none

def DiagnosticsSection.fieldNames : List String :=
  ["enabled", "bind_address", "port", "max_connections", "buffer"]

def DiagnosticsSection.read? (r : Reader β) (v : β) : Option DiagnosticsSection := do
  match ← r.fields? fieldNames v with
  | [enabled, bindAddress, port, maxConnections, buffer] =>
    return {
      enabled := ← given? r.bool? default.enabled enabled
      bindAddress := ← given? r.text? default.bindAddress bindAddress
      port := ← given? r.uint16? default.port port
      maxConnections := ← given? r.uint64? default.maxConnections maxConnections
      buffer := ← given? r.uint64? default.buffer buffer }
  | _ => none

def LoggingSection.fieldNames : List String := ["level", "json"]

def LoggingSection.read? (r : Reader β) (v : β) : Option LoggingSection := do
  match ← r.fields? fieldNames v with
  | [level, json] =>
    return {
      level := ← given? r.text? default.level level
      json := ← given? r.bool? default.json json }
  | _ => none

def fieldNames : List String :=
  ["pools", "mailbox", "dispatcher", "diagnostics", "logging", "fatal_policy"]

def read? (r : Reader β) (v : β) : Option Config := do
  match ← r.fields? fieldNames v with
  | [pools, mailbox, dispatcher, diagnostics, logging, fatalPolicy] =>
    return {
      pools := ← given? (readPools? r) default.pools pools
      mailbox := ← given? (MailboxSection.read? r) default.mailbox mailbox
      dispatcher := ← given? (DispatcherSection.read? r) default.dispatcher dispatcher
      diagnostics := ← given? (DiagnosticsSection.read? r) default.diagnostics diagnostics
      logging := ← given? (LoggingSection.read? r) default.logging logging
      fatalPolicy := ← given? r.policy? default.fatalPolicy fatalPolicy }
  | _ => none

end TaskMessaging.Config
