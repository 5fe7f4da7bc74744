import Mathlib.Data.List.Forall2
import TaskMessaging.Config.Reader

/-!
# Records from their fields

What a record is read as follows from what its fields are read as, whatever form its values have.
These laws say nothing about a form, and a proof about one form opens no record itself.
-/

namespace TaskMessaging.Config

variable {β : Type} {r : Reader β} {v : β}

theorem PoolSpec.read?_eq_some {p : PoolSpec} {count size : Option β} {a b : β}
    (hfields : r.fields? fieldNames v = some [count, size]) (hcount : count = some a)
    (hsize : size = some b) (ha : r.uint64? a = some p.itemCount)
    (hb : r.uint64? b = some p.itemSize) : PoolSpec.read? r v = some p := by
  subst hcount hsize
  rw [PoolSpec.read?, hfields]
  simp only [Option.bind_eq_bind, Option.bind_some, ha, hb]
  rfl

theorem readPools?_eq_some {ps : List PoolSpec} {vs : List β} (hvs : r.elements? v = some vs)
    (h : List.Forall₂ (fun p w ↦ PoolSpec.read? r w = some p) ps vs) :
    readPools? r v = some ps := by
  rw [readPools?, hvs]
  show vs.mapM (PoolSpec.read? r) = some ps
  clear hvs
  induction h with
  | nil => rfl
  | cons hp _ ih =>
    rw [List.mapM_cons, hp, ih]
    rfl

theorem given?_eq_some {α : Type} {read : β → Option α} {default : α} {given : Option β}
    {x : Option α} (h : given.map read = x.map some) :
    given? read default given = some (x.getD default) := by
  cases given with
  | none =>
    obtain rfl : x = none := Option.map_eq_none_iff.mp h.symm
    rfl
  | some v =>
    obtain ⟨y, rfl, hy⟩ := Option.map_eq_some_iff.mp h.symm
    exact hy.symm

theorem MailboxSection.read?_eq_some {s : MailboxSection} {capacity : Option β}
    (hfields : r.fields? fieldNames v = some [capacity])
    (hcapacity : given? r.uint64? default.capacity capacity = some s.capacity) :
    read? r v = some s := by
  rw [read?, hfields]
  simp only [Option.bind_eq_bind, Option.bind_some, hcapacity]
  rfl

theorem DispatcherSection.read?_eq_some {s : DispatcherSection}
    {stopOnFault installSignalMask : Option β}
    (hfields : r.fields? fieldNames v = some [stopOnFault, installSignalMask])
    (hstop : given? r.bool? default.stopOnFault stopOnFault = some s.stopOnFault)
    (hmask : given? r.bool? default.installSignalMask installSignalMask =
      some s.installSignalMask) : read? r v = some s := by
  rw [read?, hfields]
  simp only [Option.bind_eq_bind, Option.bind_some, hstop, hmask]
  rfl

theorem DiagnosticsSection.read?_eq_some {s : DiagnosticsSection}
    {enabled bindAddress port maxConnections buffer : Option β}
    (hfields : r.fields? fieldNames v =
      some [enabled, bindAddress, port, maxConnections, buffer])
    (henabled : given? r.bool? default.enabled enabled = some s.enabled)
    (haddress : given? r.text? default.bindAddress bindAddress = some s.bindAddress)
    (hport : given? r.uint16? default.port port = some s.port)
    (hmax : given? r.uint64? default.maxConnections maxConnections = some s.maxConnections)
    (hbuffer : given? r.uint64? default.buffer buffer = some s.buffer) : read? r v = some s := by
  rw [read?, hfields]
  simp only [Option.bind_eq_bind, Option.bind_some, henabled, haddress, hport, hmax, hbuffer]
  rfl

theorem LoggingSection.read?_eq_some {s : LoggingSection} {level json : Option β}
    (hfields : r.fields? fieldNames v = some [level, json])
    (hlevel : given? r.text? default.level level = some s.level)
    (hjson : given? r.bool? default.json json = some s.json) : read? r v = some s := by
  rw [read?, hfields]
  simp only [Option.bind_eq_bind, Option.bind_some, hlevel, hjson]
  rfl

theorem read?_eq_some {c : Config}
    {pools mailbox dispatcher diagnostics logging fatalPolicy : Option β}
    (hfields : r.fields? fieldNames v =
      some [pools, mailbox, dispatcher, diagnostics, logging, fatalPolicy])
    (hpools : given? (readPools? r) default.pools pools = some c.pools)
    (hmailbox : given? (MailboxSection.read? r) default.mailbox mailbox = some c.mailbox)
    (hdispatcher : given? (DispatcherSection.read? r) default.dispatcher dispatcher =
      some c.dispatcher)
    (hdiagnostics : given? (DiagnosticsSection.read? r) default.diagnostics diagnostics =
      some c.diagnostics)
    (hlogging : given? (LoggingSection.read? r) default.logging logging = some c.logging)
    (hpolicy : given? r.policy? default.fatalPolicy fatalPolicy = some c.fatalPolicy) :
    read? r v = some c := by
  rw [read?, hfields]
  simp only [Option.bind_eq_bind, Option.bind_some, hpools, hmailbox, hdispatcher, hdiagnostics,
    hlogging, hpolicy]
  rfl

end TaskMessaging.Config
