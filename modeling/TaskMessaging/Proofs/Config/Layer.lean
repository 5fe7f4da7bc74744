import TaskMessaging.Proofs.Config.Leaf

/-!
# Layers of a configuration

A `Layer` is what one source of a configuration gives: a value for some of the leaves. Layers are
laid over one another leaf by leaf. A setting *holds* a layer if it has a readable value under just
those leaves that the layer has, and it is then read as the configuration with these values and, at
the other leaves, the defaults. How the settings of several sources come together is not known
here.
-/

namespace TaskMessaging.Config

/-- What a source gives: values of some leaves. -/
abbrev Layer := (leaf : Leaf) → Option leaf.kind.Value

namespace Layer

/-- Nothing is given. -/
def empty : Layer := fun _ ↦ none

/-- The values of the first layer at the chosen leaves, those of the second one at the others. -/
def cover (F : Layer) (chosen : List Leaf) (L : Layer) : Layer :=
  fun leaf ↦ if leaf ∈ chosen then F leaf else L leaf

/-- The configuration with the values that are given, and the defaults of the others. -/
def config (L : Layer) : Config where
  pools := (L .pools).getD default.pools
  mailbox := ⟨(L .capacity).getD default.mailbox.capacity⟩
  dispatcher := {
    stopOnFault := (L .stopOnFault).getD default.dispatcher.stopOnFault
    installSignalMask := (L .installSignalMask).getD default.dispatcher.installSignalMask }
  diagnostics := {
    enabled := (L .enabled).getD default.diagnostics.enabled
    bindAddress := (L .bindAddress).getD default.diagnostics.bindAddress
    port := (L .port).getD default.diagnostics.port
    maxConnections := (L .maxConnections).getD default.diagnostics.maxConnections
    buffer := (L .buffer).getD default.diagnostics.buffer }
  logging := {
    level := (L .level).getD default.logging.level
    json := (L .json).getD default.logging.json }
  fatalPolicy := (L .fatalPolicy).getD default.fatalPolicy

variable {F L : Layer} {chosen : List Leaf}

theorem get_config (L : Layer) (leaf : Leaf) :
    leaf.get L.config = (L leaf).getD (leaf.get default) := by
  cases leaf <;> rfl

theorem cover_nil : F.cover [] L = L := funext fun _ ↦ if_neg List.not_mem_nil

theorem cover_cons (leaf : Leaf) :
    F.cover (leaf :: chosen) L = F.cover chosen (F.cover [leaf] L) := by
  funext other
  by_cases hmem : other ∈ chosen
  · simp [cover, hmem]
  · simp [cover, hmem]

theorem cover_append (more : List Leaf) :
    F.cover (chosen ++ more) L = F.cover more (F.cover chosen L) := by
  funext other
  by_cases hmem : other ∈ more
  · simp [cover, hmem]
  · simp [cover, hmem]

/-- Over everything that a layer has, it comes first. -/
theorem cover_eq_or (h : ∀ leaf, leaf ∈ chosen ↔ (F leaf).isSome) :
    F.cover chosen L = fun leaf ↦ (F leaf).or (L leaf) := by
  funext leaf
  rw [cover]
  split
  · next hmem =>
    obtain ⟨x, hx⟩ := Option.isSome_iff_exists.mp ((h leaf).mp hmem)
    rw [hx, Option.some_or]
  · next hmem =>
    have hnone : F leaf = none := by
      rw [← Option.not_isSome_iff_eq_none, ← h]
      exact hmem
    rw [hnone, Option.none_or]

end Layer

/-! ## Settings that hold a layer -/

/-- A setting has readable values under just the leaves of a layer. -/
structure Holds (L : Layer) (root : Setting) : Prop where
  isTable : ∃ es, root = .table es
  partIsTable : ∀ p t, root.get? (Part.name p) = some t → ∃ es, t = .table es
  reads : ∀ leaf, (leaf.find? root).map leaf.kind.read? = (L leaf).map some

namespace Holds

variable {L : Layer} {root : Setting} {p : Part} {es : List (String × Setting)}

theorem of_get?_none (h : Holds L root) (hget : root.get? p.name = none) (leaf : Leaf)
    (hpart : leaf.part? = some p) : L leaf = none := by
  have hreads := h.reads leaf
  rw [Leaf.find?, hpart] at hreads
  dsimp only at hreads
  rw [hget] at hreads
  exact Option.map_eq_none_iff.mp hreads.symm

theorem of_get? (h : Holds L root) (hget : root.get? p.name = some (.table es)) (leaf : Leaf)
    (hpart : leaf.part? = some p) :
    (es.lookup leaf.name).map leaf.kind.read? = (L leaf).map some := by
  have hreads := h.reads leaf
  rw [Leaf.find?, hpart] at hreads
  dsimp only at hreads
  rwa [hget] at hreads

theorem given?_mailbox (h : Holds L root) :
    given? (MailboxSection.read? settingReader) default.mailbox (root.get? Part.mailbox.name) =
      some L.config.mailbox := by
  cases hget : root.get? Part.mailbox.name with
  | none =>
    rw [Layer.config, h.of_get?_none hget .capacity rfl]
    rfl
  | some t =>
    obtain ⟨es, rfl⟩ := h.partIsTable .mailbox t hget
    exact MailboxSection.read?_eq_some (fields?_table _ es)
      (given?_eq_some (h.of_get? hget .capacity rfl))

theorem given?_dispatcher (h : Holds L root) :
    given? (DispatcherSection.read? settingReader) default.dispatcher
      (root.get? Part.dispatcher.name) = some L.config.dispatcher := by
  cases hget : root.get? Part.dispatcher.name with
  | none =>
    rw [Layer.config, h.of_get?_none hget .stopOnFault rfl,
      h.of_get?_none hget .installSignalMask rfl]
    rfl
  | some t =>
    obtain ⟨es, rfl⟩ := h.partIsTable .dispatcher t hget
    exact DispatcherSection.read?_eq_some (fields?_table _ es)
      (given?_eq_some (h.of_get? hget .stopOnFault rfl))
      (given?_eq_some (h.of_get? hget .installSignalMask rfl))

theorem given?_diagnostics (h : Holds L root) :
    given? (DiagnosticsSection.read? settingReader) default.diagnostics
      (root.get? Part.diagnostics.name) = some L.config.diagnostics := by
  cases hget : root.get? Part.diagnostics.name with
  | none =>
    rw [Layer.config, h.of_get?_none hget .enabled rfl, h.of_get?_none hget .bindAddress rfl,
      h.of_get?_none hget .port rfl, h.of_get?_none hget .maxConnections rfl,
      h.of_get?_none hget .buffer rfl]
    rfl
  | some t =>
    obtain ⟨es, rfl⟩ := h.partIsTable .diagnostics t hget
    exact DiagnosticsSection.read?_eq_some (fields?_table _ es)
      (given?_eq_some (h.of_get? hget .enabled rfl))
      (given?_eq_some (h.of_get? hget .bindAddress rfl))
      (given?_eq_some (h.of_get? hget .port rfl))
      (given?_eq_some (h.of_get? hget .maxConnections rfl))
      (given?_eq_some (h.of_get? hget .buffer rfl))

theorem given?_logging (h : Holds L root) :
    given? (LoggingSection.read? settingReader) default.logging (root.get? Part.logging.name) =
      some L.config.logging := by
  cases hget : root.get? Part.logging.name with
  | none =>
    rw [Layer.config, h.of_get?_none hget .level rfl, h.of_get?_none hget .json rfl]
    rfl
  | some t =>
    obtain ⟨es, rfl⟩ := h.partIsTable .logging t hget
    exact LoggingSection.read?_eq_some (fields?_table _ es)
      (given?_eq_some (h.of_get? hget .level rfl)) (given?_eq_some (h.of_get? hget .json rfl))

/-- A setting is read as the configuration of the layer that it holds. -/
theorem ofSetting?_eq (h : Holds L root) : ofSetting? root = some L.config := by
  obtain ⟨es, rfl⟩ := h.isTable
  exact read?_eq_some (fields?_table _ es) (given?_eq_some (h.reads .pools)) h.given?_mailbox
    h.given?_dispatcher h.given?_diagnostics h.given?_logging
    (given?_eq_some (h.reads .fatalPolicy))

end Holds

end TaskMessaging.Config
