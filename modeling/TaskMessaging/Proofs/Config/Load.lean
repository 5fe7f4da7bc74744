import TaskMessaging.Proofs.Config.Layer

/-!
# Loading is layering

Overriding one field of a section leaves its siblings to the file, and the defaults show through
wherever neither source says anything. The reason is that a variable is laid over a file just as a
file with this one field would be. So both sources are *documents*, lists of entries, and loading
puts the entries of all documents into an empty table, one after the other. A single entry changes
what a table holds at its own leaves and nowhere else (`Holds.putLeaf`, `Holds.putPart`), and what a
whole document does follows by induction on it.
-/

namespace TaskMessaging

/-! ## Laying settings over one another -/

namespace Setting

variable {t t' v : Setting} {name other : String} {es fields : List (String × Setting)}

theorem get?_table_setEntry_self : (table (setEntry name v es)).get? name = some v :=
  lookup_setEntry_self name v es

theorem get?_table_setEntry_of_ne (h : other ≠ name) :
    (table (setEntry name v es)).get? other = es.lookup other := lookup_setEntry_of_ne h v es

theorem put_of_isWhole (h : v.IsWhole) (hname : Text.lower name = name) (t : Setting) :
    t.put name v = .table (setEntry name v t.entries) := by
  cases v with
  | table es => exact absurd rfl (h es)
  | absent | bool | int | float | text | list => rw [put, hname]; exact h

theorem put_table (hname : Text.lower name = name) (t : Setting) :
    t.put name (.table fields) =
      .table (setEntry name (putAll ((t.get? name).getD empty) fields) t.entries) := by
  rw [put, hname]

/-- One entry is set, whatever is laid over it. -/
theorem exists_put_eq (hname : Text.lower name = name) (t v : Setting) :
    ∃ w, t.put name v = .table (setEntry name w t.entries) := by
  by_cases h : ∃ fields, v = .table fields
  · obtain ⟨fields, rfl⟩ := h
    exact ⟨_, put_table hname t⟩
  · exact ⟨v, put_of_isWhole (fun fields hv ↦ h ⟨fields, hv⟩) hname t⟩

theorem get?_put_of_ne (hname : Text.lower name = name) (h : other ≠ name) (t v : Setting) :
    (t.put name v).get? other = t.get? other := by
  obtain ⟨w, hw⟩ := exists_put_eq hname t v
  rw [hw, get?_table_setEntry_of_ne h, get?]

/-- Only the entries of a setting matter for what is laid over it. -/
theorem put_congr (h : t.entries = t'.entries) (name : String) (v : Setting) :
    t.put name v = t'.put name v := by
  cases v with
  | table fields => rw [put, put, get?, get?, h]
  | absent | bool | int | float | text | list => rw [put, put, h] <;> exact nofun

theorem putAll_cons (t : Setting) (e : String × Setting) (es : List (String × Setting)) :
    t.putAll (e :: es) = (t.put e.1 e.2).putAll es := by
  rw [putAll]

theorem assignAll?_append (t : Setting) (xs ys : List (Path × Setting)) :
    t.assignAll? (xs ++ ys) = (t.assignAll? xs).bind fun t ↦ t.assignAll? ys := by
  induction xs generalizing t with
  | nil => rfl
  | cons x xs ih =>
    rw [List.cons_append, assignAll?, assignAll?]
    cases t.assign? x.2 x.1 with
    | none => rfl
    | some t => exact ih t

theorem assign?_two (t v : Setting) (outer inner : String) (h : Text.lower outer = outer) :
    t.assign? v [.entry outer, .entry inner] = some (t.put outer (.table [(inner, v)])) := by
  have hentries : ((t.get? outer).getD .absent).entries = ((t.get? outer).getD empty).entries := by
    cases t.get? outer <;> rfl
  rw [put_table h, putAll_cons, putAll, ← put_congr hentries]
  rfl

end Setting

namespace Config

variable {F E L : Layer} {root t v : Setting} {p : Part} {leaf : Leaf} {leaves : List Leaf}
  {es fields : List (String × Setting)}

/-! ## Documents -/

/-- Entries of a section that give some of its leaves. -/
inductive Fields (F : Layer) (p : Part) : List (String × Setting) → List Leaf → Prop where
  | nil : Fields F p [] []
  | cons {leaf : Leaf} {x : leaf.kind.Value} {v : Setting} {fields : List (String × Setting)}
      {leaves : List Leaf} : leaf.part? = some p → F leaf = some x → leaf.kind.Shown x v →
      Fields F p fields leaves → Fields F p ((leaf.name, v) :: fields) (leaf :: leaves)

/-- Entries that give some leaves, those in sections as entries of their sections. -/
inductive Document (F : Layer) : List (String × Setting) → List Leaf → Prop where
  | nil : Document F [] []
  | leaf {leaf : Leaf} {x : leaf.kind.Value} {v : Setting} {es : List (String × Setting)}
      {leaves : List Leaf} : leaf.part? = none → F leaf = some x → leaf.kind.Shown x v →
      Document F es leaves → Document F ((leaf.name, v) :: es) (leaf :: leaves)
  | part {p : Part} {fields es : List (String × Setting)} {inside leaves : List Leaf} :
      Fields F p fields inside → Document F es leaves →
      Document F ((p.name, .table fields) :: es) (inside ++ leaves)

/-- The file that is named, if one is, gives just the values of a layer. -/
inductive Gives (F : Layer) : Option SourceFile → Prop where
  | absent : (∀ leaf, F leaf = none) → Gives F none
  | file {f : SourceFile} {es : List (String × Setting)} {leaves : List Leaf} :
      f.settings? = some (.table es) → Document F es leaves →
      (∀ leaf, (F leaf).isSome → leaf ∈ leaves) → Gives F (some f)

/-- Variables that override some leaves, among others that mean nothing here. -/
inductive Overrides (E : Layer) : List (String × String) → List Leaf → Prop where
  | nil : Overrides E [] []
  | other {name text : String} {environment : List (String × String)} {leaves : List Leaf} :
      settingName? name = none → Overrides E environment leaves →
      Overrides E ((name, text) :: environment) leaves
  | leaf {leaf : Leaf} {x : leaf.kind.Value} {text : String}
      {environment : List (String × String)} {leaves : List Leaf} :
      E leaf = some x → leaf.kind.Written x text → Overrides E environment leaves →
      Overrides E ((leaf.variableName, text) :: environment) (leaf :: leaves)

/-- The environment sets just the values of a layer. -/
def Sets (E : Layer) (environment : List (String × String)) : Prop :=
  ∃ leaves, Overrides E environment leaves ∧ ∀ leaf, (E leaf).isSome → leaf ∈ leaves

/-! ## Sections -/

theorem Fields.part?_eq (h : Fields F p fields leaves) : ∀ leaf ∈ leaves, leaf.part? = some p := by
  induction h with
  | nil => exact List.forall_mem_nil _
  | cons hpart _ _ _ ih => exact List.forall_mem_cons.mpr ⟨hpart, ih⟩

theorem Fields.isSome (h : Fields F p fields leaves) : ∀ leaf ∈ leaves, (F leaf).isSome := by
  induction h with
  | nil => exact List.forall_mem_nil _
  | cons _ hx _ _ ih => exact List.forall_mem_cons.mpr ⟨Option.isSome_iff_exists.mpr ⟨_, hx⟩, ih⟩

/-- A table has readable values under just those leaves of a section that a layer has. -/
def HoldsInside (p : Part) (L : Layer) (t : Setting) : Prop :=
  ∀ leaf : Leaf, leaf.part? = some p →
    (t.get? leaf.name).map leaf.kind.read? = (L leaf).map some

theorem HoldsInside.put {x : leaf.kind.Value} (h : HoldsInside p L t) (hpart : leaf.part? = some p)
    (hx : F leaf = some x) (hv : leaf.kind.Shown x v) :
    HoldsInside p (F.cover [leaf] L) (t.put leaf.name v) := by
  intro other hother
  by_cases heq : other = leaf
  · subst heq
    rw [Setting.put_of_isWhole hv.isWhole other.lower_name, Setting.get?_table_setEntry_self,
      Layer.cover, if_pos List.mem_cons_self, hx, Option.map_some, Option.map_some, hv.read?_eq]
  · have hname : other.name ≠ leaf.name := fun hname ↦
      heq (Leaf.eq_of_place (hother.trans hpart.symm) hname)
    rw [Setting.get?_put_of_ne leaf.lower_name hname, h other hother, Layer.cover,
      if_neg (mt List.mem_singleton.mp heq)]

theorem Fields.holdsInside (h : Fields F p fields leaves) (ht : HoldsInside p L t) :
    HoldsInside p (F.cover leaves L) (t.putAll fields) := by
  induction h generalizing t L with
  | nil => rwa [Layer.cover_nil, Setting.putAll]
  | cons hpart hx hv _ ih =>
    rw [Layer.cover_cons, Setting.putAll_cons]
    exact ih (ht.put hpart hx hv)

theorem Fields.exists_putAll (h : Fields F p fields leaves) (ht : ∃ es, t = .table es) :
    ∃ es, t.putAll fields = .table es := by
  induction h generalizing t with
  | nil => exact ht
  | @cons leaf _ v _ _ _ _ _ _ ih =>
    rw [Setting.putAll_cons]
    obtain ⟨w, hw⟩ := Setting.exists_put_eq leaf.lower_name t v
    exact ih ⟨_, hw⟩

/-! ## Whole configurations -/

theorem holds_empty : Holds .empty .empty where
  isTable := ⟨[], rfl⟩
  partIsTable := nofun
  reads := fun leaf ↦ by cases leaf <;> rfl

namespace Holds

theorem find?_of_none (hpart : leaf.part? = none) (root : Setting) :
    leaf.find? root = root.get? leaf.name := by
  rw [Leaf.find?, hpart]

theorem find?_of_some (hpart : leaf.part? = some p) (root : Setting) :
    leaf.find? root = (root.get? p.name).bind fun t ↦ t.get? leaf.name := by
  rw [Leaf.find?, hpart]

/-- What a table holds inside a section, and a missing section counts as an empty one. -/
theorem holdsInside (h : Holds L root) (p : Part) :
    HoldsInside p L ((root.get? p.name).getD .empty) := by
  intro leaf hpart
  rw [← h.reads leaf, find?_of_some hpart]
  cases root.get? p.name with
  | none => rfl
  | some t => rfl

theorem putLeaf {x : leaf.kind.Value} (h : Holds L root) (hpart : leaf.part? = none)
    (hx : F leaf = some x) (hv : leaf.kind.Shown x v) :
    Holds (F.cover [leaf] L) (root.put leaf.name v) where
  isTable := ⟨_, Setting.put_of_isWhole hv.isWhole leaf.lower_name root⟩
  partIsTable := fun p t hget ↦ by
    rw [Setting.get?_put_of_ne leaf.lower_name (p.name_ne leaf).symm] at hget
    exact h.partIsTable p t hget
  reads := fun other ↦ by
    by_cases heq : other = leaf
    · subst heq
      rw [find?_of_none hpart, Setting.put_of_isWhole hv.isWhole other.lower_name,
        Setting.get?_table_setEntry_self, Layer.cover, if_pos List.mem_cons_self, hx,
        Option.map_some, Option.map_some, hv.read?_eq]
    · rw [Layer.cover, if_neg (mt List.mem_singleton.mp heq), ← h.reads other]
      cases hother : other.part? with
      | none =>
        have hname : other.name ≠ leaf.name := fun hname ↦
          heq (Leaf.eq_of_place (hother.trans hpart.symm) hname)
        rw [find?_of_none hother, find?_of_none hother,
          Setting.get?_put_of_ne leaf.lower_name hname]
      | some p =>
        rw [find?_of_some hother, find?_of_some hother,
          Setting.get?_put_of_ne leaf.lower_name (p.name_ne leaf).symm]

theorem putPart (h : Holds L root) (hfields : Fields F p fields leaves) :
    Holds (F.cover leaves L) (root.put p.name (.table fields)) := by
  have hinside := hfields.holdsInside (h.holdsInside p)
  have htable : ∃ es, ((root.get? p.name).getD .empty).putAll fields = .table es := by
    refine hfields.exists_putAll ?_
    cases hget : root.get? p.name with
    | none => exact ⟨[], rfl⟩
    | some t => exact h.partIsTable p t hget
  have hother {name : String} (hne : name ≠ p.name) :
      (root.put p.name (.table fields)).get? name = root.get? name :=
    Setting.get?_put_of_ne p.lower_name hne root _
  have hself : (root.put p.name (.table fields)).get? p.name =
      some (((root.get? p.name).getD .empty).putAll fields) := by
    rw [Setting.put_table p.lower_name, Setting.get?_table_setEntry_self]
  have hoff {leaf : Leaf} (hne : leaf.part? ≠ some p) : F.cover leaves L leaf = L leaf :=
    if_neg fun hmem ↦ hne (hfields.part?_eq leaf hmem)
  refine ⟨⟨_, Setting.put_table p.lower_name root⟩, fun q t hget ↦ ?_, fun leaf ↦ ?_⟩
  · by_cases hq : q = p
    · subst hq
      rw [hself, Option.some_inj] at hget
      exact hget ▸ htable
    · rw [hother (mt (Part.name_injective ·) hq)] at hget
      exact h.partIsTable q t hget
  · cases hleaf : leaf.part? with
    | none =>
      rw [find?_of_none hleaf, hother (p.name_ne leaf), hoff (by rw [hleaf]; exact nofun),
        ← h.reads leaf, find?_of_none hleaf]
    | some q =>
      by_cases hq : q = p
      · subst hq
        rw [find?_of_some hleaf, hself, Option.bind_some, hinside leaf hleaf]
      · rw [find?_of_some hleaf, hother (mt (Part.name_injective ·) hq),
          hoff (by rw [hleaf]; exact mt Option.some_inj.mp hq), ← h.reads leaf,
          find?_of_some hleaf]

end Holds

namespace Document

theorem isSome (h : Document F es leaves) : ∀ leaf ∈ leaves, (F leaf).isSome := by
  induction h with
  | nil => exact List.forall_mem_nil _
  | leaf _ hx _ _ ih => exact List.forall_mem_cons.mpr ⟨Option.isSome_iff_exists.mpr ⟨_, hx⟩, ih⟩
  | part hfields _ ih => exact List.forall_mem_append.mpr ⟨hfields.isSome, ih⟩

/-- A document overrides the leaves that it gives, and no others. -/
theorem holds (h : Document F es leaves) (hroot : Holds L root) :
    Holds (F.cover leaves L) (root.putAll es) := by
  induction h generalizing root L with
  | nil => rwa [Layer.cover_nil, Setting.putAll]
  | leaf hpart hx hv _ ih =>
    rw [Layer.cover_cons, Setting.putAll_cons]
    exact ih (hroot.putLeaf hpart hx hv)
  | part hfields _ ih =>
    rw [Layer.cover_append, Setting.putAll_cons]
    exact ih (hroot.putPart hfields)

/-- The names in a document are paths of one step, so that its entries are put as they are. -/
theorem assignAll?_eq (h : Document F es leaves) (root : Setting) :
    root.assignAll? (fileSettings (.table es)) = some (root.putAll es) := by
  induction h generalizing root with
  | nil => rw [Setting.putAll]; rfl
  | @leaf leaf _ v es _ _ _ _ _ ih =>
    have hpath : Path.ofName leaf.name = [.entry leaf.name] := by cases leaf <;> decide
    show (root.assign? v (Path.ofName leaf.name)).bind (fun t ↦ t.assignAll? _) = _
    rw [hpath, Setting.putAll_cons]
    exact ih (root.put leaf.name v)
  | @part p fields es _ _ _ _ ih =>
    have hpath : Path.ofName p.name = [.entry p.name] := by cases p <;> decide
    show (root.assign? (.table fields) (Path.ofName p.name)).bind (fun t ↦ t.assignAll? _) = _
    rw [hpath, Setting.putAll_cons]
    exact ih (root.put p.name (.table fields))

end Document

/-! ## Environments -/

namespace Leaf

/-- The steps to a leaf. -/
def path (leaf : Leaf) : Path :=
  leaf.part?.elim [.entry leaf.name] fun p ↦ [.entry p.name, .entry leaf.name]

theorem settingName?_variableName (leaf : Leaf) :
    (settingName? leaf.variableName).map Path.ofName = some leaf.path := by
  rw [settingName?, variableName, Text.lower, String.toList_ofList, String.toList_ofList]
  cases leaf <;> decide +kernel

end Leaf

theorem environmentSettings_cons {path : Path} {name text : String}
    (h : (settingName? name).map Path.ofName = some path)
    (environment : List (String × String)) :
    environmentSettings ((name, text) :: environment) =
      (path, ofVariable text) :: environmentSettings environment := by
  obtain ⟨setting, hsetting, rfl⟩ := Option.map_eq_some_iff.mp h
  refine List.filterMap_cons_some ?_
  dsimp only
  rw [hsetting, Option.map_some]

/-- Variables do what a document with an entry for each of them does. -/
theorem Overrides.exists_document {environment : List (String × String)}
    (h : Overrides E environment leaves) : ∃ es, Document E es leaves ∧ ∀ root : Setting,
      root.assignAll? (environmentSettings environment) = some (root.putAll es) := by
  induction h with
  | nil => exact ⟨[], .nil, fun root ↦ by rw [Setting.putAll]; rfl⟩
  | @other name text environment _ hname _ ih =>
    have hskip : environmentSettings ((name, text) :: environment) =
        environmentSettings environment :=
      List.filterMap_cons_none (by dsimp only; rw [hname, Option.map_none])
    rwa [hskip]
  | @leaf leaf x text environment _ hx hwritten _ ih =>
    obtain ⟨es, hes, hassign⟩ := ih
    have hpath := leaf.settingName?_variableName
    rw [Leaf.path] at hpath
    cases hpart : leaf.part? with
    | none =>
      rw [hpart] at hpath
      refine ⟨_, .leaf hpart hx hwritten.shown hes, fun root ↦ ?_⟩
      rw [environmentSettings_cons hpath, Setting.putAll_cons]
      exact hassign (root.put leaf.name (ofVariable text))
    | some p =>
      rw [hpart] at hpath
      refine ⟨_, .part (.cons hpart hx hwritten.shown .nil) hes, fun root ↦ ?_⟩
      rw [environmentSettings_cons hpath, Setting.putAll_cons, Option.elim_some,
        Setting.assignAll?, Setting.assign?_two _ _ _ _ p.lower_name, Option.bind_some]
      exact hassign _

/-! ## Loading -/

theorem Gives.exists_document {file : Option SourceFile} (h : Gives F file) :
    ∃ es leaves, Document F es leaves ∧ (∀ leaf, (F leaf).isSome → leaf ∈ leaves) ∧
      ∀ environment, layers file environment =
        match Setting.empty.assignAll? (fileSettings (.table es) ++ environmentSettings environment)
        with
        | none => .error .position
        | some root => .ok root := by
  cases h with
  | absent hnone =>
    refine ⟨[], [], .nil, fun leaf hleaf ↦ ?_, fun environment ↦ ?_⟩
    · rw [hnone leaf] at hleaf
      cases hleaf
    · rfl
  | file hsettings hdocument hall =>
    refine ⟨_, _, hdocument, hall, fun environment ↦ ?_⟩
    rw [layers]
    simp only [hsettings]
    rfl

/-- The file gives the values of a layer, and the environment overrides some of them. -/
theorem exists_layers_holds {file : Option SourceFile} {environment : List (String × String)}
    (hfile : Gives F file) (henvironment : Sets E environment) :
    ∃ root, layers file environment = .ok root ∧
      Holds (fun leaf ↦ (E leaf).or (F leaf)) root := by
  obtain ⟨es, leaves, hdocument, hall, hlayers⟩ := hfile.exists_document
  obtain ⟨overridden, hoverrides, hset⟩ := henvironment
  obtain ⟨fs, hvariables, hassign⟩ := hoverrides.exists_document
  have hroot := hvariables.holds (hdocument.holds holds_empty)
  rw [Layer.cover_eq_or fun leaf ↦ ⟨hvariables.isSome leaf, hset leaf⟩,
    Layer.cover_eq_or fun leaf ↦ ⟨hdocument.isSome leaf, hall leaf⟩] at hroot
  refine ⟨(Setting.empty.putAll es).putAll fs, ?_, ?_⟩
  · rw [hlayers, Setting.assignAll?_append, hdocument.assignAll?_eq, Option.bind_some, hassign]
  · simpa only [Layer.empty, Option.or_none] using hroot

theorem load_of_loadUnchecked {file : Option SourceFile} {environment : List (String × String)}
    {c : Config} (h : loadUnchecked file environment = .ok c) :
    load file environment = c.invalid?.elim (.ok c) fun e ↦ .error (.invalid e) := by
  rw [load, h]
  simp only [bind, Except.bind]
  cases c.invalid? with
  | none => rfl
  | some e => rfl

/-- **Layering.** Every leaf of the configuration has the value of its variable if that is set, else
the value in the file if there is one, else its default. It is returned if it is valid, and
otherwise what is wrong with it is. -/
theorem layering_law {file : Option SourceFile} {environment : List (String × String)}
    (hfile : Gives F file) (henvironment : Sets E environment) :
    ∃ c : Config, (∀ leaf : Leaf, leaf.get c = ((E leaf).or (F leaf)).getD (leaf.get default)) ∧
      (c.invalid? = none → load file environment = .ok c) ∧
      ∀ e, c.invalid? = some e → load file environment = .error (.invalid e) := by
  obtain ⟨root, hlayers, hholds⟩ := exists_layers_holds hfile henvironment
  have hunchecked : loadUnchecked file environment =
      .ok (Layer.config fun leaf ↦ (E leaf).or (F leaf)) := by
    rw [loadUnchecked, hlayers]
    simp only [bind, Except.bind]
    rw [hholds.ofSetting?_eq]
    rfl
  have hload := load_of_loadUnchecked hunchecked
  refine ⟨_, fun leaf ↦ Layer.get_config _ leaf, fun hvalid ↦ ?_, fun e hinvalid ↦ ?_⟩
  · rw [hload, hvalid, Option.elim_none]
  · rw [hload, hinvalid, Option.elim_some]

/-! ## A configuration from three sources -/

/-- A file that gives some fields and leaves out others. -/
def partialFile : SourceFile where
  name := "itti.toml"
  text := some "fatal_policy = \"report\"\n[diagnostics]\nport = 20007\nmax_connections = 3\n"

def partialFileLayer : Layer
  | .fatalPolicy => some .report
  | .port => some 20007
  | .maxConnections => some 3
  | _ => none

theorem settings?_partialFile : partialFile.settings? = some (.table [
    ("fatal_policy", .text "report"),
    ("diagnostics", .table [("port", .int 20007), ("max_connections", .int 3)])]) := by
  decide +kernel

theorem gives_partialFile : Gives partialFileLayer (some partialFile) := by
  have hfields : Fields partialFileLayer .diagnostics
      [("port", .int 20007), ("max_connections", .int 3)] [.port, .maxConnections] :=
    @Fields.cons _ _ .port 20007 _ _ _ rfl rfl rfl
      (@Fields.cons _ _ .maxConnections 3 _ _ _ rfl rfl rfl .nil)
  refine .file settings?_partialFile (@Document.leaf _ .fatalPolicy .report _ _ _ rfl rfl rfl
    (@Document.part _ .diagnostics _ _ _ _ hfields .nil)) fun leaf h ↦ ?_
  cases leaf <;> first | decide | cases h

/-- An environment in which three leaves are overridden. -/
def partialEnvironment : List (String × String) :=
  [("PATH", "/usr/bin"), ("ITTI_DIAGNOSTICS__MAX_CONNECTIONS", "7"),
    ("ITTI_LOGGING__LEVEL", "debug"), ("ITTI_DISPATCHER__STOP_ON_FAULT", "true")]

def partialEnvironmentLayer : Layer
  | .maxConnections => some 7
  | .level => some "debug"
  | .stopOnFault => some true
  | _ => none

theorem sets_partialEnvironment : Sets partialEnvironmentLayer partialEnvironment := by
  have hmax : Kind.Written .word 7 "7" := ⟨by decide, by decide⟩
  have hlevel : Kind.Written .text "debug" "debug" :=
    ⟨rfl, by decide, by decide, by decide, by decide⟩
  refine ⟨[.maxConnections, .level, .stopOnFault], .other (by decide)
    (@Overrides.leaf _ .maxConnections 7 _ _ _ rfl hmax (@Overrides.leaf _ .level "debug" _ _ _ rfl
      hlevel (@Overrides.leaf _ .stopOnFault true _ _ _ rfl rfl .nil))), fun leaf h ↦ ?_⟩
  cases leaf <;> first | decide | cases h

/-- The section that the file gives in part has one field from each source. -/
theorem layering_law_partialFile : Gives partialFileLayer (some partialFile) ∧
    Sets partialEnvironmentLayer partialEnvironment ∧
    ∃ c, load (some partialFile) partialEnvironment = .ok c ∧
      c.diagnostics = ⟨true, "0.0.0.0", 20007, 7, 1024⟩ ∧ c.logging.level = "debug" ∧
      c.fatalPolicy = .report := by
  refine ⟨gives_partialFile, sets_partialEnvironment, ?_⟩
  obtain ⟨c, hc, hload, -⟩ := layering_law gives_partialFile sets_partialEnvironment
  have hpools : c.pools = PoolSpec.defaults := hc .pools
  have hcapacity : c.mailbox.capacity = 65536 := hc .capacity
  have hdiagnostics : c.diagnostics = ⟨true, "0.0.0.0", 20007, 7, 1024⟩ := by
    have henabled : c.diagnostics.enabled = true := hc .enabled
    have haddress : c.diagnostics.bindAddress = "0.0.0.0" := hc .bindAddress
    have hport : c.diagnostics.port = 20007 := hc .port
    have hmax : c.diagnostics.maxConnections = 7 := hc .maxConnections
    have hbuffer : c.diagnostics.buffer = 1024 := hc .buffer
    rw [← henabled, ← haddress, ← hport, ← hmax, ← hbuffer]
  have hvalid : c.invalid? = none := by
    rw [invalid?, hpools, hcapacity, hdiagnostics]
    decide
  exact ⟨c, hload hvalid, hdiagnostics, hc .level, hc .fatalPolicy⟩

end Config

end TaskMessaging
