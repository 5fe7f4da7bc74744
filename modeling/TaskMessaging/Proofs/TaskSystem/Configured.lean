import TaskMessaging.Proofs.Pool.Allocator
import TaskMessaging.TaskSystem.Basic

/-!
# Configured systems

The pools of a configuration are declared one after the other, in an allocator that is made for just
as many. Validation has looked at what a declaration and the creation of a system may refuse: pools
without items or bytes, and mailboxes without room. What it does not look at is the number of pools
and the size of their items. A handle tells only so many pools apart, so an allocator is never made
for more, and a longer list is refused at the first pool beyond them. And there is no buffer for an
item of more than `SizeClass.byteLimit` bytes, so the thread panics at the first pool of such items,
if it gets there.

That the buffers of all items fit into the memory of the machine is taken for granted.
-/

namespace TaskMessaging

namespace Allocator

variable {a : Allocator} {itemCount itemSize : Nat}

theorem addPoolError?_of_room (hc : itemCount ≠ 0) (hs : itemSize ≠ 0)
    (h : a.pools.size < a.maxPools) : a.addPoolError? itemCount itemSize = none :=
  addPoolError?_eq_none_iff.mpr ⟨not_or.mpr ⟨hc, hs⟩, h⟩

theorem addPool_of_full (hc : itemCount ≠ 0) (hs : itemSize ≠ 0) (h : a.maxPools ≤ a.pools.size) :
    a.addPool itemCount itemSize = (.error (.refused (.contextFull a.maxPools)), a) := by
  apply addPool_of_refused
  rw [addPoolError?, if_neg (not_or.mpr ⟨hc, hs⟩), if_pos h]

theorem size_declared (a : Allocator) (itemCount itemSize : Nat) :
    (a.declared itemCount itemSize).pools.size = a.pools.size + 1 := Array.size_push ..

end Allocator

namespace Config

/-- The pool that a specification asks for. -/
def PoolSpec.pool (p : PoolSpec) : SizeClass :=
  .create (min p.itemCount.toNat Allocator.itemLimit) p.itemSize.toNat

/-- There can be buffers for the items. -/
def PoolSpec.Fits (p : PoolSpec) : Prop := p.itemSize.toNat ≤ SizeClass.byteLimit

instance (p : PoolSpec) : Decidable p.Fits :=
  inferInstanceAs (Decidable (p.itemSize.toNat ≤ SizeClass.byteLimit))

theorem PoolSpec.ne_zero_of_not_isEmpty {p : PoolSpec} (h : p.isEmpty = false) :
    p.itemCount.toNat ≠ 0 ∧ p.itemSize.toNat ≠ 0 := by
  rw [isEmpty, Bool.or_eq_false_iff, beq_eq_false_iff_ne, beq_eq_false_iff_ne] at h
  exact h.imp (mt (UInt64.toNat_inj (b := 0)).mp) (mt (UInt64.toNat_inj (b := 0)).mp)

/-- What validation makes sure of. -/
theorem invalid?_eq_none_iff {c : Config} : c.invalid? = none ↔ c.pools ≠ [] ∧
    (∀ p ∈ c.pools, p.isEmpty = false) ∧ c.mailbox.capacity ≠ 0 ∧
      ¬ (c.diagnostics.enabled ∧ c.diagnostics.maxConnections = 0) := by
  rw [invalid?]
  split
  · next h => exact iff_of_false nofun fun hc ↦ hc.1 (List.isEmpty_iff.mp h)
  · next h =>
    rw [and_iff_right (mt List.isEmpty_iff.mpr h), ← @emptyPool?_eq_none c.pools 0]
    cases emptyPool? 0 c.pools with
    | some e => exact iff_of_false nofun fun hc ↦ nomatch hc.1
    | none =>
      dsimp only
      rw [and_iff_right rfl]
      split
      · next hm => exact iff_of_false nofun fun hc ↦ hc.1 hm
      · next hm =>
        rw [and_iff_right hm]
        split
        · next hd => exact iff_of_false nofun fun hc ↦ hc hd
        · next hd => exact iff_of_true rfl hd

end Config

namespace TaskSystem

open Config

variable {a : Allocator} {c : Config} {ps : List PoolSpec}

/-! ## Declaring the pools -/

/-- The pool after a specification that is not empty, where there is room and the items have
buffers. -/
theorem addPool_of_spec {p : PoolSpec} (hp : p.isEmpty = false) (hfits : p.Fits)
    (h : a.pools.size < a.maxPools) :
    a.addPool p.itemCount.toNat p.itemSize.toNat =
      (.ok a.pools.size, a.declared p.itemCount.toNat p.itemSize.toNat) := by
  obtain ⟨hc, hs⟩ := PoolSpec.ne_zero_of_not_isEmpty hp
  exact Allocator.addPool_of_fits (Allocator.addPoolError?_of_room hc hs h) hfits

/-- **A list of pools for which there is room is declared**, in its order, and the others are
declared behind it. -/
theorem declarePools_append (hps : ∀ p ∈ ps, p.isEmpty = false) (hfits : ∀ p ∈ ps, p.Fits)
    (h : a.pools.size + ps.length ≤ a.maxPools) (others : List PoolSpec) :
    ∃ b, declarePools a (ps ++ others) = declarePools b others ∧ b.maxPools = a.maxPools ∧
      b.pools.toList = a.pools.toList ++ ps.map PoolSpec.pool := by
  induction ps generalizing a with
  | nil => exact ⟨a, rfl, rfl, (List.append_nil _).symm⟩
  | cons p ps ih =>
    obtain ⟨hp, hps⟩ := List.forall_mem_cons.mp hps
    obtain ⟨hpfits, hfits⟩ := List.forall_mem_cons.mp hfits
    rw [List.length_cons] at h
    obtain ⟨b, hb, hmax, hpools⟩ :=
      ih (a := a.declared p.itemCount.toNat p.itemSize.toNat) hps hfits
        (by rw [Allocator.size_declared]; change _ ≤ a.maxPools; omega)
    refine ⟨b, ?_, hmax, ?_⟩
    · rw [List.cons_append, declarePools, addPool_of_spec hp hpfits (by omega)]
      exact hb
    · rw [hpools, Allocator.declared, Array.toList_push, List.append_assoc]
      rfl

/-- Where there is no room left, the next pool is refused. -/
theorem declarePools_of_full {p : PoolSpec} (hp : p.isEmpty = false)
    (h : a.maxPools ≤ a.pools.size) (others : List PoolSpec) :
    declarePools a (p :: others) = .error (.refused (.pool (.contextFull a.maxPools))) := by
  obtain ⟨hc, hs⟩ := PoolSpec.ne_zero_of_not_isEmpty hp
  rw [declarePools, Allocator.addPool_of_full hc hs h]
  rfl

/-- Where there is room, the thread panics over items without buffers. -/
theorem declarePools_of_oversized {p : PoolSpec} (hp : p.isEmpty = false)
    (hlarge : ¬ p.Fits) (h : a.pools.size < a.maxPools) (others : List PoolSpec) :
    declarePools a (p :: others) = .error .panicked := by
  obtain ⟨hc, hs⟩ := PoolSpec.ne_zero_of_not_isEmpty hp
  rw [declarePools, Allocator.addPool_of_oversized (Allocator.addPoolError?_of_room hc hs h)
    (Nat.lt_of_not_le hlarge)]
  rfl

/-! ## The system -/

/-- A system is built unless its mailboxes would have no room. -/
theorem exists_build (a : Allocator) (settings : Settings) (h : settings.mailboxCapacity ≠ 0) :
    ∃ s, build a settings = .ok s ∧ s.allocator = a ∧
      s.registry.mailboxCapacity = settings.mailboxCapacity ∧ s.policy = settings.policy :=
  ⟨_, if_neg h, rfl, rfl, rfl⟩

/-- A system is as it was configured. -/
structure Configured (c : Config) (s : TaskSystem) : Prop where
  count : s.allocator.poolCount = c.pools.length
  pool : ∀ (i : Nat) (p : PoolSpec), c.pools[i]? = some p → ∃ q, s.allocator.pools[i]? = some q ∧
    q.itemSize = p.itemSize.toNat ∧ q.capacity = min p.itemCount.toNat Allocator.itemLimit
  mailboxCapacity : s.registry.mailboxCapacity = c.mailbox.capacity.toNat
  policy : s.policy = c.fatalPolicy

/-- What becomes of a configuration. -/
structure ConfigurationLaw (context : UInt64) (c : Config) : Prop where
  runs : c.pools.length ≤ Allocator.poolLimit → (∀ p ∈ c.pools, p.Fits) →
    ∃ s, ofConfig context c = .ok s ∧ Configured c s
  /-- With more pools than handles can tell apart there is no system. -/
  crowded : Allocator.poolLimit < c.pools.length →
    (∀ p ∈ c.pools.take Allocator.poolLimit, p.Fits) →
    ofConfig context c = .error (.refused (.pool (.contextFull Allocator.poolLimit)))
  /-- With items that are larger than any buffer, in a pool that can be told apart, the thread
  panics. -/
  oversized : ∀ p ∈ c.pools.take Allocator.poolLimit, ¬ p.Fits →
    ofConfig context c = .error .panicked

/-- The pools that are declared before anything can fail. -/
theorem exists_declared (context : UInt64) (hps : ∀ p ∈ c.pools, p.isEmpty = false)
    {front others : List PoolSpec} (hc : c.pools = front ++ others)
    (hlen : front.length ≤ Allocator.poolLimit) (hfits : ∀ p ∈ front, p.Fits) :
    ∃ b, declarePools (.create context c.pools.length) c.pools = declarePools b others ∧
      b.maxPools = min c.pools.length Allocator.poolLimit ∧ b.pools.size = front.length ∧
      b.pools.toList = front.map PoolSpec.pool := by
  have hle : front.length ≤ c.pools.length := by
    rw [hc, List.length_append]
    exact Nat.le_add_right _ _
  have hps' : ∀ p ∈ front, p.isEmpty = false := fun p hp ↦ hps p (hc ▸ List.mem_append_left _ hp)
  have hroom : (Allocator.create context c.pools.length).pools.size + front.length ≤
      (Allocator.create context c.pools.length).maxPools := by
    rw [Allocator.pools_create, Array.size_empty, Nat.zero_add]
    exact Nat.le_min.mpr ⟨hle, hlen⟩
  obtain ⟨b, hb, hmax, hpools⟩ := declarePools_append hps' hfits hroom others
  refine ⟨b, by rw [← hb, ← hc], hmax, ?_, hpools⟩
  rw [← Array.length_toList, hpools]
  exact List.length_map ..

theorem ofConfig_of_error {context : UInt64} {f : DeclareFailure TaskError}
    (h : declarePools (.create context c.pools.length) c.pools = .error f) :
    ofConfig context c = .error f := by
  rw [ofConfig, configuredAllocator, h]
  rfl

theorem ofConfig_of_crowd (context : UInt64) (hps : ∀ p ∈ c.pools, p.isEmpty = false)
    (h : Allocator.poolLimit < c.pools.length)
    (hfits : ∀ p ∈ c.pools.take Allocator.poolLimit, p.Fits) :
    ofConfig context c = .error (.refused (.pool (.contextFull Allocator.poolLimit))) := by
  have hlen : (c.pools.take Allocator.poolLimit).length = Allocator.poolLimit := by
    rw [List.length_take, Nat.min_eq_left (Nat.le_of_lt h)]
  obtain ⟨b, hb, hmax, hsize, -⟩ := exists_declared context hps
    (List.take_append_drop Allocator.poolLimit c.pools).symm (Nat.le_of_eq hlen) hfits
  rw [Nat.min_eq_right (Nat.le_of_lt h)] at hmax
  have hrefused := declarePools_of_full (hps _ (List.getElem_mem h)) (a := b) (by omega)
    (c.pools.drop (Allocator.poolLimit + 1))
  rw [hmax] at hrefused
  apply ofConfig_of_error
  rw [hb, List.drop_eq_getElem_cons h, hrefused]

theorem ofConfig_of_oversized (context : UInt64) (hps : ∀ p ∈ c.pools, p.isEmpty = false)
    {p : PoolSpec} (hp : p ∈ c.pools.take Allocator.poolLimit) (hlarge : ¬ p.Fits) :
    ofConfig context c = .error .panicked := by
  -- The pools in front of the first one that does not fit are declared.
  have hsome : ((c.pools.take Allocator.poolLimit).find? fun q ↦ ¬ q.Fits).isSome :=
    List.find?_isSome.mpr ⟨p, hp, decide_eq_true hlarge⟩
  obtain ⟨q, hq⟩ := Option.isSome_iff_exists.mp hsome
  obtain ⟨hqlarge, front, others, hsplit, hfront⟩ := List.find?_eq_some_iff_append.mp hq
  have hc : c.pools = front ++ q :: (others ++ c.pools.drop Allocator.poolLimit) := by
    rw [← List.cons_append, ← List.append_assoc, ← hsplit, List.take_append_drop]
  have hlen : front.length < min c.pools.length Allocator.poolLimit := by
    have htake := congrArg List.length hsplit
    rw [List.length_take, List.length_append, List.length_cons] at htake
    omega
  obtain ⟨b, hb, hmax, hsize, -⟩ := exists_declared context hps hc (by omega) fun r hr ↦ by
    simpa using hfront r hr
  apply ofConfig_of_error
  rw [hb]
  refine declarePools_of_oversized (hps q ?_) (of_decide_eq_true hqlarge) (by omega) _
  rw [hc]
  exact List.mem_append_right _ List.mem_cons_self

/-- **The law of configurations.** A configuration that passes validation can be run, and the system
is as it was configured, unless there are too many pools, or items too large for a buffer. -/
theorem configuration_law (context : UInt64) (c : Config) (h : c.invalid? = none) :
    ConfigurationLaw context c := by
  obtain ⟨-, hps, hmailbox, -⟩ := invalid?_eq_none_iff.mp h
  refine ⟨?_, ofConfig_of_crowd context hps, fun p ↦ ofConfig_of_oversized context hps⟩
  intro hle hfits
  obtain ⟨b, hb, -, hsize, hpools⟩ := exists_declared context hps
    (List.append_nil c.pools).symm hle hfits
  obtain ⟨s, hs, rfl, hcapacity, hpolicy⟩ :=
    exists_build b (.ofConfig c) (mt (UInt64.toNat_inj (b := 0)).mp hmailbox)
  refine ⟨s, ?_, ?_, ?_, hcapacity, hpolicy⟩
  · rw [ofConfig, configuredAllocator, hb]
    exact congrArg (Except.mapError DeclareFailure.refused) hs
  · exact hsize
  · intro i p hp
    refine ⟨p.pool, ?_, rfl, SizeClass.capacity_create _ _⟩
    rw [← Array.getElem?_toList, hpools, List.getElem?_map, hp, Option.map_some]

/-- An item that is just too large for a buffer passes validation, and takes the thread with it. -/
example : { Config.default with pools := [⟨1, 9223372036854775808⟩] }.invalid? = none ∧
    ofConfig 7 { Config.default with pools := [⟨1, 9223372036854775808⟩] } = .error .panicked :=
  ⟨rfl, rfl⟩

/-- Three pools, of which the first is declared with more items than a handle can tell apart. -/
def hugePool : Config :=
  { Config.default with pools := [⟨4294967301, 8⟩, ⟨1, 64⟩, ⟨2, 8⟩], fatalPolicy := .report }

theorem configuration_law_hugePool :
    hugePool.invalid? = none ∧ ∃ s, ofConfig 7 hugePool = .ok s ∧ Configured hugePool s ∧
      s.allocator.poolCount = 3 ∧
      ∃ q, s.allocator.pools[0]? = some q ∧ q.itemSize = 8 ∧ q.capacity = 4294967295 := by
  have hvalid : hugePool.invalid? = none := by decide
  obtain ⟨s, hs, hconfigured⟩ := (configuration_law 7 hugePool hvalid).runs (by decide) (by decide)
  exact ⟨hvalid, s, hs, hconfigured, hconfigured.count, hconfigured.pool 0 _ rfl⟩

/-- Every configuration that passes validation can be run, without exception. -/
def RunsValidated (context : UInt64) : Prop :=
  ∀ c : Config, c.invalid? = none → ∃ s, ofConfig context c = .ok s

/-- One pool more than handles can tell apart. -/
def crowdedPools : Config := { Config.default with pools := List.replicate 65536 ⟨1, 1⟩ }

/-- Too many pools pass validation, and there is no system with them. -/
theorem not_runsValidated_crowdedPools :
    crowdedPools.invalid? = none ∧
      ofConfig 7 crowdedPools = .error (.refused (.pool (.contextFull 65535))) ∧
      ¬ RunsValidated 7 := by
  have hlength : crowdedPools.pools.length = 65536 := List.length_replicate
  have hpool : ∀ p ∈ crowdedPools.pools, p = ⟨1, 1⟩ := fun p hp ↦ List.eq_of_mem_replicate hp
  have hps : ∀ p ∈ crowdedPools.pools, p.isEmpty = false := by
    intro p hp
    rw [hpool p hp]
    rfl
  have hvalid : crowdedPools.invalid? = none := by
    refine invalid?_eq_none_iff.mpr ⟨?_, hps, by decide, by decide⟩
    rw [← List.length_pos_iff, hlength]
    decide
  have hrefused : ofConfig 7 crowdedPools = .error (.refused (.pool (.contextFull 65535))) := by
    refine ofConfig_of_crowd 7 hps (by rw [hlength]; decide) fun p hp ↦ ?_
    rw [hpool p (List.mem_of_mem_take hp)]
    decide
  refine ⟨hvalid, hrefused, ?_⟩
  intro hruns
  obtain ⟨s, hs⟩ := hruns crowdedPools hvalid
  cases hrefused.symm.trans hs

end TaskSystem

end TaskMessaging
