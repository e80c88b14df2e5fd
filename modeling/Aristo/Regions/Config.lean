import Aristo.Base.Float64
import Aristo.Base.GoMap
import Aristo.Base.Time
import Aristo.Storage.Balance

/-!
# Configurations of regions

`RegionConfig` of `regions/config.go` with its TEE pairs, and `Validate`.  A pair is told from the
others by the hexadecimal texts of its two IDs with a colon between them, which two pairs share
only if they share the IDs (`pairKey_eq_iff`).

`validate_eq_ok_iff` is what `Validate` accepts.  The checks behind its first `return nil` are
never reached, and repeat checks before it.
-/

namespace Aristo

open GoBase List

namespace Regions

/-! ## Types -/

structure TEEPair where
  id : Bytes
  sgxID : Bytes
  sevID : Bytes
  sgxEndpoint : Bytes
  sevEndpoint : Bytes
  status : Bytes
deriving DecidableEq

structure LoadBalancerConfig where
  maxLoadFactor : Float64
  maxLatencyMs : Float64
  maxErrorRate : Float64
  minActiveWorkers : ℤ
  maxPendingTasks : ℤ
  healthCheckWindow : ℤ
  geoPreference : Bool
  maxDistance : Float64
deriving DecidableEq

/-- `GeoLocation`, without the country, which nothing reads. -/
structure GeoLocation where
  latitude : Float64
  longitude : Float64
  dataCenter : Bytes
  region : Bytes
deriving DecidableEq

structure RegionConfig where
  id : Bytes
  teePairs : List TEEPair
  maxObjects : ℤ
  maxEvents : ℤ
  loadBalancer : LoadBalancerConfig
  location : GeoLocation
deriving DecidableEq

structure TEEPairState where
  status : Bytes
  lastHealthy : Time
  activeTasks : ℤ
  /-- An `int`, which wraps round. -/
  errorCount : Int64
  loadFactor : Float64
  successRate : Float64
  averageLatency : ℤ
deriving DecidableEq

/-- `TEEPairMetrics`, as far as the manager, the balancer and its own methods set or read it. -/
structure TEEPairMetrics where
  pairID : Bytes
  sgxEndpoint : Bytes
  sevEndpoint : Bytes
  lastHealthCheck : Time
  lastHealthy : Time
  successRate : Float64
  loadFactor : Float64
  averageLatency : ℤ := 0
  status : Bytes := []
  tasksProcessed : UInt64 := 0
  failedTasks : UInt64 := 0
  consecutiveErrors : UInt64 := 0
  attestationFailures : UInt64 := 0
  pendingTasks : UInt64 := 0
  errorRate : Float64 := .finite 0
  /-- A duration in nanoseconds. -/
  averageTaskTime : ℤ := 0
  /-- A duration in nanoseconds. -/
  executionTime : ℤ := 0
deriving DecidableEq

/-! ## Errors -/

def errInvalidConfig : GoError :=
  .new ⟨"regions", "ErrInvalidConfig"⟩ "invalid region configuration"

def errInvalidTEEPair : GoError := .new ⟨"regions", "ErrInvalidTEEPair"⟩ "invalid TEE pair"

def errDuplicateTEEPair : GoError := .new ⟨"regions", "ErrDuplicateTEEPair"⟩ "duplicate TEE pair"

def errIDRequired : GoError := .new ⟨"regions", "ErrIDRequired"⟩ "region ID required"

def errInvalidLimits : GoError := .new ⟨"regions", "ErrInvalidLimits"⟩ "invalid resource limits"

def errConfigNotFound : GoError :=
  .new ⟨"regions", "ErrConfigNotFound"⟩ "region configuration not found"

def errInvalidLocation : GoError :=
  .new ⟨"regions", "ErrInvalidLocation"⟩ "invalid geographic location"

def errInvalidDistance : GoError :=
  .new ⟨"regions", "ErrInvalidDistance"⟩ "invalid maximum distance"

/-! ## Validation -/

/-- `fmt.Sprintf("%x:%x", pair.SGXID, pair.SEVID)`. -/
def pairKey (pair : TEEPair) : Bytes :=
  pair.sgxID.flatMap hexByte ++ 58 :: pair.sevID.flatMap hexByte

/-- The loop over the TEE pairs, at the index `i`. -/
def validatePairs (i : ℕ) (seen : GoMap Bytes Bool) : List TEEPair → Except GoError Unit
  | [] => .ok ()
  | pair :: pairs => do
    refuse (pair.sgxID = [])
      (errInvalidTEEPair.annotate (ascii "missing SGX ID in pair " ++ Time.signed 1 i))
    refuse (pair.sevID = [])
      (errInvalidTEEPair.annotate (ascii "missing SEV ID in pair " ++ Time.signed 1 i))
    refuse (seen.get (pairKey pair) = true)
      (errDuplicateTEEPair.annotate (ascii "pair " ++ Time.signed 1 i))
    validatePairs (i + 1) (seen.insert (pairKey pair) true) pairs

namespace RegionConfig

def validateLocation (c : RegionConfig) : Except GoError Unit := do
  refuse (c.location.latitude < .finite (-90) ∨ .finite 90 < c.location.latitude)
    (errInvalidLocation.annotate (ascii "invalid latitude"))
  refuse (c.location.longitude < .finite (-180) ∨ .finite 180 < c.location.longitude)
    (errInvalidLocation.annotate (ascii "invalid longitude"))
  refuse (c.location.dataCenter = []) (errInvalidLocation.annotate (ascii "missing datacenter"))
  refuse (c.location.region = []) (errInvalidLocation.annotate (ascii "missing region name"))

def validateLoadBalancerConfig (c : RegionConfig) : Except GoError Unit := do
  let lb := c.loadBalancer
  refuse (lb.maxLoadFactor ≤ .finite 0 ∨ .finite 1 < lb.maxLoadFactor)
    (errInvalidConfig.annotate (ascii "invalid load factor"))
  refuse (lb.maxLatencyMs ≤ .finite 0) (errInvalidConfig.annotate (ascii "invalid max latency"))
  refuse (lb.maxErrorRate < .finite 0 ∨ .finite 1 < lb.maxErrorRate)
    (errInvalidConfig.annotate (ascii "invalid error rate"))
  refuse (lb.minActiveWorkers < 1) (errInvalidConfig.annotate (ascii "invalid min workers"))
  refuse (lb.maxPendingTasks < 1) (errInvalidConfig.annotate (ascii "invalid max pending tasks"))
  refuse (lb.healthCheckWindow ≤ 0)
    (errInvalidConfig.annotate (ascii "invalid health check window"))
  refuse (lb.geoPreference = true ∧ lb.maxDistance ≤ .finite 0)
    (errInvalidDistance.annotate (ascii "invalid max distance"))

def validate (c : RegionConfig) : Except GoError Unit := do
  refuse (c.id = []) errIDRequired
  refuse (c.teePairs = [])
    (errInvalidConfig.annotate (ascii "at least one TEE pair required"))
  validatePairs 0 ∅ c.teePairs
  refuse (c.maxObjects ≤ 0 ∨ c.maxEvents ≤ 0) errInvalidLimits
  c.validateLoadBalancerConfig
  c.validateLocation

end RegionConfig

/-! ## What is accepted -/

def TEEPair.ids (pair : TEEPair) : Bytes × Bytes :=
  (pair.sgxID, pair.sevID)

def TEEPair.Identified (pair : TEEPair) : Prop :=
  pair.sgxID ≠ [] ∧ pair.sevID ≠ []

theorem pairKey_eq_iff {pair pair' : TEEPair} :
    pairKey pair = pairKey pair' ↔ pair.ids = pair'.ids := by
  constructor
  · intro equal
    obtain ⟨sgx, sev⟩ := append_sep_inj (colon_notMem_flatMap_hexByte _)
      (colon_notMem_flatMap_hexByte _) equal
    exact Prod.ext (flatMap_hexByte_injective sgx) (flatMap_hexByte_injective sev)
  · intro equal
    obtain ⟨sgx, sev⟩ := Prod.mk.inj equal
    rw [pairKey, pairKey, sgx, sev]

/-- No pair is without an ID, and no two have the same IDs. -/
structure PairsValid (pairs : List TEEPair) : Prop where
  identified : ∀ pair ∈ pairs, pair.Identified
  distinct : (pairs.map TEEPair.ids).Nodup

theorem pairsValid_cons {pair : TEEPair} {pairs : List TEEPair} :
    PairsValid (pair :: pairs) ↔
      pair.Identified ∧ (∀ other ∈ pairs, other.ids ≠ pair.ids) ∧ PairsValid pairs := by
  constructor
  · rintro ⟨identified, distinct⟩
    obtain ⟨first, rest⟩ := forall_mem_cons.mp identified
    rw [map_cons, nodup_cons, mem_map] at distinct
    exact ⟨first, fun other mem same => distinct.1 ⟨other, mem, same⟩, rest, distinct.2⟩
  · rintro ⟨first, fresh, rest, distinct⟩
    refine ⟨forall_mem_cons.mpr ⟨first, rest⟩, ?_⟩
    rw [map_cons, nodup_cons, mem_map]
    exact ⟨fun ⟨other, mem, same⟩ => fresh other mem same, distinct⟩

theorem pairsValid_concat {pair : TEEPair} {pairs : List TEEPair} :
    PairsValid (pairs ++ [pair]) ↔
      PairsValid pairs ∧ pair.Identified ∧ ∀ other ∈ pairs, other.ids ≠ pair.ids := by
  induction pairs with
  | nil =>
    rw [nil_append, pairsValid_cons]
    simp [and_comm]
  | cons first pairs ih =>
    rw [cons_append, pairsValid_cons, ih, pairsValid_cons, forall_mem_append,
      forall_mem_singleton, forall_mem_cons, ne_comm (a := pair.ids)]
    tauto

theorem get_insert_ne_true {seen : GoMap Bytes Bool} {key other : Bytes} :
    ¬ GoMap.get (seen.insert key true) other = true ↔
      ¬ other = key ∧ ¬ seen.get other = true := by
  by_cases same : other = key
  · subst same
    simp
  · rw [GoMap.get_insert_of_ne seen true same]
    exact (and_iff_right same).symm

theorem validatePairs_eq_ok_iff (i : ℕ) (seen : GoMap Bytes Bool) (pairs : List TEEPair) :
    validatePairs i seen pairs = .ok () ↔
      PairsValid pairs ∧ ∀ pair ∈ pairs, seen.get (pairKey pair) ≠ true := by
  -- `seen` has the keys of the pairs before, so it changes along the induction
  induction pairs generalizing i seen with
  | nil =>
    refine iff_of_true rfl ⟨⟨?_, nodup_nil⟩, ?_⟩
    · exact fun pair mem => absurd mem not_mem_nil
    · exact fun pair mem => absurd mem not_mem_nil
  | cons pair pairs ih =>
    simp only [validatePairs, except_seq_eq_ok, refuse_eq_ok, ih, get_insert_ne_true, ne_eq,
      pairKey_eq_iff, forall_and, pairsValid_cons, forall_mem_cons, TEEPair.Identified]
    tauto

namespace RegionConfig

/-- Everything that `Validate` checks but the TEE pairs. -/
structure SettingsValid (c : RegionConfig) : Prop where
  id : c.id ≠ []
  limits : 0 < c.maxObjects ∧ 0 < c.maxEvents
  loadBalancer : c.validateLoadBalancerConfig = .ok ()
  location : c.validateLocation = .ok ()

theorem validate_eq_ok_iff (c : RegionConfig) :
    c.validate = .ok () ↔ c.SettingsValid ∧ c.teePairs ≠ [] ∧ PairsValid c.teePairs := by
  have unseen : ∀ pair ∈ c.teePairs, (∅ : GoMap Bytes Bool).get (pairKey pair) ≠ true :=
    fun pair _ => by simp [GoMap.get]
  simp only [validate, except_seq_eq_ok, refuse_eq_ok, validatePairs_eq_ok_iff, not_or, not_le]
  constructor
  · rintro ⟨id, some, ⟨pairs, -⟩, limits, loadBalancer, location⟩
    exact ⟨⟨id, limits, loadBalancer, location⟩, some, pairs⟩
  · rintro ⟨⟨id, limits, loadBalancer, location⟩, some, pairs⟩
    exact ⟨id, some, ⟨pairs, unseen⟩, limits, loadBalancer, location⟩

/-- A configuration with one pair and the settings of `DefaultConfig`. -/
def sample (id : Bytes) : RegionConfig where
  id := id
  teePairs := [⟨[1], [2], [3], [], [], []⟩]
  maxObjects := 10
  maxEvents := 10
  loadBalancer := {
    maxLoadFactor := .finite (4 / 5), maxLatencyMs := .finite 1000, maxErrorRate := .finite (1 / 10)
    minActiveWorkers := 2, maxPendingTasks := 1000, healthCheckWindow := 300
    geoPreference := true, maxDistance := .finite 5000 }
  location := {
    latitude := .finite 52, longitude := .finite 13
    dataCenter := ascii "dc", region := ascii "eu" }

end RegionConfig

end Regions

end Aristo
