import Aristo.Base.Lowest
import Aristo.Regions.Config

/-!
# Selection of a TEE pair

`UpdatePairMetrics` and `SelectOptimalPair` of `regions/balancer.go`.  The balancer keeps one
record for each pair of a region, in the order in which the pairs were first recorded, and selects
the first record with the least load among those that are healthy enough.

The only caller of `UpdatePairMetrics` passes a record of the pair that it names, so the pairs of
the records stay distinct; `PairRecords` has this as a field.  `selectOptimalPair_eq_ok_iff` says
which record is selected.
-/

namespace Aristo

open GoBase

namespace Regions

/-- `BalancerConfig`, without the preference of near regions. -/
structure BalancerConfig where
  minSuccessRate : Float64
  /-- A duration in nanoseconds. -/
  healthCheckWindow : ℤ
  maxLoadFactor : Float64
  maxLatencyMs : Float64
  maxErrorRate : Float64
  minActiveWorkers : ℤ
  maxPendingTasks : ℤ

/-- `DefaultConfig`: 0.95, 0.8 and 0.1, as `float64`s, and five minutes. -/
def BalancerConfig.default : BalancerConfig where
  minSuccessRate := .finite (8556839292003942 / 9007199254740992)
  healthCheckWindow := 300000000000
  maxLoadFactor := .finite (3602879701896397 / 4503599627370496)
  maxLatencyMs := .finite 1000
  maxErrorRate := .finite (3602879701896397 / 36028797018963968)
  minActiveWorkers := 2
  maxPendingTasks := 1000

/-- `Region`, as far as the selection reads it. -/
structure Region where
  isHealthy : Bool

/-- `RegionMetrics`, as far as the selection reads it. -/
structure RegionMetrics where
  loadFactor : Float64
  latencyMs : Float64
  errorRate : Float64
  activeWorkers : ℤ
  pendingTasks : ℤ
  lastHealthCheck : Time

/-- The records of a region, at most one for each pair. -/
@[ext]
structure PairRecords where
  records : List TEEPairMetrics
  distinct : (records.map TEEPairMetrics.pairID).Nodup

/-- The loop of `UpdatePairMetrics`, for a record of the pair that is named. -/
def PairRecords.set (pairID : Bytes) (metrics : TEEPairMetrics) (named : metrics.pairID = pairID)
    (pairs : PairRecords) : PairRecords where
  records := upsert TEEPairMetrics.pairID pairID metrics pairs.records
  distinct := nodup_upsert named pairs.distinct

/-- `RegionBalancer`.  No region is nil; `UpdateMetrics` stores whatever pointer it is given. -/
structure RegionBalancer where
  pairMetrics : GoMap Bytes PairRecords
  thresholds : BalancerConfig
  regions : GoMap Bytes Region
  metrics : GoMap Bytes (Option RegionMetrics)

namespace RegionBalancer

def new (config : BalancerConfig) : RegionBalancer where
  pairMetrics := ∅
  thresholds := config
  regions := ∅
  metrics := ∅

def pairs (rb : RegionBalancer) (regionID : Bytes) : PairRecords :=
  (rb.pairMetrics.lookup regionID).getD ⟨[], List.nodup_nil⟩

/-- `UpdatePairMetrics`, for a record of the pair that is named. -/
def updatePairMetrics (regionID pairID : Bytes) (metrics : TEEPairMetrics)
    (named : metrics.pairID = pairID) (rb : RegionBalancer) : RegionBalancer :=
  { rb with
    pairMetrics := rb.pairMetrics.insert regionID ((rb.pairs regionID).set pairID metrics named) }

def selected (metrics : TEEPairMetrics) : TEEPair where
  id := metrics.pairID
  sgxID := []
  sevID := []
  sgxEndpoint := metrics.sgxEndpoint
  sevEndpoint := metrics.sevEndpoint
  status := ascii "active"

/-- The record's success rate and age are good enough; `now` has the readings of the clock by pair.
-/
def Healthy (thresholds : BalancerConfig) (now : Bytes → Time) (metrics : TEEPairMetrics) : Prop :=
  thresholds.minSuccessRate < metrics.successRate ∧
    (now metrics.pairID).sub metrics.lastHealthy < thresholds.healthCheckWindow

instance decidableHealthy (thresholds : BalancerConfig) (now : Bytes → Time)
    (metrics : TEEPairMetrics) : Decidable (Healthy thresholds now metrics) :=
  inferInstanceAs (Decidable (_ ∧ _))

/-- The body of the loop of `SelectOptimalPair`. -/
def consider (thresholds : BalancerConfig) (now : Bytes → Time)
    (best : Float64 × Option TEEPair) (metrics : TEEPairMetrics) : Float64 × Option TEEPair :=
  if metrics.loadFactor < best.1 ∧ Healthy thresholds now metrics then
    (metrics.loadFactor, some (selected metrics))
  else best

/-- `SelectOptimalPair`, for any records of the region. -/
def selectPair (thresholds : BalancerConfig) (now : Bytes → Time) (regionID : Bytes)
    (records : List TEEPairMetrics) : Except GoError TEEPair :=
  if records = [] then
    .error (.plain (ascii "no TEE pairs available for region " ++ regionID))
  else
    match (records.foldl (consider thresholds now) (Float64.max, none)).2 with
    | none => .error (.plain (ascii "no healthy TEE pairs available for region " ++ regionID))
    | some pair => .ok pair

def selectOptimalPair (now : Bytes → Time) (regionID : Bytes) (rb : RegionBalancer) :
    Except GoError TEEPair :=
  selectPair rb.thresholds now regionID (rb.pairs regionID).records

/-! ## The record that is selected -/

section Selection

variable (thresholds : BalancerConfig) (now : Bytes → Time)

/-- The load of a healthy record, on the line of the numbers. -/
def load (metrics : TEEPairMetrics) : Option (WithBot (WithTop ℚ)) :=
  if Healthy thresholds now metrics then metrics.loadFactor.place else none

/-- Between the records before and after it, a record is the one to be selected. -/
structure Optimal (before : List TEEPairMetrics) (metrics : TEEPairMetrics)
    (after : List TEEPairMetrics) : Prop where
  healthy : Healthy thresholds now metrics
  bounded : metrics.loadFactor < Float64.max
  lessThanBefore : ∀ other ∈ before, Healthy thresholds now other →
    ¬ other.loadFactor ≤ metrics.loadFactor
  notMoreThanAfter : ∀ other ∈ after, Healthy thresholds now other →
    ¬ other.loadFactor < metrics.loadFactor

variable {thresholds now}

theorem isFirstLowest_iff {before after : List TEEPairMetrics} {metrics : TEEPairMetrics} :
    Float64.IsFirstLowest (Healthy thresholds now) TEEPairMetrics.loadFactor Float64.max before
        metrics after ↔
      Optimal thresholds now before metrics after :=
  ⟨fun lowest => ⟨lowest.1, lowest.2, lowest.3, lowest.4⟩,
    fun optimal => ⟨optimal.1, optimal.2, optimal.3, optimal.4⟩⟩

/-- The loop keeps the first record with the least load. -/
theorem foldl_consider {best : Float64 × Option TEEPair}
    {least : WithBot (WithTop ℚ) × Option TEEPairMetrics} (bound : best.1.place = some least.1)
    (same : best.2 = least.2.map selected) (records : List TEEPairMetrics) :
    (records.foldl (consider thresholds now) best).2 =
      (records.foldl (keepLeast (load thresholds now)) least).2.map selected := by
  have join (found : Option TEEPairMetrics) :
      (found.map fun metrics => some (selected metrics)).getD none = found.map selected := by
    cases found <;> rfl
  rw [← join] at same ⊢
  exact Float64.foldl_keepLower bound same records

end Selection

section Selected

variable {thresholds : BalancerConfig} {now : Bytes → Time} {regionID : Bytes}
  {records : List TEEPairMetrics}

theorem selectPair_eq_ok_iff_foldl {pair : TEEPair} :
    selectPair thresholds now regionID records = .ok pair ↔
      (records.foldl (consider thresholds now) (Float64.max, none)).2 = some pair := by
  unfold selectPair
  by_cases empty : records = []
  · simp [empty]
  · rw [if_neg empty]
    split
    · rename_i nothing
      simp [nothing]
    · rename_i found
      simp [found]

/-- Without a healthy record below the largest number there is none. -/
theorem foldl_consider_cases (thresholds : BalancerConfig) (now : Bytes → Time)
    (records : List TEEPairMetrics) :
    ((∀ metrics ∈ records, Healthy thresholds now metrics →
          ¬ metrics.loadFactor < Float64.max) ∧
        (records.foldl (consider thresholds now) (Float64.max, none)).2 = none) ∨
      ∃ before metrics after, records = before ++ metrics :: after ∧
        Optimal thresholds now before metrics after := by
  have number : Float64.max ≠ .nan := by simp [Float64.max]
  rcases Float64.foldl_keepLower_cases (p := Healthy thresholds now)
    (f := TEEPairMetrics.loadFactor) (g := fun metrics => some (selected metrics)) number none
    records with none | ⟨before, metrics, after, split, lowest, -⟩
  · exact Or.inl none
  · exact Or.inr ⟨before, metrics, after, split, isFirstLowest_iff.mp lowest⟩

/-- The pair of that record is selected. -/
theorem selectPair_eq_ok_iff {pair : TEEPair} :
    selectPair thresholds now regionID records = .ok pair ↔
      ∃ before metrics after, records = before ++ metrics :: after ∧
        selected metrics = pair ∧ Optimal thresholds now before metrics after := by
  obtain ⟨bound, place⟩ : ∃ bound, Float64.max.place = some bound := ⟨_, rfl⟩
  have loop : (records.foldl (consider thresholds now) (Float64.max, none)).2 =
      (leastBelow (load thresholds now) bound records).map selected :=
    foldl_consider place rfl records
  rw [selectPair_eq_ok_iff_foldl, loop, Option.map_eq_some_iff]
  simp only [leastBelow_eq_some_iff, ← isFirstLowest_iff, ← Float64.isFirstLeast_placed_iff place]
  constructor
  · rintro ⟨metrics, ⟨before, after, k, split, least⟩, chosen⟩
    exact ⟨before, metrics, after, split, chosen, k, least⟩
  · rintro ⟨before, metrics, after, split, chosen, k, least⟩
    exact ⟨metrics, ⟨before, after, k, split, least⟩, chosen⟩

end Selected

variable {regionID : Bytes}

/-- **The pair that is selected** is that of the first record with the least load among the
healthy ones. -/
theorem selectOptimalPair_eq_ok_iff {now : Bytes → Time} {rb : RegionBalancer} {pair : TEEPair} :
    selectOptimalPair now regionID rb = .ok pair ↔
      ∃ before metrics after, (rb.pairs regionID).records = before ++ metrics :: after ∧
        selected metrics = pair ∧ Optimal rb.thresholds now before metrics after := by
  rw [selectOptimalPair, selectPair_eq_ok_iff]

/-- An update is seen in its region. -/
theorem pairs_updatePairMetrics (regionID pairID : Bytes) (metrics : TEEPairMetrics)
    (named : metrics.pairID = pairID) (rb : RegionBalancer) :
    (updatePairMetrics regionID pairID metrics named rb).pairs regionID =
      (rb.pairs regionID).set pairID metrics named := by
  rw [pairs, updatePairMetrics, Finmap.lookup_insert, Option.getD_some]

/-- Of two updates of one pair the second counts. -/
theorem updatePairMetrics_updatePairMetrics {pairID : Bytes} {first second : TEEPairMetrics}
    (named : first.pairID = pairID) (named' : second.pairID = pairID) (rb : RegionBalancer) :
    updatePairMetrics regionID pairID second named'
        (updatePairMetrics regionID pairID first named rb) =
      updatePairMetrics regionID pairID second named' rb := by
  have twice : ((rb.pairs regionID).set pairID first named).set pairID second named' =
      (rb.pairs regionID).set pairID second named' :=
    PairRecords.ext (upsert_upsert named second _)
  rw [updatePairMetrics, pairs_updatePairMetrics, twice, updatePairMetrics,
    Finmap.insert_insert, updatePairMetrics]

/-- A record is the one to be selected in the place that its pair has, or will get. -/
def OptimalInPlace (rb : RegionBalancer) (now : Bytes → Time) (regionID : Bytes)
    (metrics : TEEPairMetrics) : Prop :=
  Optimal rb.thresholds now
    (earlier TEEPairMetrics.pairID metrics.pairID (rb.pairs regionID).records) metrics
    (later TEEPairMetrics.pairID metrics.pairID (rb.pairs regionID).records)

/-- **After an update** its pair is selected exactly when the new record is optimal in its place,
and then with what the new record says. -/
theorem selectOptimalPair_updated_iff {now : Bytes → Time} {pairID : Bytes}
    {metrics : TEEPairMetrics} (named : metrics.pairID = pairID) {rb : RegionBalancer}
    {pair : TEEPair} :
    selectOptimalPair now regionID (updatePairMetrics regionID pairID metrics named rb) = .ok pair ∧
        pair.id = pairID ↔
      pair = selected metrics ∧ rb.OptimalInPlace now regionID metrics := by
  subst named
  have split : ((updatePairMetrics regionID metrics.pairID metrics rfl rb).pairs regionID).records =
      earlier TEEPairMetrics.pairID metrics.pairID (rb.pairs regionID).records ++ metrics ::
        later TEEPairMetrics.pairID metrics.pairID (rb.pairs regionID).records := by
    rw [pairs_updatePairMetrics]
    exact upsert_eq _
  have distinct :=
    ((updatePairMetrics regionID metrics.pairID metrics rfl rb).pairs regionID).distinct
  rw [selectOptimalPair_eq_ok_iff]
  constructor
  · rintro ⟨⟨before, other, after, split', rfl, optimal⟩, same⟩
    -- the pairs are distinct, so the record of this pair is at one place only
    rw [split] at distinct split'
    obtain ⟨rfl, rfl, rfl⟩ := split_unique distinct split' same.symm
    exact ⟨rfl, optimal⟩
  · rintro ⟨rfl, optimal⟩
    exact ⟨⟨_, metrics, _, split, rfl, optimal⟩, rfl⟩

end RegionBalancer

end Regions

end Aristo
