import Aristo.Regions.Balancer

/-!
# Usable pairs and usable regions

`GetHealthyPairs` and `selectRegionByLoad` of `regions/balancer.go`, beside `SelectOptimalPair`.

`GetHealthyPairs` asks for a load below the configured maximum, and `SelectOptimalPair` only for
one below the greatest `float64`, so the two differ where all healthy pairs are overloaded
(`usable_agree_iff`).  `selectRegionByLoad` starts from a load of one and takes the empty ID for
none, so it misses the regions that are fully loaded, and the region whose ID is empty
(`selectsLeast_iff`).
-/

namespace Aristo

open GoBase Finmap List

namespace Regions

namespace RegionBalancer

/-! ## Pairs -/

/-- `GetHealthyPairs`, for any records of the region. -/
def healthyPairs (thresholds : BalancerConfig) (now : Bytes → Time)
    (records : List TEEPairMetrics) : List Bytes :=
  (records.filter fun metrics =>
    (now metrics.pairID).sub metrics.lastHealthy < thresholds.healthCheckWindow ∧
      metrics.loadFactor < thresholds.maxLoadFactor ∧
        thresholds.minSuccessRate < metrics.successRate).map TEEPairMetrics.pairID

def getHealthyPairs (now : Bytes → Time) (regionID : Bytes) (rb : RegionBalancer) : List Bytes :=
  healthyPairs rb.thresholds now (rb.pairs regionID).records

section Pairs

variable (thresholds : BalancerConfig) (now : Bytes → Time) (regionID : Bytes)
  (records : List TEEPairMetrics)

/-- Some healthy record has a load below the bound. -/
def HealthyBelow (bound : Float64) : Prop :=
  ∃ metrics ∈ records, Healthy thresholds now metrics ∧ metrics.loadFactor < bound

variable {thresholds now regionID records}

theorem mem_healthyPairs {pairID : Bytes} :
    pairID ∈ healthyPairs thresholds now records ↔
      ∃ metrics ∈ records, (Healthy thresholds now metrics ∧
        metrics.loadFactor < thresholds.maxLoadFactor) ∧ metrics.pairID = pairID := by
  simp only [healthyPairs, mem_map, mem_filter, decide_eq_true_eq, Healthy]
  constructor
  · rintro ⟨metrics, ⟨mem, recent, load, rate⟩, same⟩
    exact ⟨metrics, mem, ⟨⟨rate, recent⟩, load⟩, same⟩
  · rintro ⟨metrics, mem, ⟨⟨rate, recent⟩, load⟩, same⟩
    exact ⟨metrics, ⟨mem, recent, load, rate⟩, same⟩

/-- There is a healthy pair when a load is below the maximum, -/
theorem healthyPairs_ne_nil_iff :
    healthyPairs thresholds now records ≠ [] ↔
      HealthyBelow thresholds now records thresholds.maxLoadFactor := by
  constructor
  · intro some
    obtain ⟨pairID, listed⟩ := exists_mem_of_ne_nil _ some
    obtain ⟨metrics, mem, usable, -⟩ := mem_healthyPairs.mp listed
    exact ⟨metrics, mem, usable⟩
  · rintro ⟨metrics, mem, usable⟩
    exact ne_nil_of_mem (mem_healthyPairs.mpr ⟨metrics, mem, usable, rfl⟩)

/-- and a pair is selected when one is below the greatest number. -/
theorem selectPair_succeeds_iff :
    (∃ pair, selectPair thresholds now regionID records = .ok pair) ↔
      HealthyBelow thresholds now records Float64.max := by
  constructor
  · rintro ⟨pair, chosen⟩
    obtain ⟨before, metrics, after, rfl, -, optimal⟩ := selectPair_eq_ok_iff.mp chosen
    exact ⟨metrics, mem_append_right _ mem_cons_self, optimal.healthy, optimal.bounded⟩
  · rintro ⟨metrics, mem, healthy, bounded⟩
    rcases foldl_consider_cases thresholds now records with
      ⟨none, -⟩ | ⟨before, best, after, rfl, optimal⟩
    · exact absurd bounded (none metrics mem healthy)
    · exact ⟨_, selectPair_eq_ok_iff.mpr ⟨before, best, after, rfl, rfl, optimal⟩⟩

/-- With a load below the maximum, the selected pair has one. -/
theorem id_mem_healthyPairs {pair : TEEPair}
    (chosen : selectPair thresholds now regionID records = .ok pair)
    (below : HealthyBelow thresholds now records thresholds.maxLoadFactor) :
    pair.id ∈ healthyPairs thresholds now records := by
  obtain ⟨before, metrics, after, rfl, rfl, optimal⟩ := selectPair_eq_ok_iff.mp chosen
  obtain ⟨other, mem, healthy, load⟩ := below
  have least : metrics.loadFactor ≤ other.loadFactor := by
    refine (isFirstLowest_iff.mpr optimal).le mem healthy fun nan => ?_
    rw [nan] at load
    cases load
  exact mem_healthyPairs.mpr ⟨metrics, mem_append_right _ mem_cons_self,
    ⟨optimal.healthy, Float64.lt_of_le_of_lt least load⟩, rfl⟩

/-- **The two notions of a usable pair** agree exactly when there is a healthy record with a load
below the configured maximum as soon as there is one with a load below the greatest number, and the
other way round. -/
theorem usable_agree_iff (thresholds : BalancerConfig) (now : Bytes → Time) (regionID : Bytes)
    (records : List TEEPairMetrics) :
    ((∃ pair, selectPair thresholds now regionID records = .ok pair) ↔
          healthyPairs thresholds now records ≠ []) ∧
        (∀ pair, selectPair thresholds now regionID records = .ok pair →
          pair.id ∈ healthyPairs thresholds now records) ↔
      (HealthyBelow thresholds now records Float64.max ↔
        HealthyBelow thresholds now records thresholds.maxLoadFactor) := by
  rw [selectPair_succeeds_iff, healthyPairs_ne_nil_iff, and_iff_left_iff_imp]
  intro agree pair chosen
  exact id_mem_healthyPairs chosen (agree.mp (selectPair_succeeds_iff.mp ⟨pair, chosen⟩))

end Pairs

def overloaded : TEEPairMetrics where
  pairID := ascii "p"
  sgxEndpoint := ascii "sgx"
  sevEndpoint := ascii "sev"
  lastHealthCheck := Time.zero
  lastHealthy := Time.zero
  successRate := .finite 1
  loadFactor := .finite (8106479329266893 / 9007199254740992)

/-- An overloaded pair is selected, and is not among the healthy ones. -/
theorem selectOptimalPair_overloaded :
    ∃ rb, rb = updatePairMetrics (ascii "r") overloaded.pairID overloaded rfl (new .default) ∧
      selectOptimalPair (fun _ => Time.zero) (ascii "r") rb = .ok (selected overloaded) ∧
        getHealthyPairs (fun _ => Time.zero) (ascii "r") rb = [] := by
  exact ⟨_, rfl, by decide +kernel, by decide +kernel⟩

/-! ## Regions -/

def errNoHealthyRegions : GoError :=
  .new ⟨"regions", "ErrNoHealthyRegions"⟩ "no healthy regions available"

def addRegion (id : Bytes) (region : Region) (rb : RegionBalancer) : RegionBalancer :=
  { rb with regions := rb.regions.insert id region }

def updateMetrics (regionID : Bytes) (metrics : Option RegionMetrics) (rb : RegionBalancer) :
    RegionBalancer :=
  { rb with metrics := rb.metrics.insert regionID metrics }

/-- The metrics are recent enough. -/
def Recent (thresholds : BalancerConfig) (now : Time) (metrics : RegionMetrics) : Prop :=
  ¬ thresholds.healthCheckWindow < now.sub metrics.lastHealthCheck

instance decidableRecent (thresholds : BalancerConfig) (now : Time) (metrics : RegionMetrics) :
    Decidable (Recent thresholds now metrics) :=
  inferInstanceAs (Decidable (¬ _))

/-- `isRegionHealthy`; `none` where a nil pointer is read. -/
def isRegionHealthy (now : Bytes → Time) (regionID : Bytes) (region : Region)
    (rb : RegionBalancer) : Option Bool :=
  if region.isHealthy then
    match rb.metrics.lookup regionID with
    | none => some false
    | some none => none
    | some (some metrics) => some (decide (Recent rb.thresholds (now regionID) metrics))
  else some false

/-- `isRegionWithinThresholds`. -/
def WithinThresholds (thresholds : BalancerConfig) (metrics : RegionMetrics) : Prop :=
  metrics.loadFactor ≤ thresholds.maxLoadFactor ∧
    metrics.latencyMs ≤ thresholds.maxLatencyMs ∧
    metrics.errorRate ≤ thresholds.maxErrorRate ∧
    thresholds.minActiveWorkers ≤ metrics.activeWorkers ∧
    metrics.pendingTasks ≤ thresholds.maxPendingTasks

instance decidableWithinThresholds (thresholds : BalancerConfig) (metrics : RegionMetrics) :
    Decidable (WithinThresholds thresholds metrics) :=
  inferInstanceAs (Decidable (_ ∧ _))

/-- The body of the loop of `selectRegionByLoad`, for a region that passed `isRegionHealthy`. -/
def considerHealthy (id : Bytes) (rb : RegionBalancer) (best : Float64 × Bytes) :
    Float64 × Bytes :=
  -- an ID without metrics reads as a nil pointer
  match (rb.metrics.lookup id).join with
  | none => best
  | some metrics =>
    if WithinThresholds rb.thresholds metrics then
      if metrics.loadFactor < best.1 then (metrics.loadFactor, id) else best
    else best

/-- The body of the loop of `selectRegionByLoad`. -/
def considerRegion (now : Bytes → Time) (rb : RegionBalancer) (best : Float64 × Bytes)
    (id : Bytes) : Option (Float64 × Bytes) :=
  match rb.regions.lookup id with
  | none => some best
  | some region =>
    (rb.isRegionHealthy now id region).map fun healthy =>
      if healthy then rb.considerHealthy id best else best

/-- `selectRegionByLoad`, when the regions are visited in the order `order`. -/
def selectRegionByLoad (now : Bytes → Time) (order : List Bytes) (rb : RegionBalancer) :
    Outcome Bytes :=
  match order.foldlM (rb.considerRegion now) (.finite 1, []) with
  | none => .panicked
  | some (_, selected) => if selected = [] then .err errNoHealthyRegions else .ok selected

/-! ### The region that is selected -/

/-- The region is healthy and within the thresholds. -/
def Eligible (now : Bytes → Time) (rb : RegionBalancer) (id : Bytes) : Prop :=
  ∃ region ∈ rb.regions.lookup id, ∃ metrics ∈ (rb.metrics.lookup id).join,
    region.isHealthy = true ∧ Recent rb.thresholds (now id) metrics ∧
      WithinThresholds rb.thresholds metrics

instance decidableEligible (now : Bytes → Time) (rb : RegionBalancer) :
    DecidablePred (rb.Eligible now) := fun id =>
  inferInstanceAs (Decidable (∃ region ∈ rb.regions.lookup id,
    ∃ metrics ∈ (rb.metrics.lookup id).join, region.isHealthy = true ∧
      Recent rb.thresholds (now id) metrics ∧ WithinThresholds rb.thresholds metrics))

/-- The load of a region; not a number where there are no metrics. -/
def regionLoad (rb : RegionBalancer) (id : Bytes) : Float64 :=
  ((rb.metrics.lookup id).join.map RegionMetrics.loadFactor).getD .nan

/-- An eligible region with the least load of all of them. -/
structure LeastLoaded (now : Bytes → Time) (rb : RegionBalancer) (id : Bytes) : Prop where
  eligible : rb.Eligible now id
  least : ∀ other, rb.Eligible now other → rb.regionLoad id ≤ rb.regionLoad other

/-- All metrics are there, with loads from zero to one. -/
def LoadsWithinOne (rb : RegionBalancer) : Prop :=
  ∀ id pointer, rb.metrics.lookup id = some pointer →
    ∃ metrics load, pointer = some metrics ∧ metrics.loadFactor = .finite load ∧
      0 ≤ load ∧ load ≤ 1

/-- What the selection is for. -/
structure SelectsLeast (now : Bytes → Time) (order : List Bytes) (rb : RegionBalancer) :
    Prop where
  returns : rb.selectRegionByLoad now order = .err errNoHealthyRegions ∨
    ∃ id, rb.selectRegionByLoad now order = .ok id ∧ rb.LeastLoaded now id
  refuses : rb.selectRegionByLoad now order = .err errNoHealthyRegions ↔
    ∀ id, ¬ rb.Eligible now id

section Regions

variable {now : Bytes → Time} {rb : RegionBalancer} {id : Bytes}

theorem eligible_iff :
    rb.Eligible now id ↔ ∃ region metrics, rb.regions.lookup id = some region ∧
      rb.metrics.lookup id = some (some metrics) ∧ region.isHealthy = true ∧
        Recent rb.thresholds (now id) metrics ∧ WithinThresholds rb.thresholds metrics := by
  constructor
  · rintro ⟨region, found, metrics, stored, eligible⟩
    exact ⟨region, metrics, found, Option.join_eq_some_iff.mp stored, eligible⟩
  · rintro ⟨region, metrics, found, stored, eligible⟩
    exact ⟨region, found, metrics, Option.join_eq_some_iff.mpr stored, eligible⟩

variable {order : List Bytes}

theorem Eligible.mem_order (eligible : rb.Eligible now id) (visits : rb.regions.Visits order) :
    id ∈ order := by
  obtain ⟨region, -, found, -⟩ := eligible_iff.mp eligible
  exact (visits.mem_iff id).mpr (mem_of_lookup_eq_some found)

theorem regionLoad_of_some {metrics : RegionMetrics}
    (stored : rb.metrics.lookup id = some (some metrics)) :
    rb.regionLoad id = metrics.loadFactor := by
  rw [regionLoad, stored]
  rfl

/-- Without nil metrics the body of the loop keeps the lower load. -/
theorem LoadsWithinOne.considerRegion_eq (loads : rb.LoadsWithinOne) (best : Float64 × Bytes)
    (id : Bytes) :
    rb.considerRegion now best id =
      some (Float64.keepLower (rb.Eligible now) rb.regionLoad (fun id => id) best id) := by
  unfold considerRegion Float64.keepLower
  cases found : rb.regions.lookup id with
  | none =>
    have out : ¬ rb.Eligible now id := by simp [eligible_iff, found]
    rw [if_neg fun both => out both.2]
  | some region =>
    cases stored : rb.metrics.lookup id with
    | none =>
      have out : ¬ rb.Eligible now id := by simp [eligible_iff, stored]
      rw [if_neg fun both => out both.2]
      simp [isRegionHealthy, stored]
    | some pointer =>
      obtain ⟨metrics, -, rfl, -⟩ := loads id pointer stored
      rw [regionLoad_of_some stored]
      simp only [isRegionHealthy, considerHealthy, stored, eligible_iff, found,
        Option.join_some, Option.some.injEq, exists_and_left, exists_eq_left']
      by_cases healthy : region.isHealthy = true
      · by_cases recent : Recent rb.thresholds (now id) metrics
        · by_cases within : WithinThresholds rb.thresholds metrics
          · simp [healthy, recent, within]
          · simp [healthy, recent, within]
        · simp [healthy, recent]
      · simp [healthy]

/-- The region that the loop ends with. -/
def lowest (now : Bytes → Time) (order : List Bytes) (rb : RegionBalancer) : Bytes :=
  (order.foldl (Float64.keepLower (rb.Eligible now) rb.regionLoad fun id => id)
    (.finite 1, [])).2

/-- The loop ends with the lowest one. -/
theorem LoadsWithinOne.selectRegionByLoad_eq (loads : rb.LoadsWithinOne) (order : List Bytes) :
    rb.selectRegionByLoad now order =
      if rb.lowest now order = [] then .err errNoHealthyRegions
      else .ok (rb.lowest now order) := by
  have loop (best : Float64 × Bytes) : order.foldlM (rb.considerRegion now) best =
      some (order.foldl (Float64.keepLower (rb.Eligible now) rb.regionLoad fun id => id) best) := by
    induction order generalizing best with
    | nil => rfl
    | cons id order ih =>
      rw [foldlM_cons, loads.considerRegion_eq, Option.bind_eq_bind, Option.bind_some, ih,
        foldl_cons]
  rw [selectRegionByLoad, loop]
  rfl

theorem LoadsWithinOne.refused (loads : rb.LoadsWithinOne) (empty : rb.lowest now order = []) :
    rb.selectRegionByLoad now order = .err errNoHealthyRegions := by
  rw [loads.selectRegionByLoad_eq, if_pos empty]

/-- It is the least loaded region, unless all are fully loaded. -/
theorem LoadsWithinOne.lowest_cases (loads : rb.LoadsWithinOne) (visits : rb.regions.Visits order) :
    ((∀ id, rb.Eligible now id → ¬ rb.regionLoad id < .finite 1) ∧ rb.lowest now order = []) ∨
      rb.LeastLoaded now (rb.lowest now order) ∧
        rb.regionLoad (rb.lowest now order) < .finite 1 := by
  have number : Float64.finite 1 ≠ .nan := by simp
  rcases Float64.foldl_keepLower_cases (p := rb.Eligible now) (f := rb.regionLoad)
      (g := fun id => id) number [] order with
    ⟨none, start⟩ | ⟨before, id, after, split, first, found⟩
  · exact Or.inl ⟨fun id eligible => none id (eligible.mem_order visits) eligible, start⟩
  · have chosen : rb.lowest now order = id := found
    rw [chosen]
    refine Or.inr ⟨⟨first.qualified, fun other eligible => ?_⟩, first.below⟩
    obtain ⟨-, metrics, -, stored, -⟩ := eligible_iff.mp eligible
    obtain ⟨metrics', load, same, number, -⟩ := loads other _ stored
    obtain rfl := Option.some.inj same
    refine first.le (split ▸ eligible.mem_order visits) eligible ?_
    simp [regionLoad_of_some stored, number]

/-- **The region that is selected** is the right one in every order exactly when there is no
eligible region, or there is one with a load below one and no region with the empty ID has the
least load. -/
theorem selectsLeast_iff (now : Bytes → Time) (rb : RegionBalancer) (loads : rb.LoadsWithinOne) :
    (∀ order, rb.regions.Visits order → rb.SelectsLeast now order) ↔
      (∀ id, ¬ rb.Eligible now id) ∨
        (∃ id, rb.Eligible now id ∧ rb.regionLoad id < .finite 1) ∧ ¬ rb.LeastLoaded now [] := by
  constructor
  · intro right
    by_cases none : ∀ id, ¬ rb.Eligible now id
    · exact Or.inl none
    obtain ⟨order, visits⟩ := rb.regions.exists_visits
    -- a loop that ends with the empty ID refuses although there is an eligible region
    have found : ∀ order, rb.regions.Visits order → rb.lowest now order ≠ [] := by
      intro order visits empty
      exact none ((right order visits).refuses.mp (loads.refused empty))
    rcases loads.lowest_cases visits with ⟨-, empty⟩ | ⟨least, below⟩
    · exact absurd empty (found order visits)
    · refine Or.inr ⟨⟨_, least.eligible, below⟩, fun unnamed => ?_⟩
      have mem := (visits.mem_iff []).mp (unnamed.eligible.mem_order visits)
      have first : Float64.IsFirstLowest (rb.Eligible now) rb.regionLoad (.finite 1) [] []
          (order.erase []) := {
        qualified := unnamed.eligible
        below := Float64.lt_of_le_of_lt (unnamed.least _ least.eligible) below
        beforeHigher := fun _ mem => absurd mem not_mem_nil
        afterNotLower := fun other _ eligible lower =>
          Float64.lt_irrefl _ (Float64.lt_of_le_of_lt (unnamed.least other eligible) lower) }
      exact found _ (visits.first mem) (Float64.foldl_keepLower_of_isFirstLowest first [])
  · rintro (none | ⟨⟨id, eligible, below⟩, named⟩) order visits
    · rcases loads.lowest_cases visits with ⟨-, empty⟩ | ⟨least, -⟩
      · have refused := loads.refused empty
        exact ⟨Or.inl refused, iff_of_true refused none⟩
      · exact absurd least.eligible (none _)
    · rcases loads.lowest_cases visits with ⟨full, -⟩ | ⟨least, -⟩
      · exact absurd below (full id eligible)
      · have some : rb.lowest now order ≠ [] := by
          intro empty
          rw [empty] at least
          exact named least
        have chosen : rb.selectRegionByLoad now order = .ok (rb.lowest now order) := by
          rw [loads.selectRegionByLoad_eq, if_neg some]
        refine ⟨Or.inr ⟨_, chosen, least⟩, ?_⟩
        rw [chosen]
        exact iff_of_false (by simp) fun none => none id eligible

end Regions

/-- One region with the load, under a maximum of one. -/
def serving (load : ℚ) : RegionBalancer :=
  updateMetrics (ascii "r")
    (some ⟨.finite load, .finite 0, .finite 0, 2, 0, Time.zero⟩)
    (addRegion (ascii "r") ⟨true⟩ (new { BalancerConfig.default with maxLoadFactor := .finite 1 }))

section Serving

variable {load : ℚ}

theorem loadsWithinOne_serving (nonneg : 0 ≤ load) (le_one : load ≤ 1) :
    (serving load).LoadsWithinOne := by
  intro id pointer stored
  rcases GoMap.lookup_insert_cases stored with ⟨-, rfl⟩ | ⟨-, ⟨⟩⟩
  exact ⟨_, load, rfl, rfl, nonneg, le_one⟩

theorem visits_serving : (serving load).regions.Visits [ascii "r"] where
  nodup := List.nodup_singleton _
  mem_iff id := by
    rw [List.mem_singleton, serving, updateMetrics, addRegion, mem_insert]
    exact (or_iff_left notMem_empty).symm

end Serving

/-- A region with a load of one is within the thresholds, and not found. -/
theorem not_selectsLeast_serving :
    (serving 1).LoadsWithinOne ∧ (serving 1).regions.Visits [ascii "r"] ∧
      (serving 1).Eligible (fun _ => Time.zero) (ascii "r") ∧
        (serving 1).selectRegionByLoad (fun _ => Time.zero) [ascii "r"] =
          .err errNoHealthyRegions := by
  have loads : (serving 1).LoadsWithinOne := loadsWithinOne_serving zero_le_one le_rfl
  -- the loop starts from a load of one and asks for less
  exact ⟨loads, visits_serving, by decide +kernel, loads.refused (by decide +kernel)⟩

/-- A second region, with half of the load. -/
def servingTwo : RegionBalancer :=
  updateMetrics (ascii "s") (some ⟨.finite (1 / 4), .finite 0, .finite 0, 2, 0, Time.zero⟩)
    (addRegion (ascii "s") ⟨true⟩ (serving (1 / 2)))

/-- Of two regions the one with less load is found. -/
theorem selectsLeast_servingTwo :
    servingTwo.SelectsLeast (fun _ => Time.zero) [ascii "r", ascii "s"] ∧
      servingTwo.selectRegionByLoad (fun _ => Time.zero) [ascii "r", ascii "s"] =
        .ok (ascii "s") := by
  have loads : servingTwo.LoadsWithinOne := by
    intro id pointer stored
    rcases GoMap.lookup_insert_cases stored with ⟨-, rfl⟩ | ⟨-, stored⟩
    · exact ⟨_, 1 / 4, rfl, rfl, by decide +kernel, by decide +kernel⟩
    · exact loadsWithinOne_serving (by decide +kernel) (by decide +kernel) id _ stored
  have visits : servingTwo.regions.Visits [ascii "r", ascii "s"] := by
    refine ⟨by decide, fun id => ?_⟩
    rw [servingTwo, updateMetrics, addRegion, mem_insert, ← visits_serving.mem_iff]
    simp [or_comm]
  refine ⟨(selectsLeast_iff (fun _ => Time.zero) servingTwo loads).mpr
    (Or.inr ⟨⟨ascii "r", by decide +kernel, by decide +kernel⟩, fun unnamed => ?_⟩)
    _ visits, by decide +kernel⟩
  exact absurd (unnamed.eligible.mem_order visits) (by decide)

end RegionBalancer

end Regions

end Aristo
