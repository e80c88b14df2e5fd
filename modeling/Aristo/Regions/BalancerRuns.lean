import Aristo.Regions.Balancer

/-!
# Runs of the pair balancer

`UpdateSpecificPairMetrics` of `regions/balancer.go`, and runs of it and of `UpdatePairMetrics`.
The records of a region are a list that stands for a table: `record` looks a pair up in it, and
`record_apply` says once what a call does to the table.  What the list holds after a run, and what
`SelectOptimalPair` then returns, is read off it.
-/

namespace Aristo

open GoBase List

namespace Regions

/-- The loop of `UpdateSpecificPairMetrics`, for a function that keeps the pair of a record. -/
def PairRecords.modify (pairID : Bytes) (updateFn : TEEPairMetrics → TEEPairMetrics)
    (keeps : ∀ metrics, (updateFn metrics).pairID = metrics.pairID) (pairs : PairRecords) :
    Option PairRecords :=
  (modifyFirst TEEPairMetrics.pairID pairID updateFn pairs.records).pmap PairRecords.mk
    fun records changed => by
      rw [modifyFirst_eq, Option.map_eq_some_iff] at changed
      obtain ⟨metrics, found, rfl⟩ := changed
      have named := ((firstNamed_eq_some_iff pairs.distinct).mp found).2
      exact nodup_upsert ((keeps metrics).trans named) pairs.distinct

def PairRecords.find (pairID : Bytes) (pairs : PairRecords) : Option TEEPairMetrics :=
  firstNamed TEEPairMetrics.pairID pairID pairs.records

namespace PairRecords

variable {pairs : PairRecords} {pairID : Bytes} {metrics : TEEPairMetrics}

/-- A pair is looked up by its ID. -/
theorem find_eq_some_iff :
    pairs.find pairID = some metrics ↔ metrics ∈ pairs.records ∧ metrics.pairID = pairID :=
  firstNamed_eq_some_iff pairs.distinct

variable {updateFn : TEEPairMetrics → TEEPairMetrics}

/-- A pair that is not there is not changed, -/
theorem modify_of_none (keeps : ∀ metrics, (updateFn metrics).pairID = metrics.pairID)
    (absent : pairs.find pairID = none) : pairs.modify pairID updateFn keeps = none := by
  rw [find] at absent
  rw [modify, Option.pmap_eq_none_iff, modifyFirst_eq, absent]
  rfl

/-- and one that is there is replaced. -/
theorem modify_of_some (keeps : ∀ metrics, (updateFn metrics).pairID = metrics.pairID)
    (found : pairs.find pairID = some metrics) :
    pairs.modify pairID updateFn keeps = some (pairs.set pairID (updateFn metrics)
      ((keeps metrics).trans (find_eq_some_iff.mp found).2)) := by
  rw [find] at found
  rw [modify, Option.pmap_eq_some_iff]
  have changed : modifyFirst TEEPairMetrics.pairID pairID updateFn pairs.records =
      some (upsert TEEPairMetrics.pairID pairID (updateFn metrics) pairs.records) := by
    rw [modifyFirst_eq, found, Option.map_some]
  exact ⟨_, _, changed, rfl⟩

end PairRecords

open PairRecords

namespace RegionBalancer

/-- `UpdateSpecificPairMetrics`, for a function that keeps the pair of a record. -/
def updateSpecificPairMetrics (regionID pairID : Bytes)
    (updateFn : TEEPairMetrics → TEEPairMetrics)
    (keeps : ∀ metrics, (updateFn metrics).pairID = metrics.pairID) :
    Call RegionBalancer Unit := fun rb =>
  match rb.pairMetrics.lookup regionID with
  | none => (.err (.plain (ascii "region " ++ regionID ++ ascii " not found")), rb)
  | some pairs =>
    match pairs.modify pairID updateFn keeps with
    | none =>
      (.err (.plain (ascii "pair " ++ pairID ++ ascii " not found in region " ++ regionID)), rb)
    | some pairs => (.ok (), { rb with pairMetrics := rb.pairMetrics.insert regionID pairs })

/-- A call that changes the records: an `UpdatePairMetrics` with a record of the pair it names, or
an `UpdateSpecificPairMetrics` with a function that keeps the pair. -/
inductive PairUpdate where
  | replace (regionID pairID : Bytes) (metrics : TEEPairMetrics) (named : metrics.pairID = pairID)
  | specific (regionID pairID : Bytes) (updateFn : TEEPairMetrics → TEEPairMetrics)
      (keeps : ∀ metrics, (updateFn metrics).pairID = metrics.pairID)

namespace PairUpdate

def target : PairUpdate → Bytes × Bytes
  | replace regionID pairID _ _ => (regionID, pairID)
  | specific regionID pairID _ _ => (regionID, pairID)

def apply (rb : RegionBalancer) : PairUpdate → RegionBalancer
  | replace regionID pairID metrics named => updatePairMetrics regionID pairID metrics named rb
  | specific regionID pairID updateFn keeps =>
    (updateSpecificPairMetrics regionID pairID updateFn keeps rb).2

/-- What a call makes of the record of its pair. -/
def result (before : Option TEEPairMetrics) : PairUpdate → Option TEEPairMetrics
  | replace _ _ metrics _ => some metrics
  | specific _ _ updateFn _ => before.map updateFn

/-- The call leaves a load below the greatest number, if it finds one. -/
def Bounded : PairUpdate → Prop
  | replace _ _ metrics _ => metrics.loadFactor < Float64.max
  | specific _ _ updateFn _ =>
    ∀ metrics, metrics.loadFactor < Float64.max → (updateFn metrics).loadFactor < Float64.max

end PairUpdate

open PairUpdate

def record (rb : RegionBalancer) (target : Bytes × Bytes) : Option TEEPairMetrics :=
  (rb.pairs target.1).find target.2

/-! ## One call -/

variable {regionID : Bytes}

/-- **What a specific update does**: nothing without a record of the pair, and otherwise an update
of it. -/
theorem updateSpecificPairMetrics_snd (regionID pairID : Bytes)
    (updateFn : TEEPairMetrics → TEEPairMetrics)
    (keeps : ∀ metrics, (updateFn metrics).pairID = metrics.pairID) (rb : RegionBalancer) :
    (rb.record (regionID, pairID) = none ∧
        (updateSpecificPairMetrics regionID pairID updateFn keeps rb).2 = rb) ∨
      ∃ metrics, ∃ found : rb.record (regionID, pairID) = some metrics,
        (updateSpecificPairMetrics regionID pairID updateFn keeps rb).2 =
          updatePairMetrics regionID pairID (updateFn metrics)
            ((keeps metrics).trans (find_eq_some_iff.mp found).2) rb := by
  unfold updateSpecificPairMetrics
  cases stored : rb.pairMetrics.lookup regionID with
  | none =>
    have empty : rb.record (regionID, pairID) = none := by
      rw [record, RegionBalancer.pairs, stored]
      rfl
    exact Or.inl ⟨empty, rfl⟩
  | some pairs =>
    have here : rb.pairs regionID = pairs := by rw [RegionBalancer.pairs, stored, Option.getD_some]
    have looked : rb.record (regionID, pairID) = pairs.find pairID := by rw [record, here]
    cases found : pairs.find pairID with
    | none =>
      refine Or.inl ⟨looked.trans found, ?_⟩
      simp only [modify_of_none keeps found]
    | some metrics =>
      refine Or.inr ⟨metrics, looked.trans found, ?_⟩
      simp only [modify_of_some keeps found, updatePairMetrics, here]

/-- Other regions keep their records. -/
theorem pairs_updatePairMetrics_of_ne {other : Bytes} (apart : other ≠ regionID) (pairID : Bytes)
    (metrics : TEEPairMetrics) (named : metrics.pairID = pairID) (rb : RegionBalancer) :
    (updatePairMetrics regionID pairID metrics named rb).pairs other = rb.pairs other := by
  rw [RegionBalancer.pairs, updatePairMetrics, Finmap.lookup_insert_of_ne _ apart,
    RegionBalancer.pairs]

/-- An update changes the record of its pair, and no other. -/
theorem record_updatePairMetrics (regionID pairID : Bytes) (metrics : TEEPairMetrics)
    (named : metrics.pairID = pairID) (rb : RegionBalancer) (target : Bytes × Bytes) :
    (updatePairMetrics regionID pairID metrics named rb).record target =
      if target = (regionID, pairID) then some metrics else rb.record target := by
  obtain ⟨region, pair⟩ := target
  by_cases here : region = regionID
  · subst here
    rw [record, pairs_updatePairMetrics]
    by_cases same : pair = pairID
    · subst same
      rw [if_pos rfl]
      exact firstNamed_upsert_self named (rb.pairs region).records
    · rw [if_neg fun equal => same (congrArg Prod.snd equal)]
      exact firstNamed_upsert_of_ne named same (rb.pairs region).records
  · rw [record, pairs_updatePairMetrics_of_ne here, record, if_neg]
    exact fun equal => here (congrArg Prod.fst equal)

section

variable (rb : RegionBalancer) (call : PairUpdate)

/-- **What a call does to the table**: its own entry becomes the result, every other one stays. -/
theorem record_apply (target : Bytes × Bytes) :
    (call.apply rb).record target =
      if target = call.target then call.result (rb.record target) else rb.record target := by
  cases call with
  | replace regionID pairID metrics named =>
    exact record_updatePairMetrics regionID pairID metrics named rb target
  | specific regionID pairID updateFn keeps =>
    rcases updateSpecificPairMetrics_snd regionID pairID updateFn keeps rb with
      ⟨absent, unchanged⟩ | ⟨metrics, found, changed⟩
    · rw [apply, unchanged]
      split
      · rename_i here
        rw [here, PairUpdate.target, absent]
        rfl
      · rfl
    · rw [PairUpdate.apply, changed, record_updatePairMetrics, PairUpdate.target]
      split
      · rename_i here
        rw [here, found]
        rfl
      · rfl

/-- No call touches them. -/
theorem pairs_apply_of_ne (other : regionID ≠ call.target.1) : (call.apply rb).pairs regionID =
    rb.pairs regionID := by
  cases call with
  | replace region pairID metrics named => exact pairs_updatePairMetrics_of_ne other _ _ named rb
  | specific region pairID updateFn keeps =>
    rcases updateSpecificPairMetrics_snd region pairID updateFn keeps rb with
      ⟨-, unchanged⟩ | ⟨metrics, found, changed⟩
    · rw [apply, unchanged]
    · rw [apply, changed]
      exact pairs_updatePairMetrics_of_ne other _ _ _ rb

end

/-- **Which pair is selected, by the table**: the one whose record is optimal in its place. -/
theorem selects_iff_record {now : Bytes → Time} {pairID : Bytes} {rb : RegionBalancer} :
    (∃ chosen, selectOptimalPair now regionID rb = .ok chosen ∧ chosen.id = pairID) ↔
      ∃ metrics, rb.record (regionID, pairID) = some metrics ∧
        rb.OptimalInPlace now regionID metrics := by
  have distinct := (rb.pairs regionID).distinct
  have place : ∀ {before metrics after},
      (rb.pairs regionID).records = before ++ metrics :: after →
        earlier TEEPairMetrics.pairID metrics.pairID (rb.pairs regionID).records = before ∧
          later TEEPairMetrics.pairID metrics.pairID (rb.pairs regionID).records = after := by
    intro before metrics after split
    rw [split] at distinct ⊢
    rw [map_append, map_cons] at distinct
    exact earlier_later_append
      (fun mem => disjoint_of_nodup_append distinct mem mem_cons_self) rfl
  constructor
  · rintro ⟨chosen, selects, rfl⟩
    obtain ⟨before, metrics, after, split, rfl, optimal⟩ := selectOptimalPair_eq_ok_iff.mp selects
    have mem : metrics ∈ (rb.pairs regionID).records := by simp [split]
    refine ⟨metrics, find_eq_some_iff.mpr ⟨mem, rfl⟩, ?_⟩
    rw [OptimalInPlace, (place split).1, (place split).2]
    exact optimal
  · rintro ⟨metrics, found, optimal⟩
    obtain ⟨mem, named⟩ := find_eq_some_iff.mp found
    obtain ⟨before, after, split⟩ := append_of_mem mem
    rw [OptimalInPlace, (place split).1, (place split).2] at optimal
    exact ⟨selected metrics,
      selectOptimalPair_eq_ok_iff.mpr ⟨before, metrics, after, split, rfl, optimal⟩, named⟩

/-! ## Runs -/

/-- A pair that no call names keeps its record. -/
theorem record_run_of_untouched (rb : RegionBalancer) {calls : List PairUpdate}
    {target : Bytes × Bytes} (untouched : ∀ call ∈ calls, call.target ≠ target) :
    (run apply rb calls).record target = rb.record target := by
  have step : ∀ (after : RegionBalancer) (call : PairUpdate), call.target ≠ target →
      after.record target = rb.record target →
        (call.apply after).record target = rb.record target := by
    intro after call other same
    rw [record_apply, if_neg (Ne.symm other), same]
  exact run_invariant step rfl untouched

/-- No run changes the thresholds. -/
theorem thresholds_run (rb : RegionBalancer) (calls : List PairUpdate) :
    (run apply rb calls).thresholds = rb.thresholds := by
  have step : ∀ (after : RegionBalancer) (call : PairUpdate),
      after.thresholds = rb.thresholds → (call.apply after).thresholds = rb.thresholds := by
    rintro after (_ | ⟨regionID, pairID, updateFn, keeps⟩) same
    · exact same
    · rcases updateSpecificPairMetrics_snd regionID pairID updateFn keeps after with
        ⟨-, unchanged⟩ | ⟨metrics, found, changed⟩
      · rwa [apply, unchanged]
      · rwa [apply, changed]
  exact run_preserves step rfl calls

/-- Every load on record is below the greatest number. -/
def BoundedLoads (rb : RegionBalancer) : Prop :=
  ∀ target metrics, rb.record target = some metrics → metrics.loadFactor < Float64.max

/-- Updates that leave loads below the greatest number keep them there. -/
theorem boundedLoads_run (config : BalancerConfig) {calls : List PairUpdate}
    (bounded : ∀ call ∈ calls, call.Bounded) :
    BoundedLoads (run apply (new config) calls) := by
  have step (rb : RegionBalancer) (call : PairUpdate) (bounded : call.Bounded)
      (loads : BoundedLoads rb) : BoundedLoads (call.apply rb) := by
    intro target metrics found
    rw [record_apply] at found
    split at found
    · cases call with
      | replace regionID pairID written =>
        obtain rfl : written = metrics := Option.some.inj found
        exact bounded
      | specific =>
        obtain ⟨old, stored, rfl⟩ := Option.map_eq_some_iff.mp found
        exact bounded old (loads target old stored)
    · exact loads target metrics found
  refine run_invariant step ?_ bounded
  intro target metrics found
  have mem := (find_eq_some_iff.mp found).1
  simp [RegionBalancer.pairs, new] at mem

/-! ## The selection on bounded loads -/

/-- Loads below the greatest number are numbers, and numbers are compared as such. -/
theorem le_of_not_lt_of_bounded {a b : Float64} (ha : a < Float64.max) (hb : b < Float64.max)
    (h : ¬ b < a) : a ≤ b := by
  obtain ⟨x, placeA, -, -, -⟩ := Float64.lt_iff.mp ha
  obtain ⟨y, placeB, -, -, -⟩ := Float64.lt_iff.mp hb
  refine Float64.le_iff.mpr ⟨x, placeA, y, placeB, ?_⟩
  by_contra less
  exact h (Float64.lt_iff.mpr ⟨y, placeB, x, placeA, not_le.mp less⟩)

/-- **The selection on bounded loads**: a selected pair has the least load among the healthy
records. -/
theorem selectOptimalPair_of_bounded {now : Bytes → Time} {rb : RegionBalancer}
    (bounded : ∀ metrics ∈ (rb.pairs regionID).records, metrics.loadFactor < Float64.max) :
    (∀ pair, selectOptimalPair now regionID rb = .ok pair →
      ∃ metrics ∈ (rb.pairs regionID).records, selected metrics = pair ∧
        Healthy rb.thresholds now metrics ∧
          ∀ other ∈ (rb.pairs regionID).records, Healthy rb.thresholds now other →
            metrics.loadFactor ≤ other.loadFactor) ∧
    ((∃ error, selectOptimalPair now regionID rb = .error error) ↔
      ∀ metrics ∈ (rb.pairs regionID).records, ¬ Healthy rb.thresholds now metrics) := by
  constructor
  · intro pair chosen
    obtain ⟨before, metrics, after, split, same, optimal⟩ :=
      selectOptimalPair_eq_ok_iff.mp chosen
    have mem : metrics ∈ (rb.pairs regionID).records := by
      rw [split]
      exact mem_append_right _ mem_cons_self
    refine ⟨metrics, mem, same, optimal.healthy, fun other other_mem healthy => ?_⟩
    refine le_of_not_lt_of_bounded (bounded metrics mem) (bounded other other_mem) fun less => ?_
    rw [split, mem_append, mem_cons] at other_mem
    rcases other_mem with earlier | rfl | later
    · exact optimal.lessThanBefore other earlier healthy (Or.inl less)
    · exact absurd less (Float64.lt_irrefl _)
    · exact optimal.notMoreThanAfter other later healthy less
  · constructor
    · rintro ⟨error, failed⟩ metrics mem healthy
      -- a healthy record with a bounded load is below the bound of the loop
      rcases foldl_consider_cases rb.thresholds now (rb.pairs regionID).records with
        ⟨none, -⟩ | ⟨before, best, after, split, optimal⟩
      · exact none metrics mem healthy (bounded metrics mem)
      · have chosen : selectOptimalPair now regionID rb = .ok (selected best) :=
          selectOptimalPair_eq_ok_iff.mpr ⟨before, best, after, split, rfl, optimal⟩
        rw [chosen] at failed
        cases failed
    · intro unhealthy
      cases result : selectOptimalPair now regionID rb with
      | error error => exact ⟨error, rfl⟩
      | ok =>
        obtain ⟨before, metrics, after, split, -, optimal⟩ :=
          selectOptimalPair_eq_ok_iff.mp result
        refine absurd optimal.healthy (unhealthy metrics ?_)
        rw [split]
        exact mem_append_right _ mem_cons_self

/-- **The balancer over whole runs** of updates that leave loads below the greatest number: a region
has at most one record for each pair, made by the last update for the pair, no call touches the
lists of other regions, and `SelectOptimalPair` returns a healthy record with the least load,
failing exactly when none is healthy. -/
theorem run_selects_least (config : BalancerConfig) (calls : List PairUpdate)
    (bounded : ∀ call ∈ calls, call.Bounded) :
    let rb := run apply (new config) calls
    (∀ regionID, ((rb.pairs regionID).records.map TEEPairMetrics.pairID).Nodup) ∧
    (∀ regionID metrics, metrics ∈ (rb.pairs regionID).records →
      ∃ before call after, calls = before ++ call :: after ∧
        call.target = (regionID, metrics.pairID) ∧
        (∀ later ∈ after, later.target ≠ call.target) ∧
        some metrics =
          call.result ((run apply (new config) before).record call.target)) ∧
    (∀ before call after, calls = before ++ call :: after →
      (∀ later ∈ after, later.target ≠ call.target) →
        rb.record call.target =
          call.result ((run apply (new config) before).record call.target)) ∧
    (∀ (call : PairUpdate) (regionID : Bytes), regionID ≠ call.target.1 →
      (call.apply rb).pairs regionID = rb.pairs regionID) ∧
    ∀ now regionID,
      (∀ pair, selectOptimalPair now regionID rb = .ok pair →
        ∃ metrics ∈ (rb.pairs regionID).records, selected metrics = pair ∧
          Healthy config now metrics ∧
            ∀ other ∈ (rb.pairs regionID).records, Healthy config now other →
              metrics.loadFactor ≤ other.loadFactor) ∧
      ((∃ error, selectOptimalPair now regionID rb = .error error) ↔
        ∀ metrics ∈ (rb.pairs regionID).records, ¬ Healthy config now metrics) := by
  intro rb
  have last_call : ∀ before call after, calls = before ++ call :: after →
      (∀ later ∈ after, later.target ≠ call.target) →
        rb.record call.target =
          call.result ((run apply (new config) before).record call.target) := by
    rintro before call after rfl last
    simp only [rb]
    rw [run_append, run_cons, record_run_of_untouched _ last, record_apply, if_pos rfl]
  refine ⟨fun regionID => (rb.pairs regionID).distinct, fun regionID metrics mem => ?_, last_call,
    fun call regionID other => pairs_apply_of_ne rb call other, fun now regionID => ?_⟩
  · have found : rb.record (regionID, metrics.pairID) = some metrics :=
      find_eq_some_iff.mpr ⟨mem, rfl⟩
    rcases none_or_last (fun call : PairUpdate => call.target = (regionID, metrics.pairID))
      calls with untouched | ⟨before, call, after, split, here, last⟩
    · rw [record_run_of_untouched _ untouched, record] at found
      have none := (find_eq_some_iff.mp found).1
      simp [RegionBalancer.pairs, new] at none
    · rw [← here] at found last
      exact ⟨before, call, after, split, here, last,
        found.symm.trans (last_call before call after split last)⟩
  · have thresholds : rb.thresholds = config := thresholds_run (new config) calls
    have loads : ∀ metrics ∈ (rb.pairs regionID).records, metrics.loadFactor < Float64.max :=
      fun metrics mem => boundedLoads_run config bounded (regionID, metrics.pairID) metrics
        (find_eq_some_iff.mpr ⟨mem, rfl⟩)
    rw [← thresholds]
    exact selectOptimalPair_of_bounded loads

def sampleRecord (pairID : Bytes) (load : ℚ) : TEEPairMetrics where
  pairID := pairID
  sgxEndpoint := []
  sevEndpoint := []
  lastHealthCheck := Time.unixUTC 0
  lastHealthy := Time.unixUTC 0
  successRate := .finite 1
  loadFactor := .finite load

/-- Two pairs are recorded, and a specific update then takes the load off the second one. -/
def sampleUpdates : List PairUpdate :=
  [.replace (ascii "r") (ascii "p") (sampleRecord (ascii "p") (1 / 2)) rfl,
    .replace (ascii "r") (ascii "q") (sampleRecord (ascii "q") (3 / 4)) rfl,
    .specific (ascii "r") (ascii "q") (fun metrics => { metrics with loadFactor := .finite 0 })
      fun _ => rfl]

/-- After the sample the second pair is selected, and no healthy record has a smaller load. -/
theorem run_selects_least_sample :
    let rb := run apply (new .default) sampleUpdates
    let now : Bytes → Time := fun _ => Time.unixUTC 60
    (∀ call ∈ sampleUpdates, call.Bounded) ∧
      selectOptimalPair now (ascii "r") rb = .ok (selected (sampleRecord (ascii "q") 0)) ∧
        ∃ metrics ∈ (rb.pairs (ascii "r")).records, metrics.pairID = ascii "q" ∧
          ∀ other ∈ (rb.pairs (ascii "r")).records, Healthy .default now other →
            metrics.loadFactor ≤ other.loadFactor := by
  intro rb now
  have bounded : ∀ call ∈ sampleUpdates, call.Bounded := by
    have loads : Float64.finite (1 / 2) < Float64.max ∧ Float64.finite (3 / 4) < Float64.max ∧
        Float64.finite 0 < Float64.max := by
      decide +kernel
    simp only [sampleUpdates, forall_mem_cons]
    exact ⟨loads.1, loads.2.1, fun _ _ => loads.2.2, fun _ none => absurd none not_mem_nil⟩
  have chosen : selectOptimalPair now (ascii "r") rb =
      .ok (selected (sampleRecord (ascii "q") 0)) := by
    decide +kernel
  obtain ⟨-, -, -, -, selection⟩ := run_selects_least .default sampleUpdates bounded
  obtain ⟨metrics, mem, same, -, least⟩ := (selection now (ascii "r")).1 _ chosen
  exact ⟨bounded, chosen, metrics, mem, congrArg TEEPair.id same, least⟩

end RegionBalancer

end Regions

end Aristo
