import Aristo.Base.Chan
import Aristo.Regions.Config

/-!
# The region manager

`RegionManager` of `regions/manager.go` and `regions/config.go`: the calls that store and delete
configurations, and the readers.  `UpdateConfig` and `RegisterTEEPair` fill `configs`, which
`GetConfig` and `ListRegions` read; the others go by `cache`, which only `GetRegionConfig` fills,
and it waits for a lock that it holds itself then.  `DeleteRegion` removes from neither.

Only `AddTEEPair` changes a configuration in place, and only one in the cache, so configurations
are values here; `none` is the nil pointer.
-/

namespace Aristo

open GoBase List

namespace Regions

/-! ## The storage -/

/-- A `Storage` that is a map, as the log of its writes; `handed` has every configuration that
`SetRegionConfig` was called with. -/
structure Storage where
  log : List (Write Bytes RegionConfig)
  handed : List RegionConfig
  teeStates : KeyValue (Bytes × Bytes) TEEPairState
  metrics : KeyValue (Bytes × Bytes) TEEPairMetrics

namespace Storage

def setRegionConfig (fault : Option GoError) (regionID : Bytes) (config : RegionConfig) :
    Call Storage Unit := fun s =>
  let s := { s with handed := s.handed ++ [config] }
  match fault with
  | some error => (.err error, s)
  | none => (.ok (), { s with log := s.log ++ [(regionID, some config)] })

def deleteRegionConfig (fault : Option GoError) (regionID : Bytes) : Call Storage Unit := fun s =>
  match fault with
  | some error => (.err error, s)
  | none => (.ok (), { s with log := s.log ++ [(regionID, none)] })

/-- `GetRegionConfig`: what is returned for a region without a configuration is up to the storage,
an error or nil. -/
def getRegionConfig (missing : Option GoError) (regionID : Bytes) (s : Storage) :
    Except GoError (Option RegionConfig) :=
  match lastWrite s.log regionID, missing with
  | some (some config), _ => .ok (some config)
  | _, some error => .error error
  | _, none => .ok none

def saveTEEState (fault : Option GoError) (regionID pairID : Bytes) (state : TEEPairState) :
    Call Storage Unit := fun s =>
  match fault with
  | some error => (.err error, s)
  | none => (.ok (), { s with teeStates := s.teeStates.insert (regionID, pairID) state })

def saveMetrics (fault : Option GoError) (regionID pairID : Bytes) (metrics : TEEPairMetrics) :
    Call Storage Unit := fun s =>
  match fault with
  | some error => (.err error, s)
  | none => (.ok (), { s with metrics := s.metrics.insert (regionID, pairID) metrics })

end Storage

/-! ## The manager -/

structure RegionManager where
  configs : GoMap Bytes (Option RegionConfig)
  cache : GoMap Bytes (Option RegionConfig)
  states : GoMap Bytes (GoMap Bytes TEEPairState)
  metrics : GoMap Bytes (GoMap Bytes TEEPairMetrics)
  store : Storage

namespace RegionManager

def new (store : Storage) : RegionManager where
  configs := ∅
  cache := ∅
  states := ∅
  metrics := ∅
  store := store

def inStore {α : Type} : Call Storage α → Call RegionManager α :=
  Call.focus RegionManager.store fun m store => { m with store }

/-- `UpdateConfig`; `Validate` panics on a nil pointer. -/
def updateConfig (fault : Option GoError) (regionID : Bytes) :
    Option RegionConfig → Call RegionManager Unit
  | none => Call.crash
  | some config => do
    Call.lift config.validate
    Call.lift (refuse (config.id ≠ regionID) (errInvalidConfig.annotate (ascii "ID mismatch")))
    Call.wrapping (ascii "failed to store config")
      (inStore (Storage.setRegionConfig fault regionID config))
    Call.modify fun m => { m with configs := m.configs.insert regionID (some config) }

/-- The errors of the three calls of the storage that `RegisterTEEPair` makes. -/
structure RegisterFaults where
  config : Option GoError
  state : Option GoError
  metrics : Option GoError

def initialState (now : Time) : TEEPairState where
  status := ascii "active"
  lastHealthy := now
  activeTasks := 0
  errorCount := 0
  loadFactor := .finite 0
  successRate := .finite 1
  averageLatency := 0

def initialMetrics (now : Time) : TEEPairMetrics where
  pairID := []
  sgxEndpoint := []
  sevEndpoint := []
  lastHealthCheck := Time.zero
  lastHealthy := now
  successRate := .finite 1
  loadFactor := .finite 0

/-- The maps of a region are made together, when there is no map of its states. -/
def initRegion (regionID : Bytes) (m : RegionManager) : RegionManager :=
  match m.states.lookup regionID with
  | some _ => m
  | none => { m with
      states := m.states.insert regionID ∅
      metrics := m.metrics.insert regionID ∅ }

/-- The part of `RegisterTEEPair` that reads the configuration, with the metrics of the region.
Writing to a nil map panics. -/
def registerConfig (faults : RegisterFaults) (state : TEEPairState) (metrics : TEEPairMetrics)
    (regionID : Bytes) (config : RegionConfig) :
    Option (GoMap Bytes TEEPairMetrics) → Call RegionManager Unit
  | none => Call.crash
  | some pairs => do
    Call.modify fun m => { m with
      metrics := m.metrics.insert regionID (pairs.insert config.id metrics) }
    Call.wrapping (ascii "failed to save config")
      (inStore (Storage.setRegionConfig faults.config regionID config))
    Call.wrapping (ascii "failed to save state")
      (inStore (Storage.saveTEEState faults.state regionID config.id state))
    Call.wrapping (ascii "failed to save metrics")
      (inStore (Storage.saveMetrics faults.metrics regionID config.id metrics))

/-- `RegisterTEEPair`.  The pointer is read when it has been stored already. -/
def registerTEEPair (faults : RegisterFaults) (clock : Time × Time) (regionID : Bytes)
    (config : Option RegionConfig) : Call RegionManager Unit := do
  let state := initialState clock.1
  let metrics := initialMetrics clock.2
  Call.modify (initRegion regionID)
  Call.modify fun m => { m with configs := m.configs.insert regionID config }
  match config with
  | none => Call.crash
  | some config => do
    Call.modify fun m => { m with
      states := m.states.insert regionID ((m.states.get regionID).insert config.id state) }
    let m ← Call.read
    registerConfig faults state metrics regionID config (m.metrics.lookup regionID)

/-- The part of `AddTEEPair` behind the look into the cache. -/
def addToConfig (fault : Option GoError) (regionID : Bytes) :
    Option (Option RegionConfig) → Option TEEPair → Call RegionManager Unit
  | none, _ => Call.fail (.plain (ascii "region " ++ regionID ++ ascii " not found"))
  | some (some config), some pair => do
    let config := { config with teePairs := config.teePairs ++ [pair] }
    Call.modify fun m => { m with cache := m.cache.insert regionID (some config) }
    inStore (Storage.setRegionConfig fault regionID config)
  | some _, _ => Call.crash

def addTEEPair (fault : Option GoError) (regionID : Bytes) (pair : Option TEEPair) :
    Call RegionManager Unit := do
  let m ← Call.read
  addToConfig fault regionID (m.cache.lookup regionID) pair

def deleteRegion (fault : Option GoError) (regionID : Bytes) : Call RegionManager Unit :=
  Call.wrapping (ascii "failed to delete region config")
    (inStore (Storage.deleteRegionConfig fault regionID))

def invalidateCache (regionID : Bytes) : Call RegionManager Unit :=
  Call.modify fun m => { m with cache := m.cache.erase regionID }

/-! ### Readers -/

def getConfig (missing : Option GoError) (regionID : Bytes) :
    Call RegionManager (Option RegionConfig) := do
  let m ← Call.read
  match m.configs.lookup regionID with
  | some config => return config
  | none =>
    match ← Call.wrapping (ascii "failed to load config")
        (Call.lift (m.store.getRegionConfig missing regionID)) with
    | none => Call.fail errConfigNotFound
    | some config => do
      Call.modify fun m => { m with configs := m.configs.insert regionID (some config) }
      return some config

def getTEEPairs (regionID : Bytes) : Call RegionManager (List TEEPair) := do
  let m ← Call.read
  match m.cache.lookup regionID with
  | none => Call.fail (.plain (ascii "region " ++ regionID ++ ascii " not found"))
  | some none => Call.crash
  | some (some config) => return config.teePairs

/-- `GetRegionConfig`; `none` when it never returns. -/
def getRegionConfig (missing : Option GoError) (regionID : Bytes) (m : RegionManager) :
    Option (Except GoError (Option RegionConfig) × RegionManager) := do
  let cacheLock ← RWMutex.free.rLock
  match m.cache.lookup regionID with
  | some config => return (.ok config, m)
  | none => do
    -- the read lock is released at the return only
    let _cacheLock ← cacheLock.lock
    match m.cache.lookup regionID with
    | some config => return (.ok config, m)
    | none =>
      match m.store.getRegionConfig missing regionID with
      | .error error => return (.error (error.wrap (ascii "failed to get region config")), m)
      | .ok config => return (.ok config, { m with cache := m.cache.insert regionID config })

/-- `ListRegions` can return the regions in this order. -/
def ListsRegions (m : RegionManager) (regions : List Bytes) : Prop :=
  m.configs.Visits regions

/-! ## Runs -/

/-- A call that stores, deletes or forgets a configuration. -/
inductive ConfigCall where
  | updateConfig (fault : Option GoError) (regionID : Bytes) (config : Option RegionConfig)
  | registerTEEPair (faults : RegisterFaults) (clock : Time × Time) (regionID : Bytes)
      (config : Option RegionConfig)
  | addTEEPair (fault : Option GoError) (regionID : Bytes) (pair : Option TEEPair)
  | deleteRegion (fault : Option GoError) (regionID : Bytes)
  | invalidateCache (regionID : Bytes)

namespace ConfigCall

def call : ConfigCall → Call RegionManager Unit
  | updateConfig fault regionID config => RegionManager.updateConfig fault regionID config
  | registerTEEPair faults clock regionID config =>
    RegionManager.registerTEEPair faults clock regionID config
  | addTEEPair fault regionID pair => RegionManager.addTEEPair fault regionID pair
  | deleteRegion fault regionID => RegionManager.deleteRegion fault regionID
  | invalidateCache regionID => RegionManager.invalidateCache regionID

/-- The call stores or deletes the configuration of the region. -/
def Writes (regionID : Bytes) : ConfigCall → Prop
  | updateConfig _ other _ => other = regionID
  | registerTEEPair _ _ other _ => other = regionID
  | addTEEPair _ other _ => other = regionID
  | deleteRegion _ other => other = regionID
  | invalidateCache _ => False

def step (m : RegionManager) (c : ConfigCall) : RegionManager :=
  (c.call m).2

/-- The call returns no error. -/
def Returns (m : RegionManager) (c : ConfigCall) : Prop :=
  (c.call m).1 = .ok ()

end ConfigCall

open ConfigCall

/-! ### What a call does -/

/-- The configurations that a call gives to the storage. -/
def ConfigCall.handed (m : RegionManager) : ConfigCall → List RegionConfig
  | updateConfig _ regionID (some config) =>
    if config.validate = .ok () ∧ config.id = regionID then [config] else []
  | registerTEEPair _ _ regionID (some config) =>
    if (m.states.lookup regionID).isSome ∧ (m.metrics.lookup regionID).isNone then []
    else [config]
  | addTEEPair _ regionID (some pair) =>
    match m.cache.lookup regionID with
    | some (some config) => [{ config with teePairs := config.teePairs ++ [pair] }]
    | _ => []
  | _ => []

/-- The effect of a call on the log, on the cache while it is empty, and on the regions never
written. -/
structure ConfigCall.Effect (c : ConfigCall) (m : RegionManager) (outcome : Outcome Unit)
    (after : RegionManager) : Prop where
  handed : after.store.handed = m.store.handed ++ c.handed m
  cache : m.cache = ∅ → after.cache = ∅
  log : m.cache = ∅ → outcome = .ok () → ∀ regionID,
    lastWrite after.store.log regionID = none ↔
      lastWrite m.store.log regionID = none ∧ ¬ c.Writes regionID

variable {regionID : Bytes}

/-- A write makes its region one that was written. -/
theorem lastWrite_concat_eq_none {log : List (Write Bytes RegionConfig)} {other : Bytes}
    {contents : Option RegionConfig} :
    lastWrite (log ++ [(other, contents)]) regionID = none ↔
      lastWrite log regionID = none ∧ ¬ other = regionID := by
  rw [lastWrite_append_singleton]
  by_cases same : other = regionID <;> simp [same]

variable {m : RegionManager}

/-- A call that fails before it writes has no effect. -/
theorem effect_of_failed {c : ConfigCall} {after : RegionManager} {outcome : Outcome Unit}
    (nothing : c.handed m = []) (store : after.store = m.store) (cache : after.cache = m.cache)
    (failed : ¬ outcome.Succeeded) : c.Effect m outcome after := by
  refine ⟨?_, fun empty => cache.trans empty, fun _ returned => ?_⟩
  · rw [nothing, append_nil, store]
  · exact absurd (returned ▸ trivial) failed

/-- `UpdateConfig` stores what it has validated. -/
theorem effect_updateConfig (fault : Option GoError) (regionID : Bytes)
    (config : Option RegionConfig) (m : RegionManager) :
    Call.Ends (updateConfig fault regionID config) m
      (Effect (.updateConfig fault regionID config) m) := by
  cases config with
  | none => exact effect_of_failed rfl rfl rfl Outcome.not_succeeded_panicked
  | some config =>
    refine Call.ends_lift_bind (fun _ valid => Call.ends_lift_bind (fun _ named => ?_) ?_) ?_
    · have same : config.id = regionID := not_not.mp (refuse_eq_ok.mp named)
      have given : handed m (.updateConfig fault regionID (some config)) = [config] :=
        if_pos ⟨valid, same⟩
      cases fault with
      | some => exact ⟨by rw [given]; rfl, id, fun _ failed => by cases failed⟩
      | none => exact ⟨by rw [given]; rfl, id, fun _ _ _ => lastWrite_concat_eq_none⟩
    · intro error named
      refine effect_of_failed (if_neg fun both => ?_) rfl rfl (Outcome.not_succeeded_err error)
      rw [refuse_eq_ok.mpr (not_not.mpr both.2)] at named
      cases named
    · intro error invalid
      refine effect_of_failed (if_neg fun both => ?_) rfl rfl (Outcome.not_succeeded_err error)
      rw [invalid] at both
      cases both.1

/-- Behind the checks the configuration is stored, -/
theorem effect_registerConfig {faults : RegisterFaults} {clock : Time × Time}
    {config : RegionConfig} {before : RegionManager} {pairs : GoMap Bytes TEEPairMetrics}
    (store : before.store = m.store) (cache : before.cache = m.cache)
    (given : handed m (.registerTEEPair faults clock regionID (some config)) =
      [config]) :
    Call.Ends (registerConfig faults (initialState clock.1) (initialMetrics clock.2) regionID config
        (some pairs)) before
      (Effect (.registerTEEPair faults clock regionID (some config)) m) := by
  have written {after : RegionManager} {outcome : Outcome Unit}
      (handed : after.store.handed = before.store.handed ++ [config])
      (same : after.cache = before.cache)
      (log : outcome = .ok () → after.store.log = before.store.log ++ [(regionID, some config)]) :
      Effect (.registerTEEPair faults clock regionID (some config)) m outcome after := by
    refine ⟨?_, fun empty => same.trans (cache.trans empty), fun _ returned other => ?_⟩
    · rw [handed, given, store]
    · rw [log returned, store]
      exact lastWrite_concat_eq_none
  obtain ⟨faultConfig, faultState, faultMetrics⟩ := faults
  cases faultConfig with
  | some => exact written rfl rfl fun failed => by cases failed
  | none =>
    cases faultState with
    | some => exact written rfl rfl fun failed => by cases failed
    | none =>
      cases faultMetrics with
      | some => exact written rfl rfl fun failed => by cases failed
      | none => exact written rfl rfl fun _ => rfl

/-- and `RegisterTEEPair` has none, but panics without a map of the metrics. -/
theorem effect_registerTEEPair (faults : RegisterFaults) (clock : Time × Time) (regionID : Bytes)
    (config : Option RegionConfig) (m : RegionManager) :
    Call.Ends (registerTEEPair faults clock regionID config) m
      (Effect (.registerTEEPair faults clock regionID config) m) := by
  have kept : (initRegion regionID m).store = m.store ∧
      (initRegion regionID m).cache = m.cache := by
    unfold initRegion
    split <;> exact ⟨rfl, rfl⟩
  cases config with
  | none => exact effect_of_failed rfl kept.1 kept.2 Outcome.not_succeeded_panicked
  | some config =>
    change Call.Ends (registerConfig faults _ _ regionID config
      ((initRegion regionID m).metrics.lookup regionID)) _ _
    cases states : m.states.lookup regionID with
    | none =>
      -- both maps of the region are made now
      have made : (initRegion regionID m).metrics.lookup regionID = some ∅ := by
        rw [initRegion, states]
        exact Finmap.lookup_insert _
      rw [made]
      refine effect_registerConfig kept.1 kept.2 (if_neg fun both => ?_)
      rw [states] at both
      cases both.1
    | some =>
      -- nothing is made, also when the map of the metrics is missing
      have same : (initRegion regionID m).metrics = m.metrics := by
        rw [initRegion, states]
      rw [same]
      cases metrics : m.metrics.lookup regionID with
      | none =>
        refine effect_of_failed (if_pos ⟨?_, ?_⟩) kept.1 kept.2
          Outcome.not_succeeded_panicked
        · rw [states]
          rfl
        · rw [metrics]
          rfl
      | some =>
        refine effect_registerConfig kept.1 kept.2 (if_neg fun both => ?_)
        rw [metrics] at both
        cases both.2

/-- `AddTEEPair` stores when the cache has the region. -/
theorem effect_addTEEPair (fault : Option GoError) (regionID : Bytes) (pair : Option TEEPair)
    (m : RegionManager) :
    Call.Ends (addTEEPair fault regionID pair) m
      (Effect (.addTEEPair fault regionID pair) m) := by
  change Call.Ends (addToConfig fault regionID (m.cache.lookup regionID) pair) m _
  rcases entry : m.cache.lookup regionID with _ | _ | config
  · refine effect_of_failed ?_ rfl rfl (Outcome.not_succeeded_err _)
    cases pair <;> simp [handed, entry]
  · cases pair <;>
      exact effect_of_failed (by simp [handed, entry]) rfl rfl
        Outcome.not_succeeded_panicked
  · cases pair with
    | none => exact effect_of_failed rfl rfl rfl Outcome.not_succeeded_panicked
    | some =>
      -- only here is something written, and the cache is not empty
      have filled : m.cache ≠ ∅ := by
        intro empty
        rw [empty] at entry
        cases entry
      refine ⟨?_, fun empty => absurd empty filled, fun empty => absurd empty filled⟩
      rw [handed, entry]
      cases fault <;> rfl

/-- **What a call does.** -/
theorem effect_call (c : ConfigCall) (m : RegionManager) : Call.Ends c.call m (c.Effect m) := by
  cases c with
  | updateConfig fault regionID config => exact effect_updateConfig fault regionID config m
  | registerTEEPair faults clock regionID config =>
    exact effect_registerTEEPair faults clock regionID config m
  | addTEEPair fault regionID pair => exact effect_addTEEPair fault regionID pair m
  | deleteRegion fault =>
    cases fault with
    | some => exact effect_of_failed rfl rfl rfl (Outcome.not_succeeded_err _)
    | none => exact ⟨(append_nil _).symm, id, fun _ _ _ => lastWrite_concat_eq_none⟩
  | invalidateCache regionID =>
    refine ⟨(append_nil _).symm, fun empty => ?_, fun _ _ _ => (and_iff_left id).symm⟩
    change m.cache.erase regionID = ∅
    rw [empty]
    rfl

/-! ### Readers that agree -/

/-- All readers reflect the configuration. -/
structure Reflects (missing : Option GoError) (m : RegionManager) (regionID : Bytes)
    (config : RegionConfig) : Prop where
  getConfig : ∃ found after, getConfig missing regionID m = (.ok (some found), after) ∧
    found.teePairs = config.teePairs
  getRegionConfig : ∃ found after,
    m.getRegionConfig missing regionID = some (.ok (some found), after) ∧
      found.teePairs = config.teePairs
  getTEEPairs : (getTEEPairs regionID m).1 = .ok config.teePairs
  listed : ∀ regions, m.ListsRegions regions → regionID ∈ regions

/-- All readers report the region as absent. -/
structure ReportsAbsent (missing : Option GoError) (m : RegionManager) (regionID : Bytes) :
    Prop where
  getConfig : (getConfig missing regionID m).1.Failed
  getRegionConfig : ∃ result after, m.getRegionConfig missing regionID = some (result, after) ∧
    ∀ config, result ≠ .ok (some config)
  getTEEPairs : (getTEEPairs regionID m).1.Failed
  notListed : ∀ regions, m.ListsRegions regions → regionID ∉ regions

/-- The readers reflect the last configuration that was stored for the region, or report it as
absent when it was deleted since. -/
def ReadersAgree (missing : Option GoError) (m : RegionManager) (regionID : Bytes) : Prop :=
  match lastWrite m.store.log regionID with
  | some (some config) => Reflects missing m regionID config
  | some none => ReportsAbsent missing m regionID
  | none => True

/-- Without an entry in the cache the call waits for itself. -/
theorem getRegionConfig_of_uncached (missing : Option GoError)
    (uncached : m.cache.lookup regionID = none) :
    m.getRegionConfig missing regionID = none := by
  unfold getRegionConfig
  cases reads : RWMutex.free.rLock with
  | none => rfl
  | some =>
    rw [uncached]
    simp [RWMutex.lock_of_rLock reads]

/-- So the readers cannot agree on a region that was written. -/
theorem readersAgree_of_emptyCache (missing : Option GoError) (empty : m.cache = ∅)
    (regionID : Bytes) :
    ReadersAgree missing m regionID ↔ lastWrite m.store.log regionID = none := by
  have waits : ∀ answer, m.getRegionConfig missing regionID ≠ some answer := by
    intro answer
    rw [getRegionConfig_of_uncached missing (by rw [empty]; rfl)]
    exact (Option.some_ne_none answer).symm
  unfold ReadersAgree
  cases written : lastWrite m.store.log regionID with
  | none => simp
  | some contents =>
    refine iff_of_false (fun agree => ?_) (Option.some_ne_none contents)
    cases contents <;>
    · obtain ⟨_, _, returned, _⟩ := agree.getRegionConfig
      exact waits _ returned

/-- A run without errors keeps the cache empty, and leaves a region unwritten exactly when no call
writes it. -/
theorem run_unwritten_iff (empty : m.cache = ∅) {calls : List ConfigCall}
    (returns : Along step Returns m calls) (regionID : Bytes) :
    (run step m calls).cache = ∅ ∧
      (lastWrite (run step m calls).store.log regionID = none ↔
        lastWrite m.store.log regionID = none ∧ ∀ c ∈ calls, ¬ c.Writes regionID) := by
  induction calls generalizing m with
  | nil => simp [empty]
  | cons c calls ih =>
    obtain ⟨first, rest⟩ := along_cons_iff.mp returns
    have effect := effect_call c m
    obtain ⟨cache, log⟩ := ih (effect.cache empty) rest
    refine ⟨cache, log.trans ?_⟩
    rw [forall_mem_cons, ← and_assoc]
    exact and_congr_left' (effect.log empty first regionID)

/-- **When all readers agree** on a region, in every run without errors of a new manager: exactly
when no configuration was ever stored or deleted for it. -/
theorem readersAgree_iff (store : Storage) (calls : List ConfigCall)
    (returns : Along step Returns (new store) calls)
    (missing : Option GoError) (regionID : Bytes) :
    ReadersAgree missing (run step (new store) calls) regionID ↔
      lastWrite store.log regionID = none ∧ ∀ c ∈ calls, ¬ c.Writes regionID := by
  obtain ⟨empty, unwritten⟩ := run_unwritten_iff (m := new store) rfl returns regionID
  rw [readersAgree_of_emptyCache missing empty, unwritten]
  rfl

def emptyStorage : Storage where
  log := []
  handed := []
  teeStates _ := none
  metrics _ := none

/-- The readers agree on the other regions. -/
theorem readersAgree_other_region :
    ReadersAgree none (run step (new emptyStorage)
      [.updateConfig none [7] (some (.sample [7]))]) [8] :=
  (readersAgree_iff emptyStorage _ (along_cons (by unfold Returns; decide +kernel)
    (along_nil _ _ _)) none [8]).mpr ⟨rfl, by simp [ConfigCall.Writes]⟩

/-- A configuration that was stored is found by `GetConfig`, but not by `GetTEEPairs`, and
`GetRegionConfig` does not return; after it was deleted `GetConfig` still finds it. -/
theorem readers_differ :
    let stored := run step (new emptyStorage)
      [.updateConfig none [7] (some (.sample [7]))]
    let deleted := run step (new emptyStorage)
      [.updateConfig none [7] (some (.sample [7])), .deleteRegion none [7]]
    (getConfig none [7] stored).1 = .ok (some (.sample [7])) ∧
      (getTEEPairs [7] stored).1 =
        .err (.plain (ascii "region " ++ [7] ++ ascii " not found")) ∧
      stored.getRegionConfig none [7] = none ∧
      (getConfig none [7] deleted).1 = .ok (some (.sample [7])) := by
  refine ⟨by decide +kernel, by decide +kernel, ?_, by decide +kernel⟩
  exact getRegionConfig_of_uncached none (by decide +kernel)

/-! ### Configurations that are persisted -/

/-- The configuration is valid; in particular its pairs have IDs, and no two have the same. -/
def Persistable (config : RegionConfig) : Prop :=
  config.validate = .ok () ∧ PairsValid config.teePairs

/-- Validation looks at the pairs as well. -/
theorem persistable_iff (config : RegionConfig) : Persistable config ↔ config.validate = .ok () :=
  and_iff_left_of_imp fun valid => ((RegionConfig.validate_eq_ok_iff config).mp valid).2.2

/-- What has to hold of a call that does not validate what it stores: a configuration that is
registered is valid, and a pair is new to a configuration that is valid apart from having a pair at
all. -/
def ConfigCall.Careful (m : RegionManager) : ConfigCall → Prop
  | registerTEEPair _ _ regionID (some config) =>
    ((m.states.lookup regionID).isSome ∧ (m.metrics.lookup regionID).isNone) ∨
      config.validate = .ok ()
  | addTEEPair _ regionID (some pair) =>
    ∀ config, m.cache.lookup regionID = some (some config) →
      config.SettingsValid ∧ PairsValid config.teePairs ∧ pair.Identified ∧
        ∀ other ∈ config.teePairs, other.ids ≠ pair.ids
  | _ => True

/-- A pair that is added must be new. -/
theorem validate_concat_iff (config : RegionConfig) (pair : TEEPair) :
    ({ config with teePairs := config.teePairs ++ [pair] } : RegionConfig).validate = .ok () ↔
      config.SettingsValid ∧ PairsValid config.teePairs ∧ pair.Identified ∧
        ∀ other ∈ config.teePairs, other.ids ≠ pair.ids := by
  rw [RegionConfig.validate_eq_ok_iff]
  have settings : ({ config with teePairs := config.teePairs ++ [pair] } :
      RegionConfig).SettingsValid ↔ config.SettingsValid :=
    ⟨fun ⟨id, limits, balancer, location⟩ => ⟨id, limits, balancer, location⟩,
      fun ⟨id, limits, balancer, location⟩ => ⟨id, limits, balancer, location⟩⟩
  rw [settings, pairsValid_concat]
  simp

/-- What one call gives to the storage is valid exactly when the call is careful. -/
theorem forall_mem_handed_iff (c : ConfigCall) (m : RegionManager) :
    (∀ config ∈ c.handed m, Persistable config) ↔ c.Careful m := by
  simp only [persistable_iff]
  cases c with
  | updateConfig fault regionID config =>
    cases config with
    | none => simp [handed, Careful]
    | some =>
      refine iff_of_true (fun given mem => ?_) trivial
      rw [handed] at mem
      split at mem
      · rename_i accepted
        rw [mem_singleton.mp mem]
        exact accepted.1
      · cases mem
  | registerTEEPair faults clock regionID config =>
    cases config with
    | none => simp [handed, Careful]
    | some =>
      rw [handed, Careful]
      split
      · rename_i panics
        simp [panics]
      · rename_i returns
        simp only [forall_mem_singleton, returns, false_or]
  | addTEEPair fault regionID pair =>
    cases pair with
    | none => simp [handed, Careful]
    | some =>
      rw [handed, Careful]
      split
      · rename_i config cached
        rw [forall_mem_singleton, validate_concat_iff]
        constructor
        · intro valid found same
          rw [cached] at same
          obtain rfl : config = found := Option.some.inj (Option.some.inj same)
          exact valid
        · exact fun valid => valid config cached
      · rename_i uncached
        refine iff_of_true (fun _ mem => by cases mem) fun config cached => ?_
        exact absurd cached (uncached config)
  | deleteRegion | invalidateCache => simp [handed, Careful]

/-- The manager at the start of a run, with nothing given to the storage yet. -/
def watched (m : RegionManager) : RegionManager :=
  { m with store := { m.store with handed := [] } }

/-- **When only valid configurations are persisted**, in every run of any manager: exactly when
every call is careful. -/
theorem forall_handed_persistable_iff (m : RegionManager) (calls : List ConfigCall) :
    (∀ config ∈ (run step m.watched calls).store.handed, Persistable config) ↔
      Along step (fun m c => c.Careful m) m.watched calls := by
  have logged := forall_mem_log_iff (fun m : RegionManager => m.store.handed) handed
    (fun m c => (effect_call c m).handed) Persistable m.watched calls
  simp only [forall_mem_handed_iff] at logged
  exact logged.trans (and_iff_right fun config mem => by cases mem)

/-- A configuration without any pair is registered. -/
theorem not_persistable_registered :
    let config : RegionConfig := { RegionConfig.sample [7] with teePairs := [] }
    let after := run step (new emptyStorage).watched
      [.registerTEEPair ⟨none, none, none⟩ (Time.unixUTC 1, Time.unixUTC 1) [7] (some config)]
    config ∈ after.store.handed ∧ lastWrite after.store.log [7] = some (some config) ∧
      ¬ Persistable config := by
  refine ⟨by decide +kernel, by decide +kernel, fun persistable => ?_⟩
  exact absurd persistable.1 (by decide +kernel)

end RegionManager

end Regions

end Aristo
