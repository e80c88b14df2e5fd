import Aristo.Regions.Manager

/-!
# What a failed registration leaves in memory

`AddTEEPair` and `RegisterTEEPair` change the maps of the manager and then write to the storage.
When a write fails they return its error and take nothing back, so memory is as before the call
only where the call had nothing to change (`atomic_iff`).
-/

namespace Aristo

open GoBase

namespace Regions

namespace RegionManager

structure Memory where
  configs : GoMap Bytes (Option RegionConfig)
  cache : GoMap Bytes (Option RegionConfig)
  states : GoMap Bytes (GoMap Bytes TEEPairState)
  metrics : GoMap Bytes (GoMap Bytes TEEPairMetrics)

def memory (m : RegionManager) : Memory :=
  ⟨m.configs, m.cache, m.states, m.metrics⟩

/-- A call that adds a pair. -/
inductive PairCall where
  | addTEEPair (fault : Option GoError) (regionID : Bytes) (pair : Option TEEPair)
  | registerTEEPair (faults : RegisterFaults) (clock : Time × Time) (regionID : Bytes)
      (config : Option RegionConfig)

def PairCall.call : PairCall → Call RegionManager Unit
  | addTEEPair fault regionID pair => RegionManager.addTEEPair fault regionID pair
  | registerTEEPair faults clock regionID config =>
    RegionManager.registerTEEPair faults clock regionID config

/-- A call that returns an error leaves memory as it was. -/
def PairCall.Atomic (c : PairCall) (m : RegionManager) : Prop :=
  (c.call m).1.Failed → (c.call m).2.memory = m.memory

/-- None of the three calls of the storage fails. -/
def RegisterFaults.Absent (faults : RegisterFaults) : Prop :=
  faults.config = none ∧ faults.state = none ∧ faults.metrics = none

/-- Memory has the entries that a registration makes. -/
structure Recorded (m : RegionManager) (clock : Time × Time) (regionID : Bytes)
    (config : RegionConfig) : Prop where
  configs : m.configs.lookup regionID = some (some config)
  states : ∃ pairs, m.states.lookup regionID = some pairs ∧
    pairs.lookup config.id = some (initialState clock.1)
  metrics : ∃ pairs, m.metrics.lookup regionID = some pairs ∧
    pairs.lookup config.id = some (initialMetrics clock.2)

/-- The storage takes the writes, or the call does not come to them, or it has nothing to change. -/
def PairCall.Undisturbed (m : RegionManager) : PairCall → Prop
  | addTEEPair fault regionID pair =>
    fault = none ∨ pair = none ∨ ∀ config, m.cache.lookup regionID ≠ some (some config)
  | registerTEEPair faults clock regionID config =>
    faults.Absent ∨
      ((m.states.lookup regionID).isSome ∧ (m.metrics.lookup regionID).isNone) ∨
      ∀ given, config = some given → Recorded m clock regionID given

/-! ## The two calls -/

theorem atomic_addTEEPair_iff (fault : Option GoError) (regionID : Bytes) (pair : Option TEEPair)
    (m : RegionManager) :
    (PairCall.addTEEPair fault regionID pair).Atomic m ↔
      (PairCall.addTEEPair fault regionID pair).Undisturbed m := by
  change ((addToConfig fault regionID (m.cache.lookup regionID) pair m).1.Failed →
    (addToConfig fault regionID (m.cache.lookup regionID) pair m).2.memory = m.memory) ↔
    fault = none ∨ pair = none ∨ ∀ config, m.cache.lookup regionID ≠ some (some config)
  match entry : m.cache.lookup regionID, pair, fault with
  | none, _, _ => exact iff_of_true (fun _ => rfl) (by simp)
  | some none, none, _ | some none, some _, _ | some (some _), none, _
  | some (some _), some _, none => exact iff_of_true False.elim (by simp)
  | some (some config), some pair, some error =>
    -- the pair has been appended when the storage is asked
    refine iff_of_false (fun atomic => ?_) (by simp)
    have cache := congrArg Memory.cache (atomic trivial)
    have stored := (GoMap.insert_eq_self_iff.mp cache).symm.trans entry
    have pairs : config.teePairs ++ [pair] = config.teePairs :=
      congrArg RegionConfig.teePairs (Option.some.inj (Option.some.inj stored))
    simp at pairs

/-- The maps as a registration leaves them, once the map of the metrics has been found. -/
def registered (clock : Time × Time) (regionID : Bytes) (config : RegionConfig)
    (pairs : GoMap Bytes TEEPairMetrics) (m : RegionManager) : Memory where
  configs := m.configs.insert regionID (some config)
  cache := m.cache
  states := m.states.insert regionID
    ((m.states.get regionID).insert config.id (initialState clock.1))
  metrics := m.metrics.insert regionID (pairs.insert config.id (initialMetrics clock.2))

variable {m : RegionManager} {pairs : GoMap Bytes TEEPairMetrics}

/-- With the map of the metrics there, the call returns an error exactly when the storage does, and
memory is changed in any case. -/
theorem registerTEEPair_ends (faults : RegisterFaults) (clock : Time × Time) (regionID : Bytes)
    (config : RegionConfig) (found : (initRegion regionID m).metrics.lookup regionID = some pairs) :
    Call.Ends (registerTEEPair faults clock regionID (some config)) m fun outcome after =>
      (outcome.Failed ↔ ¬ faults.Absent) ∧
        after.memory = registered clock regionID config pairs (initRegion regionID m) := by
  have entered : registerTEEPair faults clock regionID (some config) m =
      registerConfig faults (initialState clock.1) (initialMetrics clock.2) regionID config
        ((initRegion regionID m).metrics.lookup regionID)
        { initRegion regionID m with
          configs := (initRegion regionID m).configs.insert regionID (some config)
          states := (initRegion regionID m).states.insert regionID
            (((initRegion regionID m).states.get regionID).insert config.id
              (initialState clock.1)) } := rfl
  rw [Call.Ends, entered, found]
  obtain ⟨_ | _, _ | _, _ | _⟩ := faults
  · exact ⟨iff_of_false id fun some => some ⟨rfl, rfl, rfl⟩, rfl⟩
  all_goals exact ⟨iff_of_true trivial (by simp [RegisterFaults.Absent]), rfl⟩

variable {regionID : Bytes}

theorem initRegion_of_some {pairs : GoMap Bytes TEEPairState}
    (known : m.states.lookup regionID = some pairs) :
    initRegion regionID m = m := by
  rw [initRegion, known]

theorem registered_eq_iff {clock : Time × Time} {config : RegionConfig}
    {known : GoMap Bytes TEEPairState} (states : m.states.lookup regionID = some known)
    (metrics : m.metrics.lookup regionID = some pairs) :
    registered clock regionID config pairs m = m.memory ↔ Recorded m clock regionID config := by
  have get : m.states.get regionID = known := by rw [GoMap.get, states, Option.getD_some]
  rw [registered, get, memory, Memory.mk.injEq]
  constructor
  · rintro ⟨configs, -, sameStates, sameMetrics⟩
    have stored := (GoMap.insert_eq_self_iff.mp sameStates).symm.trans states
    have stored' := (GoMap.insert_eq_self_iff.mp sameMetrics).symm.trans metrics
    exact ⟨GoMap.insert_eq_self_iff.mp configs,
      ⟨known, states, GoMap.insert_eq_self_iff.mp (Option.some.inj stored)⟩,
      ⟨pairs, metrics, GoMap.insert_eq_self_iff.mp (Option.some.inj stored')⟩⟩
  · rintro ⟨configs, ⟨known', states', state⟩, ⟨pairs', metrics', metric⟩⟩
    obtain rfl := Option.some.inj (states.symm.trans states')
    obtain rfl := Option.some.inj (metrics.symm.trans metrics')
    refine ⟨GoMap.insert_eq_self_iff.mpr configs, rfl, ?_, ?_⟩
    · rw [GoMap.insert_eq_self_iff.mpr state]
      exact GoMap.insert_eq_self_iff.mpr states
    · rw [GoMap.insert_eq_self_iff.mpr metric]
      exact GoMap.insert_eq_self_iff.mpr metrics

section

variable (faults : RegisterFaults) (clock : Time × Time)

theorem atomic_iff_of_found (regionID : Bytes)
    (config : RegionConfig) (found : (initRegion regionID m).metrics.lookup regionID = some pairs) :
    (PairCall.registerTEEPair faults clock regionID (some config)).Atomic m ↔
      faults.Absent ∨
        registered clock regionID config pairs (initRegion regionID m) = m.memory := by
  obtain ⟨failed, left⟩ := registerTEEPair_ends faults clock regionID config found
  rw [PairCall.Atomic, PairCall.call, failed, left]
  exact ⟨fun kept => or_iff_not_imp_left.mpr kept, fun either => or_iff_not_imp_left.mp either⟩

theorem registerTEEPair_panics (config : RegionConfig) {known : GoMap Bytes TEEPairState}
    (states : m.states.lookup regionID = some known) (metrics : m.metrics.lookup regionID = none) :
    (registerTEEPair faults clock regionID (some config) m).1 = .panicked := by
  have entered : (registerTEEPair faults clock regionID (some config) m).1 =
      (registerConfig faults (initialState clock.1) (initialMetrics clock.2) regionID config
        ((initRegion regionID m).metrics.lookup regionID) _).1 := rfl
  rw [entered, initRegion_of_some states, metrics]
  rfl

theorem atomic_registerTEEPair_iff (regionID : Bytes) (config : Option RegionConfig)
    (m : RegionManager) :
    (PairCall.registerTEEPair faults clock regionID config).Atomic m ↔
      (PairCall.registerTEEPair faults clock regionID config).Undisturbed m := by
  match config, states : m.states.lookup regionID, metrics : m.metrics.lookup regionID with
  | none, _, _ =>
    -- the nil pointer is read before the storage is asked
    exact iff_of_true False.elim (Or.inr (Or.inr (by simp)))
  | some config, none, _ =>
    -- the maps of the region are new in any case
    have made : (initRegion regionID m).metrics.lookup regionID = some ∅ := by
      rw [initRegion, states]
      exact Finmap.lookup_insert _
    rw [atomic_iff_of_found faults clock regionID config made]
    refine or_congr_right (iff_of_false (fun same => ?_) ?_)
    · have known : (registered clock regionID config ∅ (initRegion regionID m)).states.lookup
          regionID = some _ := Finmap.lookup_insert _
      rw [same] at known
      cases states.symm.trans known
    · rintro (⟨known, -⟩ | recorded)
      · rw [states] at known
        cases known
      · obtain ⟨pairs, known, -⟩ := (recorded config rfl).states
        cases states.symm.trans known
  | some config, some known, none =>
    refine iff_of_true (fun failed => ?_) (Or.inr (Or.inl ⟨?_, ?_⟩))
    · rw [PairCall.call, registerTEEPair_panics faults clock config states metrics] at failed
      exact failed.elim
    · rw [states, Option.isSome_some]
    · rw [metrics, Option.isNone_none]
  | some config, some known, some pairs =>
    have found : (initRegion regionID m).metrics.lookup regionID = some pairs := by
      rw [initRegion_of_some states, metrics]
    rw [atomic_iff_of_found faults clock regionID config found, initRegion_of_some states,
      registered_eq_iff states metrics]
    refine or_congr_right ⟨fun recorded => Or.inr ?_, ?_⟩
    · rintro given same
      obtain rfl := Option.some.inj same
      exact recorded
    · rintro (⟨-, missing⟩ | recorded)
      · rw [metrics] at missing
        cases missing
      · exact recorded config rfl

end

/-- **A registration that fails** leaves memory as it was exactly when it was undisturbed. -/
theorem atomic_iff (c : PairCall) (m : RegionManager) : c.Atomic m ↔ c.Undisturbed m := by
  cases c with
  | addTEEPair fault regionID pair => exact atomic_addTEEPair_iff fault regionID pair m
  | registerTEEPair faults clock regionID config =>
    exact atomic_registerTEEPair_iff faults clock regionID config m

/-- The storage does not take the configuration, and memory has it all the same. -/
theorem not_atomic_registerTEEPair :
    ∃ result, registerTEEPair ⟨some (.plain (ascii "disk full")), none, none⟩
        (Time.zero, Time.zero) [7] (some (.sample [7])) (new emptyStorage) = result ∧
      result.1 = .err ((GoError.plain (ascii "disk full")).wrap (ascii "failed to save config")) ∧
      (new emptyStorage).configs.lookup [7] = none ∧
      result.2.configs.lookup [7] = some (some (.sample [7])) ∧
      lastWrite result.2.store.log [7] = none :=
  ⟨_, rfl, rfl, rfl, Finmap.lookup_insert _, rfl⟩

end RegionManager

end Regions

end Aristo
