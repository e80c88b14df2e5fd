import Aristo.Regions.Manager

/-!
# Health of regions

`UpdateTEEState`, `UpdateRegionHealth` and `GetRegionHealth` of `regions/manager.go`.  The health of
a region is kept as the state of a TEE pair: saved under the pair ID that is the status of the
report, and read under the empty pair ID.  `healthKept_along_iff` says in which runs the last report
is what is read and no report changes the state of a pair.
-/

namespace Aristo

open GoBase

namespace Regions

structure HealthStatus where
  status : Bytes
  lastCheck : Time
  errorCount : Int64
  successRate : Float64
  loadFactor : Float64
  averageLatency : ℤ
deriving DecidableEq

/-- The state that `UpdateRegionHealth` saves. -/
def HealthStatus.toState (health : HealthStatus) : TEEPairState where
  status := health.status
  lastHealthy := health.lastCheck
  activeTasks := 0
  errorCount := health.errorCount
  loadFactor := health.loadFactor
  successRate := health.successRate
  averageLatency := health.averageLatency

/-- The report that `GetRegionHealth` makes of a state. -/
def TEEPairState.toHealth (state : TEEPairState) : HealthStatus where
  status := state.status
  lastCheck := state.lastHealthy
  errorCount := state.errorCount
  successRate := state.successRate
  loadFactor := state.loadFactor
  averageLatency := state.averageLatency

@[simp] theorem toHealth_toState (health : HealthStatus) : health.toState.toHealth = health := rfl

namespace RegionManager

def defaultState (now : Time) : TEEPairState where
  status := ascii "active"
  lastHealthy := now
  activeTasks := 0
  errorCount := 0
  loadFactor := .finite 0
  successRate := .finite 0
  averageLatency := 0

/-- The state that `UpdateTEEState` makes of the one in memory. -/
def nextState (clock : Time × Time) (update : TEEPairState → TEEPairState)
    (m : RegionManager) (regionID pairID : Bytes) : TEEPairState :=
  let state := update (((m.states.get regionID).lookup pairID).getD (defaultState clock.1))
  if state.status = ascii "active" then { state with lastHealthy := clock.2 } else state

def hasPair (pairID : Bytes) (config : RegionConfig) : Bool :=
  config.teePairs.any fun pair => pair.id = pairID

/-- The part of `UpdateTEEState` behind the look for the configuration. -/
def saveState (regionID pairID : Bytes) (state : TEEPairState) :
    Option (Option RegionConfig) → Call RegionManager Unit
  | none => Call.fail (.plain (ascii "region not found: " ++ regionID))
  | some none => Call.crash
  | some (some config) => do
    Call.lift (refuse (hasPair pairID config = false)
      (.plain (ascii "TEE pair " ++ pairID ++ ascii " not found in region " ++ regionID)))
    Call.modify fun m => { m with
      states := m.states.insert regionID ((m.states.get regionID).insert pairID state) }
    inStore (Storage.saveTEEState none regionID pairID state)

/-- `UpdateTEEState`, over a storage that is a map. -/
def updateTEEState (clock : Time × Time) (regionID pairID : Bytes)
    (update : TEEPairState → TEEPairState) : Call RegionManager Unit := do
  let m ← Call.read
  saveState regionID pairID (nextState clock update m regionID pairID)
    (m.configs.lookup regionID)

/-- `UpdateRegionHealth`, over a storage that is a map. -/
def updateRegionHealth (regionID : Bytes) (health : HealthStatus) : Call RegionManager Unit :=
  inStore (Storage.saveTEEState none regionID health.status health.toState)

/-- `GetRegionHealth`; `missing` is the error of the storage for a state that is not there. -/
def getRegionHealth (missing : GoError) (regionID : Bytes) (m : RegionManager) :
    Except GoError HealthStatus :=
  match m.store.teeStates (regionID, []) with
  | none => .error missing
  | some state => .ok state.toHealth

/-! ## Runs -/

inductive HealthCall where
  | updateRegionHealth (regionID : Bytes) (health : HealthStatus)
  | updateTEEState (clock : Time × Time) (regionID pairID : Bytes)
      (update : TEEPairState → TEEPairState)

/-- A manager and the last report of each region. -/
structure Reported where
  manager : RegionManager
  last : KeyValue Bytes HealthStatus

namespace HealthCall

def call : HealthCall → Call RegionManager Unit
  | updateRegionHealth regionID health => RegionManager.updateRegionHealth regionID health
  | updateTEEState clock regionID pairID update =>
    RegionManager.updateTEEState clock regionID pairID update

def reports (last : KeyValue Bytes HealthStatus) : HealthCall → KeyValue Bytes HealthStatus
  | updateRegionHealth regionID health => last.insert regionID health
  | updateTEEState _ _ _ _ => last

def step (s : Reported) (c : HealthCall) : Reported where
  manager := (c.call s.manager).2
  last := c.reports s.last

end HealthCall

open HealthCall

def HasPair (m : RegionManager) (regionID pairID : Bytes) : Prop :=
  ∃ config, m.configs.lookup regionID = some (some config) ∧ hasPair pairID config = true

/-- Every region has the health that was last reported. -/
def Current (missing : GoError) (s : Reported) : Prop :=
  ∀ regionID health, s.last regionID = some health →
    s.manager.getRegionHealth missing regionID = .ok health

/-- A report leaves the states of the region's pairs alone. -/
def PairsKept (s : Reported) : HealthCall → Prop
  | .updateRegionHealth regionID health => ∀ pairID, s.manager.HasPair regionID pairID →
      (step s (.updateRegionHealth regionID health)).manager.store.teeStates
          (regionID, pairID) =
        s.manager.store.teeStates (regionID, pairID)
  | .updateTEEState _ _ _ _ => True

/-- After the call the last reports are read, and a report has left the pairs alone. -/
def HealthKept (missing : GoError) (s : Reported) (c : HealthCall) : Prop :=
  Current missing (c.step s) ∧ PairsKept s c

/-- What has to hold of a call: a report has no status, or says what is read anyway, and its status
is no pair of the region, or one with this state; an update without a pair ID leaves what was last
reported. -/
def HealthCall.Harmless (s : Reported) : HealthCall → Prop
  | updateRegionHealth regionID health =>
    (health.status = [] ∨
      (s.manager.store.teeStates (regionID, [])).map TEEPairState.toHealth = some health) ∧
    (s.manager.HasPair regionID health.status →
      s.manager.store.teeStates (regionID, health.status) = some health.toState)
  | updateTEEState clock regionID pairID update =>
    pairID = [] → s.manager.HasPair regionID pairID → ∀ health, s.last regionID = some health →
      (nextState clock update s.manager regionID pairID).toHealth = health

/-! ### What a call does -/

variable {missing : GoError} {regionID : Bytes}

theorem getRegionHealth_eq_ok_iff {m : RegionManager} {health : HealthStatus} :
    m.getRegionHealth missing regionID = .ok health ↔
      (m.store.teeStates (regionID, [])).map TEEPairState.toHealth = some health := by
  unfold getRegionHealth
  cases m.store.teeStates (regionID, []) <;> simp

section

variable (clock : Time × Time) {pairID : Bytes} (update : TEEPairState → TEEPairState)
    {m : RegionManager}

theorem teeStates_updateTEEState_of_hasPair (known : m.HasPair regionID pairID) :
    (updateTEEState clock regionID pairID update m).2.store.teeStates =
      m.store.teeStates.insert (regionID, pairID) (nextState clock update m regionID pairID) := by
  obtain ⟨config, configured, found⟩ := known
  change (saveState regionID pairID _ (m.configs.lookup regionID) m).2.store.teeStates = _
  rw [configured, saveState, Call.refuse_bind_of_not (by rw [found]; decide)]
  rfl

theorem updateTEEState_of_not_hasPair (unknown : ¬ m.HasPair regionID pairID) :
    (updateTEEState clock regionID pairID update m).2 = m := by
  change (saveState regionID pairID _ (m.configs.lookup regionID) m).2 = m
  cases configured : m.configs.lookup regionID with
  | none => rfl
  | some entry =>
    cases entry with
    | none => rfl
    | some config =>
      have missing : hasPair pairID config = false := by
        by_contra found
        exact unknown ⟨config, configured, Bool.eq_true_of_not_eq_false found⟩
      rw [saveState, Call.refuse_bind_of missing]

end

theorem insert_apply_unnamed (states : KeyValue (Bytes × Bytes) TEEPairState)
    (regionID pairID : Bytes) (state : TEEPairState) :
    states.insert (regionID, pairID) state (regionID, []) =
      if pairID = [] then some state else states (regionID, []) := by
  split
  · rename_i unnamed
    rw [unnamed, KeyValue.insert_self]
  · rename_i named
    exact KeyValue.insert_of_ne _ _ fun equal => named (congrArg Prod.snd equal).symm

/-! ### Steps -/

/-- A new state under one key, while everything that was reported is read. -/
theorem current_insert_iff {s after : Reported} {pairID : Bytes} {state : TEEPairState}
    (current : Current missing s) (saved : after.manager.store.teeStates =
      s.manager.store.teeStates.insert (regionID, pairID) state)
    (others : ∀ other, other ≠ regionID → after.last other = s.last other) :
    Current missing after ↔ ∀ health, after.last regionID = some health →
      after.manager.getRegionHealth missing regionID = .ok health := by
  refine ⟨fun all => all regionID, fun here other health reported => ?_⟩
  by_cases same : other = regionID
  · subst same
    exact here health reported
  · have read := current other health ((others other same).symm.trans reported)
    rw [getRegionHealth_eq_ok_iff] at read ⊢
    rwa [saved, KeyValue.insert_of_ne _ _ fun equal => same (congrArg Prod.fst equal)]

theorem current_report_iff {s : Reported} (current : Current missing s) (regionID : Bytes)
    (health : HealthStatus) :
    Current missing (step s (.updateRegionHealth regionID health)) ↔
      health.status = [] ∨
        (s.manager.store.teeStates (regionID, [])).map TEEPairState.toHealth = some health := by
  rw [current_insert_iff current rfl fun other apart => KeyValue.insert_of_ne _ _ apart]
  have reported : (step s (.updateRegionHealth regionID health)).last regionID =
      some health := KeyValue.insert_self _ _ _
  simp only [reported, Option.some.injEq, forall_eq', getRegionHealth_eq_ok_iff]
  change ((s.manager.store.teeStates.insert (regionID, health.status) health.toState)
    (regionID, [])).map TEEPairState.toHealth = some health ↔ _
  rw [insert_apply_unnamed]
  by_cases unnamed : health.status = []
  · simp [unnamed]
  · rw [if_neg unnamed, or_iff_right unnamed]

theorem pairsKept_report_iff (s : Reported) (regionID : Bytes) (health : HealthStatus) :
    PairsKept s (.updateRegionHealth regionID health) ↔
      (s.manager.HasPair regionID health.status →
        s.manager.store.teeStates (regionID, health.status) = some health.toState) := by
  change (∀ pairID, s.manager.HasPair regionID pairID →
    (s.manager.store.teeStates.insert (regionID, health.status) health.toState)
      (regionID, pairID) = s.manager.store.teeStates (regionID, pairID)) ↔ _
  constructor
  · intro kept known
    rw [← kept health.status known, KeyValue.insert_self]
  · intro saved pairID known
    by_cases same : pairID = health.status
    · subst same
      rw [KeyValue.insert_self, saved known]
    · exact KeyValue.insert_of_ne _ _ fun equal => same (congrArg Prod.snd equal)

theorem current_update_iff {s : Reported} (current : Current missing s) (clock : Time × Time)
    (regionID pairID : Bytes) (update : TEEPairState → TEEPairState) :
    Current missing (step s (.updateTEEState clock regionID pairID update)) ↔
      Harmless s (.updateTEEState clock regionID pairID update) := by
  by_cases known : s.manager.HasPair regionID pairID
  · have saved := teeStates_updateTEEState_of_hasPair clock update known
    have here : Current missing
        (step s (.updateTEEState clock regionID pairID update)) ↔ _ :=
      current_insert_iff current saved fun _ _ => rfl
    rw [here]
    simp only [getRegionHealth_eq_ok_iff]
    change (∀ health, s.last regionID = some health →
      ((updateTEEState clock regionID pairID update s.manager).2.store.teeStates
        (regionID, [])).map TEEPairState.toHealth = some health) ↔ _
    -- the health is read where the state of a pair with no ID is
    rw [saved, insert_apply_unnamed]
    by_cases unnamed : pairID = []
    · subst unnamed
      simp [Harmless, known]
    · rw [if_neg unnamed]
      refine iff_of_true (fun health reported => ?_) fun named => absurd named unnamed
      exact getRegionHealth_eq_ok_iff.mp (current regionID health reported)
  · have same : step s (.updateTEEState clock regionID pairID update) = s := by
      rw [step, call, updateTEEState_of_not_hasPair clock update known]
      rfl
    rw [same]
    exact iff_of_true current fun _ known' => absurd known' known

theorem healthKept_iff {s : Reported} (current : Current missing s) (c : HealthCall) :
    HealthKept missing s c ↔ c.Harmless s := by
  cases c with
  | updateRegionHealth regionID health =>
    exact and_congr (current_report_iff current regionID health)
      (pairsKept_report_iff s regionID health)
  | updateTEEState clock regionID pairID update =>
    exact (and_iff_left trivial).trans (current_update_iff current clock regionID pairID update)

/-- **When the health of regions is kept**, in every run of any manager: at every step the last
reports are read and no report changes the state of a pair, exactly when every step is harmless. -/
theorem healthKept_along_iff (missing : GoError) (m : RegionManager) (calls : List HealthCall) :
    Along step (HealthKept missing) ⟨m, fun _ => none⟩ calls ↔
      Along step (fun s c => c.Harmless s) ⟨m, fun _ => none⟩ calls := by
  have start : Current missing ⟨m, fun _ => none⟩ := fun _ _ reported => by cases reported
  exact along_iff_of_invariant
    (fun s c (current : Current missing s) => healthKept_iff current c)
    (fun _ _ _ kept => kept.1) start calls

def report (status : Bytes) : HealthStatus :=
  ⟨status, Time.unixUTC 5, 0, .finite 1, .finite 0, 0⟩

/-- A manager with one region, and a state of its pair. -/
def oneRegion : RegionManager :=
  { new emptyStorage with
    configs := (∅ : GoMap Bytes (Option RegionConfig)).insert [7] (some (.sample [7]))
    store := { emptyStorage with
      teeStates := KeyValue.insert (fun _ => none) ([7], [1]) (initialState (Time.unixUTC 1)) } }

/-- A report of a healthy region is not read, and one whose status is the ID of a pair overwrites
the state of the pair. -/
theorem health_lost :
    (updateRegionHealth [7] (report (ascii "healthy")) oneRegion).2.getRegionHealth
        (.plain (ascii "not found")) [7] = .error (.plain (ascii "not found")) ∧
      oneRegion.HasPair [7] [1] ∧
      (updateRegionHealth [7] (report [1]) oneRegion).2.store.teeStates ([7], [1]) ≠
        oneRegion.store.teeStates ([7], [1]) := by
  refine ⟨by decide +kernel, ⟨.sample [7], by decide +kernel, by decide +kernel⟩, ?_⟩
  decide +kernel

end RegionManager

end Regions

end Aristo
