import Aristo.Regions.Health

/-!
# Metrics of TEE pairs

`UpdateMetrics` and `collectRegionMetrics` of `regions/manager.go`.  A pass of the collection copies
the states of a region's pairs and then, pair by pair, replaces the record of the pair by a new one
without counts.  The copy is one step and each replacement is one; `countsKept_along_iff` says in
which interleavings the records show how often each counter was incremented.
-/

namespace Aristo

open GoBase Call

namespace Regions

inductive Counter where
  | tasksProcessed
  | failedTasks
  | consecutiveErrors
  | attestationFailures
deriving DecidableEq

def TEEPairMetrics.count (metrics : TEEPairMetrics) : Counter → UInt64
  | .tasksProcessed => metrics.tasksProcessed
  | .failedTasks => metrics.failedTasks
  | .consecutiveErrors => metrics.consecutiveErrors
  | .attestationFailures => metrics.attestationFailures

/-- The measurements that `UpdateMetrics` copies to the state. -/
def TEEPairState.measured (state : TEEPairState) (metrics : TEEPairMetrics) : TEEPairState :=
  { state with
    loadFactor := metrics.loadFactor
    successRate := metrics.successRate
    averageLatency := metrics.averageLatency }

/-- The status that `UpdateMetrics` derives from the load. -/
def RegionConfig.loadStatus (config : RegionConfig) (metrics : TEEPairMetrics) : Bytes :=
  if config.loadBalancer.maxLoadFactor < metrics.loadFactor then ascii "degraded"
  else ascii "active"

namespace RegionManager

/-! ## The code -/

def defaultMetrics (now : Time) : TEEPairMetrics where
  pairID := []
  sgxEndpoint := []
  sevEndpoint := []
  lastHealthCheck := Time.zero
  lastHealthy := now
  successRate := .finite 1
  loadFactor := .finite 0

def recordedMetrics (m : RegionManager) (regionID pairID : Bytes) : Option TEEPairMetrics :=
  (m.metrics.get regionID).lookup pairID

def pairState (m : RegionManager) (regionID pairID : Bytes) : Option TEEPairState :=
  (m.states.get regionID).lookup pairID

/-- The metrics that `UpdateMetrics` makes of those in memory. -/
def nextMetrics (now : Time) (update : TEEPairMetrics → TEEPairMetrics) (m : RegionManager)
    (regionID pairID : Bytes) : TEEPairMetrics :=
  update ((m.recordedMetrics regionID pairID).getD (defaultMetrics now))

/-- The errors of the two calls of the storage that `UpdateMetrics` makes. -/
structure MetricsFaults where
  state : Option GoError
  metrics : Option GoError

def putState (regionID pairID : Bytes) (state : TEEPairState) : Call RegionManager Unit :=
  Call.modify fun m => { m with
    states := m.states.insert regionID ((m.states.get regionID).insert pairID state) }

def putMetrics (regionID pairID : Bytes) (metrics : TEEPairMetrics) : Call RegionManager Unit :=
  Call.modify fun m => { m with
    metrics := m.metrics.insert regionID ((m.metrics.get regionID).insert pairID metrics) }

/-- The part of `UpdateMetrics` about the state of the pair.  A nil configuration panics behind the
first three writes. -/
def refreshState (fault : Option GoError) (regionID pairID : Bytes) (metrics : TEEPairMetrics) :
    Option RegionConfig → Option TEEPairState → Call RegionManager Unit
  | _, none => pure ()
  | none, some state => do
    putState regionID pairID (state.measured metrics)
    Call.crash
  | some config, some state => do
    putState regionID pairID
      { state.measured metrics with status := config.loadStatus metrics }
    Call.wrapping (ascii "failed to save updated state")
      (inStore (Storage.saveTEEState fault regionID pairID
        { state.measured metrics with status := config.loadStatus metrics }))

/-- The part of `UpdateMetrics` behind the look for the configuration. -/
def applyMetrics (faults : MetricsFaults) (regionID pairID : Bytes) (metrics : TEEPairMetrics)
    (state : Option TEEPairState) : Option (Option RegionConfig) → Call RegionManager Unit
  | none => Call.fail (.plain (ascii "region not found: " ++ regionID))
  | some config => do
    putMetrics regionID pairID metrics
    refreshState faults.state regionID pairID metrics config state
    inStore (Storage.saveMetrics faults.metrics regionID pairID metrics)

def updateMetrics (faults : MetricsFaults) (now : Time) (regionID pairID : Bytes)
    (update : TEEPairMetrics → TEEPairMetrics) : Call RegionManager Unit := do
  let m ← Call.read
  applyMetrics faults regionID pairID (nextMetrics now update m regionID pairID)
    (m.pairState regionID pairID) (m.configs.lookup regionID)

/-- The record that `collectRegionMetrics` makes of a state. -/
def collected (now : Time) (state : TEEPairState) : TEEPairMetrics where
  pairID := []
  sgxEndpoint := []
  sevEndpoint := []
  lastHealthCheck := now
  lastHealthy := Time.zero
  successRate := state.successRate
  loadFactor := state.loadFactor
  averageLatency := state.averageLatency
  status := state.status

/-- The copy of the states of a region, in the order in which the pairs are visited. -/
def snapshot (m : RegionManager) (regionID : Bytes) (order : List Bytes) :
    List (Bytes × TEEPairState) :=
  order.filterMap fun pairID => (m.pairState regionID pairID).map fun state => (pairID, state)

/-- The body of the second loop of `collectRegionMetrics`. -/
def collectPair (faults : MetricsFaults) (clock : Time × Time) (regionID : Bytes)
    (entry : Bytes × TEEPairState) : Call RegionManager Unit :=
  Call.wrapping (ascii "failed to update metrics for pair " ++ entry.1)
    (updateMetrics faults clock.2 regionID entry.1 fun _ => collected clock.1 entry.2)

/-- `collectRegionMetrics`, when nothing comes between its steps. -/
def collectRegionMetrics (faults : Bytes → MetricsFaults) (clock : Bytes → Time × Time)
    (regionID : Bytes) (order : List Bytes) : Call RegionManager Unit := do
  let m ← Call.read
  forM (m.snapshot regionID order) fun entry =>
    collectPair (faults entry.1) (clock entry.1) regionID entry

/-! ## Interleavings -/

/-- A pass of `collectRegionMetrics` that has made its copy: the pairs it has not replaced yet. -/
structure Pass where
  regionID : Bytes
  rest : List (Bytes × TEEPairState)

/-- A manager, the passes over its regions, and how often each counter of each pair was
incremented. -/
structure Tally where
  manager : RegionManager
  passes : List Pass
  applied : Bytes × Bytes → Counter → ℕ

inductive MetricsStep where
  /-- An `UpdateMetrics` whose function adds to the counters. -/
  | increment (faults : MetricsFaults) (now : Time) (regionID pairID : Bytes)
      (update : TEEPairMetrics → TEEPairMetrics) (added : Counter → UInt64)
      (adds : ∀ metrics counter,
        (update metrics).count counter = metrics.count counter + added counter)
  /-- An `UpdateTEEState`. -/
  | updateTEEState (clock : Time × Time) (regionID pairID : Bytes)
      (update : TEEPairState → TEEPairState)
  /-- The first loop of `collectRegionMetrics`. -/
  | snapshot (regionID : Bytes) (order : List Bytes)
  /-- One round of the second loop, of one of the passes. -/
  | collect (index : ℕ) (faults : MetricsFaults) (clock : Time × Time)

def Configured (m : RegionManager) (regionID : Bytes) : Prop :=
  regionID ∈ m.configs

instance decidableConfigured (m : RegionManager) (regionID : Bytes) :
    Decidable (m.Configured regionID) :=
  inferInstanceAs (Decidable (regionID ∈ m.configs))

def addCounts (applied : Bytes × Bytes → Counter → ℕ) (target : Bytes × Bytes)
    (added : Counter → UInt64) : Bytes × Bytes → Counter → ℕ :=
  Function.update applied target fun counter => applied target counter + (added counter).toNat

namespace MetricsStep

/-- One round of the pass at the index.  An error ends the pass. -/
def collectAt (index : ℕ) (faults : MetricsFaults) (clock : Time × Time) (s : Tally) :
    Option Pass → Tally
  | none => s
  | some ⟨_, []⟩ => s
  | some ⟨regionID, entry :: rest⟩ =>
    { s with
      manager := (collectPair faults clock regionID entry s.manager).2
      passes := s.passes.set index ⟨regionID,
        if (collectPair faults clock regionID entry s.manager).1.Succeeded then rest else []⟩ }

/-- What a step does.  An increment counts when its function is called at all. -/
def step (s : Tally) : MetricsStep → Tally
  | increment faults now regionID pairID update added _ =>
    { s with
      manager := (updateMetrics faults now regionID pairID update s.manager).2
      applied := if s.manager.Configured regionID then
          addCounts s.applied (regionID, pairID) added
        else s.applied }
  | updateTEEState clock regionID pairID update =>
    { s with manager := (RegionManager.updateTEEState clock regionID pairID update s.manager).2 }
  | snapshot regionID order =>
    { s with passes := s.passes ++ [⟨regionID, s.manager.snapshot regionID order⟩] }
  | collect index faults clock => collectAt index faults clock s s.passes[index]?

end MetricsStep

open MetricsStep

/-- The recorded value of a counter; a pair without a record has none. -/
def recordedCount (m : RegionManager) (target : Bytes × Bytes) (counter : Counter) : UInt64 :=
  ((m.recordedMetrics target.1 target.2).map fun metrics => metrics.count counter).getD 0

/-- The records show how often each counter was incremented. -/
def CountsKept (s : Tally) : Prop :=
  ∀ target counter, (s.manager.recordedCount target counter).toNat = s.applied target counter

/-- The pair that a round of the pass is about. -/
def Pass.current (pass : Pass) : Option (Bytes × Bytes) :=
  pass.rest.head?.map fun entry => (pass.regionID, entry.1)

/-- What has to hold of a step: an increment does not overflow, and a round replaces a record of
which nothing was counted. -/
def MetricsStep.Harmless (s : Tally) : MetricsStep → Prop
  | increment _ _ regionID pairID _ added _ => s.manager.Configured regionID →
      ∀ counter, s.applied (regionID, pairID) counter + (added counter).toNat < 2 ^ 64
  | updateTEEState _ _ _ _ => True
  | snapshot _ _ => True
  | collect index _ _ => ∀ target, s.passes[index]?.bind Pass.current = some target →
      s.manager.Configured target.1 → ∀ counter, s.applied target counter = 0

/-! ### A pass without interruption -/

variable {s : Tally} {regionID : Bytes}

/-- A pass that is over does nothing, -/
theorem run_collect_of_over {index : ℕ} (finished : s.passes[index]? = some ⟨regionID, []⟩)
    (faults : Bytes → MetricsFaults) (clock : Bytes → Time × Time) (pairIDs : List Bytes) :
    run step s (pairIDs.map fun pairID =>
      .collect index (faults pairID) (clock pairID)) = s := by
  induction pairIDs with
  | nil => rfl
  | cons pairID pairIDs ih =>
    rw [List.map_cons, run_cons, step, finished]
    exact ih

/-- and one that is not does the rest of the loop. -/
theorem manager_run_collect {index : ℕ} {entries : List (Bytes × TEEPairState)}
    (here : s.passes[index]? = some ⟨regionID, entries⟩) (faults : Bytes → MetricsFaults)
    (clock : Bytes → Time × Time) :
    (run step s ((entries.map Prod.fst).map fun pairID =>
        .collect index (faults pairID) (clock pairID))).manager =
      (forM entries (fun entry =>
        collectPair (faults entry.1) (clock entry.1) regionID entry) s.manager).2 := by
  induction entries generalizing s with
  | nil => rfl
  | cons entry entries ih =>
    have inRange : index < s.passes.length := (List.getElem?_eq_some_iff.mp here).1
    rw [List.map_cons, List.map_cons, run_cons, step, here, List.forM_cons, bind_apply]
    rcases ended : collectPair (faults entry.1) (clock entry.1) regionID entry s.manager with
      ⟨outcome, after⟩
    have next : (collectAt index (faults entry.1) (clock entry.1) s
        (some ⟨regionID, entry :: entries⟩)).passes[index]? =
          some ⟨regionID, if outcome.Succeeded then entries else []⟩ := by
      rw [collectAt, ended]
      exact List.getElem?_set_self inRange
    have manager : (collectAt index (faults entry.1) (clock entry.1) s
        (some ⟨regionID, entry :: entries⟩)).manager = after := by
      rw [collectAt, ended]
    cases outcome with
    | ok =>
      rw [ih next, manager]
    | err | panicked => rw [run_collect_of_over next, manager]

/-- **`collectRegionMetrics` is a pass that nothing interrupts.** -/
theorem manager_run_pass (s : Tally) (regionID : Bytes) (order : List Bytes)
    (faults : Bytes → MetricsFaults) (clock : Bytes → Time × Time) :
    (run step s (.snapshot regionID order ::
        ((s.manager.snapshot regionID order).map Prod.fst).map fun pairID =>
          .collect s.passes.length (faults pairID) (clock pairID))).manager =
      (collectRegionMetrics faults clock regionID order s.manager).2 := by
  have here : (step s (.snapshot regionID order)).passes[s.passes.length]? =
      some ⟨regionID, s.manager.snapshot regionID order⟩ := by
    simp [step]
  rw [run_cons, manager_run_collect here]
  rfl

/-! ## What a call does to the records -/

section Keeps

variable {ν : Type} {view : RegionManager → ν} {regionID pairID : Bytes}

variable (put : ∀ state, Call.Keeps view (putState regionID pairID state))

include put

theorem keeps_refreshState (store : ∀ call : Call Storage Unit, Call.Keeps view (inStore call))
    (fault : Option GoError) (metrics : TEEPairMetrics) (config : Option RegionConfig)
    (state : Option TEEPairState) :
    Call.Keeps view (refreshState fault regionID pairID metrics config state) := by
  cases state with
  | none => cases config <;> exact keeps_pure ()
  | some =>
    cases config with
    | none => exact keeps_bind (put _) fun _ => keeps_crash
    | some => exact keeps_bind (put _) fun _ => keeps_wrapping (store _)

/-- What neither map nor the storage shows, the calls keep. -/
theorem keeps_updateMetrics
    (putMetrics : ∀ metrics, Call.Keeps view (putMetrics regionID pairID metrics))
    (store : ∀ call : Call Storage Unit, Call.Keeps view (inStore call)) (faults : MetricsFaults)
    (now : Time) (update : TEEPairMetrics → TEEPairMetrics) :
    Call.Keeps view (updateMetrics faults now regionID pairID update) := by
  refine keeps_bind keeps_read fun m => ?_
  rcases m.configs.lookup regionID with _ | config
  · exact keeps_fail _
  · exact keeps_bind (putMetrics _) fun _ =>
      keeps_bind (keeps_refreshState put store _ _ _ _) fun _ => store _

theorem keeps_updateTEEState (store : ∀ call : Call Storage Unit, Call.Keeps view (inStore call))
    (clock : Time × Time) (update : TEEPairState → TEEPairState) :
    Call.Keeps view (RegionManager.updateTEEState clock regionID pairID update) := by
  refine keeps_bind keeps_read fun m => ?_
  rcases m.configs.lookup regionID with _ | _ | config
  · exact keeps_fail _
  · exact keeps_crash
  · exact keeps_bind (keeps_lift _) fun _ =>
      keeps_bind (put _) fun _ => store _

end Keeps

section

variable (faults : MetricsFaults) (now : Time) (pairID : Bytes)
    (update : TEEPairMetrics → TEEPairMetrics) {m : RegionManager}

/-- In a region that is not configured nothing is recorded. -/
theorem updateMetrics_of_not_configured (missing : ¬ m.Configured regionID) :
    (updateMetrics faults now regionID pairID update m).2 = m := by
  change (applyMetrics faults regionID pairID _ _ (m.configs.lookup regionID) m).2 = m
  rw [Finmap.lookup_eq_none.mpr missing]
  rfl

theorem metrics_updateMetrics_of_configured (configured : m.Configured regionID) :
    (updateMetrics faults now regionID pairID update m).2.metrics =
      m.metrics.insert regionID ((m.metrics.get regionID).insert pairID
        (nextMetrics now update m regionID pairID)) := by
  obtain ⟨config, found⟩ := Finmap.mem_iff.mp configured
  change (applyMetrics faults regionID pairID _ _ (m.configs.lookup regionID) m).2.metrics = _
  rw [found]
  exact (keeps_bind (keeps_refreshState (fun _ _ => rfl) (fun _ _ => rfl) _ _ _ _)
    fun _ _ => rfl) _

end

/-- **What an update does to the records**: it replaces that of its pair, in a region that is
configured, and nothing else. -/
theorem recordedMetrics_updateMetrics (faults : MetricsFaults) (now : Time)
    (regionID pairID : Bytes) (update : TEEPairMetrics → TEEPairMetrics) (m : RegionManager)
    (target : Bytes × Bytes) :
    (updateMetrics faults now regionID pairID update m).2.recordedMetrics target.1 target.2 =
      if m.Configured regionID ∧ target = (regionID, pairID) then
        some (nextMetrics now update m regionID pairID)
      else m.recordedMetrics target.1 target.2 := by
  obtain ⟨region, pair⟩ := target
  by_cases configured : m.Configured regionID
  · rw [recordedMetrics, metrics_updateMetrics_of_configured faults now pairID update configured]
    by_cases same : region = regionID
    · subst same
      rw [GoMap.get_insert_self]
      by_cases here : pair = pairID
      · subst here
        simp [configured]
      · simp [here, Finmap.lookup_insert_of_ne _ here, recordedMetrics]
    · simp [same, GoMap.get_insert_of_ne _ _ same, recordedMetrics]
  · rw [updateMetrics_of_not_configured faults now pairID update configured,
      if_neg fun both => configured both.1]

theorem count_getD_defaultMetrics (m : RegionManager) (regionID pairID : Bytes) (now : Time)
    (counter : Counter) :
    ((m.recordedMetrics regionID pairID).getD (defaultMetrics now)).count counter =
      m.recordedCount (regionID, pairID) counter := by
  rw [recordedCount]
  cases m.recordedMetrics regionID pairID with
  | none => cases counter <;> rfl
  | some => rfl

/-- An update counts for its pair only, -/
theorem recordedCount_updateMetrics (faults : MetricsFaults) (now : Time)
    (regionID pairID : Bytes) (update : TEEPairMetrics → TEEPairMetrics) (m : RegionManager)
    (target : Bytes × Bytes) (counter : Counter) :
    (updateMetrics faults now regionID pairID update m).2.recordedCount target counter =
      if m.Configured regionID ∧ target = (regionID, pairID) then
        (nextMetrics now update m regionID pairID).count counter
      else m.recordedCount target counter := by
  rw [recordedCount, recordedMetrics_updateMetrics]
  split <;> rfl

/-- and a round of a pass forgets what was counted for its pair. -/
theorem recordedCount_collectPair (faults : MetricsFaults) (clock : Time × Time) (regionID : Bytes)
    (entry : Bytes × TEEPairState) (m : RegionManager) (target : Bytes × Bytes)
    (counter : Counter) :
    (collectPair faults clock regionID entry m).2.recordedCount target counter =
      if m.Configured regionID ∧ target = (regionID, entry.1) then 0
      else m.recordedCount target counter := by
  have passed : (collectPair faults clock regionID entry m).2 =
      (updateMetrics faults clock.2 regionID entry.1 (fun _ => collected clock.1 entry.2) m).2 :=
    mapError_snd _ _ _
  rw [passed, recordedCount_updateMetrics]
  split
  · cases counter <;> rfl
  · rfl

/-! ## Steps -/

/-- Where one pair changes, the counts have to be right for it. -/
theorem countsKept_iff_of_changed {after : Tally} (kept : CountsKept s) (target : Bytes × Bytes)
    (recorded : ∀ other, other ≠ target → ∀ counter,
      after.manager.recordedCount other counter = s.manager.recordedCount other counter)
    (applied : ∀ other, other ≠ target → after.applied other = s.applied other) :
    CountsKept after ↔ ∀ counter,
      (after.manager.recordedCount target counter).toNat = after.applied target counter := by
  refine ⟨fun all => all target, fun here other counter => ?_⟩
  by_cases same : other = target
  · subst same
    exact here counter
  · rw [recorded other same, applied other same]
    exact kept other counter

/-- An increment is counted unless it overflows. -/
theorem countsKept_increment_iff (kept : CountsKept s) (faults : MetricsFaults) (now : Time)
    (regionID pairID : Bytes) (update : TEEPairMetrics → TEEPairMetrics) (added : Counter → UInt64)
    (adds : ∀ metrics counter, (update metrics).count counter = metrics.count counter +
      added counter) :
    CountsKept (step s (.increment faults now regionID pairID update added adds)) ↔
      Harmless s (.increment faults now regionID pairID update added adds) := by
  by_cases configured : s.manager.Configured regionID
  · have here : CountsKept
        (step s (.increment faults now regionID pairID update added adds)) ↔ _ :=
      countsKept_iff_of_changed kept (regionID, pairID)
      (fun other apart counter => by
        rw [step, recordedCount_updateMetrics, if_neg fun both => apart both.2])
      (fun other apart => by
        simp only [step, if_pos configured, addCounts]
        exact Function.update_of_ne apart _ _)
    rw [here]
    simp only [Harmless, step, configured, true_implies, if_true, addCounts,
      Function.update_self]
    refine forall_congr' fun counter => ?_
    rw [recordedCount_updateMetrics, if_pos ⟨configured, rfl⟩, nextMetrics, adds,
      count_getD_defaultMetrics, UInt64.toNat_add, kept]
    exact Nat.mod_eq_iff_lt (by norm_num)
  · refine iff_of_true ?_ fun here => absurd here configured
    intro target counter
    simp only [step, if_neg configured,
      updateMetrics_of_not_configured faults now pairID update configured]
    exact kept target counter

/-- A round of a pass must have nothing to forget. -/
theorem countsKept_collect_iff (kept : CountsKept s) (index : ℕ) (faults : MetricsFaults)
    (clock : Time × Time) :
    CountsKept (step s (.collect index faults clock)) ↔
      Harmless s (.collect index faults clock) := by
  rw [step, Harmless]
  rcases found : s.passes[index]? with _ | ⟨regionID, _ | ⟨entry, rest⟩⟩
  · exact iff_of_true kept fun target none => by cases none
  · exact iff_of_true kept fun target none => by cases none
  · have step : CountsKept (collectAt index faults clock s
        (some ⟨regionID, entry :: rest⟩)) ↔ _ :=
      countsKept_iff_of_changed kept (regionID, entry.1)
        (fun other apart counter => by
          rw [collectAt, recordedCount_collectPair, if_neg fun both => apart both.2])
        (fun _ _ => rfl)
    have current : (some (Pass.mk regionID (entry :: rest))).bind Pass.current =
        some (regionID, entry.1) := rfl
    rw [step, current]
    simp only [collectAt, recordedCount_collectPair, Option.some.injEq, forall_eq',
      and_true]
    by_cases configured : s.manager.Configured regionID
    · simp [configured, eq_comm]
    · simp only [configured, if_false, false_implies, iff_true]
      exact fun counter => kept _ counter

/-- **One step** keeps the counts exactly when it is harmless. -/
theorem countsKept_step_iff (kept : CountsKept s) (input : MetricsStep) :
    CountsKept (step s input) ↔ input.Harmless s := by
  cases input with
  | increment faults now regionID pairID update added adds =>
    exact countsKept_increment_iff kept faults now regionID pairID update added adds
  | updateTEEState clock regionID pairID update =>
    refine iff_of_true (fun target counter => ?_) trivial
    have same : (RegionManager.updateTEEState clock regionID pairID update s.manager).2.metrics =
        s.manager.metrics :=
      keeps_updateTEEState (fun _ _ => rfl) (fun _ _ => rfl) clock update s.manager
    simp only [step, recordedCount, recordedMetrics, same]
    exact kept target counter
  | snapshot => exact iff_of_true kept trivial
  | collect index faults clock => exact countsKept_collect_iff kept index faults clock

/-- A manager before an interleaving: no pass is under way, and the counts are those recorded. -/
def Tally.start (m : RegionManager) : Tally where
  manager := m
  passes := []
  applied := fun target counter => (m.recordedCount target counter).toNat

/-- **When counts are kept**, in every interleaving from any manager: the records show at every step
how often each counter was incremented, exactly when no increment overflows and no pass replaces
the record of a pair of which something was counted. -/
theorem countsKept_along_iff (m : RegionManager) (inputs : List MetricsStep) :
    Along step (fun s input => CountsKept (input.step s)) (.start m) inputs ↔
      Along step (fun s input => input.Harmless s) (.start m) inputs :=
  along_iff_of_invariant (fun s input (kept : CountsKept s) => countsKept_step_iff kept input)
    (fun _ _ _ kept => kept) (fun _ _ => rfl) inputs

/-- `ConsecutiveErrors++`, as the VM does it. -/
def countError : MetricsStep :=
  .increment ⟨none, none⟩ (Time.unixUTC 1) [7] [7]
    (fun metrics => { metrics with consecutiveErrors := metrics.consecutiveErrors + 1 })
    (fun | .consecutiveErrors => 1 | _ => 0)
    (by intro metrics counter; cases counter <;> simp [TEEPairMetrics.count])

def oneRegistered : RegionManager :=
  (registerTEEPair ⟨none, none, none⟩ (Time.unixUTC 0, Time.unixUTC 0) [7] (some (.sample [7]))
    (new emptyStorage)).2

/-- An error is counted between the copy of a pass and its write: the record shows none. -/
theorem count_lost :
    let inputs : List MetricsStep := [.snapshot [7] [[7]], countError,
      .collect 0 ⟨none, none⟩ (Time.unixUTC 2, Time.unixUTC 2)]
    let s := run step (.start oneRegistered) inputs
    s.applied ([7], [7]) .consecutiveErrors = 1 ∧
      s.manager.recordedCount ([7], [7]) .consecutiveErrors = 0 := by
  decide +kernel

end RegionManager

end Regions

end Aristo
