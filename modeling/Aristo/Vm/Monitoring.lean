import Aristo.Vm.ExecutionFeedback

/-!
# What the monitors see

`MonitorTEEHealth` of `vm/core.go` goes over the regions that `ListRegions` finds in `configs`, but
`GetTEEPairs` looks for their pairs in `cache`.  `UpdateCache` is never called, and all other calls
leave an empty cache empty.  So no pair is ever checked, the balancer gets no record, and nothing is
executed in any region (`executeInRegion_run_new`).
-/

namespace Aristo

open GoBase Call Compute Regions RegionManager

namespace Vm

/-! ## Rounds of the monitor -/

/-- One region in a round of `MonitorTEEHealth`; `clock` has the readings for the pair at each
place. -/
def monitorRegion (clock : ℕ → (Time × Time) × (Time × Time)) (regionID : Bytes) :
    Call ShuttleVM Unit := do
  match ← Call.attempt (Call.focus ShuttleVM.regionManager
      (fun vm regionManager => { vm with regionManager }) (getTEEPairs regionID)) with
  | .error _ => return ()
  | .ok pairs => forM pairs.zipIdx fun (pair, i) => Call.modify fun vm => { vm with
      balancer := monitorPair (checkTEEHealth vm.computeNodes pair.sgxEndpoint)
        (checkTEEHealth vm.computeNodes pair.sevEndpoint) regionID pair (clock i).1 (clock i).2
        vm.balancer }

/-- A round of `MonitorTEEHealth`, over what `ListRegions` has returned. -/
def monitorTEEHealth (clock : Bytes → ℕ → (Time × Time) × (Time × Time)) (regions : List Bytes) :
    Call ShuttleVM Unit :=
  forM regions fun regionID => monitorRegion (clock regionID) regionID

/-! ## Runs -/

/-- Something that the VM or one of its goroutines does. -/
inductive Activity where
  | configure (c : ConfigCall)
  /-- `GetRegionConfig`, which may not return. -/
  | getRegionConfig (missing : Option GoError) (regionID : Bytes)
  | monitor (clock : Bytes → ℕ → (Time × Time) × (Time × Time)) (regions : List Bytes)
  /-- `UpdateSpecificPairMetrics`, which is also what `CollectMetrics` does to each record. -/
  | updateSpecific (regionID pairID : Bytes) (updateFn : TEEPairMetrics → TEEPairMetrics)
      (keeps : ∀ metrics, (updateFn metrics).pairID = metrics.pairID)
  /-- `ExecuteInRegion`, with its reports. -/
  | execute (env : RegionalEnv) (times : ExecutionTimes) (regionID : Bytes)
      (action : Verifier.Action)
  /-- Anything else, which leaves the cache and the balancer alone. -/
  | other (change : ShuttleVM → ShuttleVM)
      (cache : ∀ vm, (change vm).regionManager.cache = vm.regionManager.cache)
      (balancer : ∀ vm, (change vm).balancer = vm.balancer)

namespace Activity

def apply (vm : ShuttleVM) : Activity → ShuttleVM
  | configure c => { vm with regionManager := c.step vm.regionManager }
  | getRegionConfig missing regionID =>
    match vm.regionManager.getRegionConfig missing regionID with
    | none => vm
    | some (_, regionManager) => { vm with regionManager }
  | monitor clock regions => (monitorTEEHealth clock regions vm).2
  | updateSpecific regionID pairID updateFn keeps => { vm with
      balancer := (vm.balancer.updateSpecificPairMetrics regionID pairID updateFn keeps).2 }
  | execute env times regionID action => (executeRecording env times regionID action vm).2
  | other change _ _ => change vm

end Activity

theorem executeRecording_cache (env : RegionalEnv) (times : ExecutionTimes) (regionID : Bytes)
    (action : Verifier.Action) (vm : ShuttleVM) :
    (executeRecording env times regionID action vm).2.regionManager.cache =
      vm.regionManager.cache := by
  refine executeRecording_keeps env times regionID action vm (fun vm => vm.regionManager.cache)
    fun _ _ _ => ?_
  refine keeps_bind (keeps_attempt fun vm => ?_) fun _ => keeps_pure _
  exact keeps_updateMetrics (fun _ _ => rfl) (fun _ _ => rfl) (fun _ _ => rfl) _ _ _
    vm.regionManager

/-- No pair can be found: neither by its region nor by its record. -/
structure Dormant (vm : ShuttleVM) : Prop where
  cache : vm.regionManager.cache = ∅
  records : vm.balancer.pairMetrics = ∅

namespace Dormant

variable {vm : ShuttleVM} (dormant : Dormant vm)

include dormant

theorem monitor (clock : Bytes → ℕ → (Time × Time) × (Time × Time)) (regions : List Bytes) :
    (monitorTEEHealth clock regions vm).2 = vm := by
  have unseen (regionID : Bytes) : monitorRegion (clock regionID) regionID vm = (.ok (), vm) := by
    simp [monitorRegion, Call.focus, getTEEPairs, bind_apply, dormant.cache, Call.attempt]
  induction regions with
  | nil => rfl
  | cons regionID regions ih =>
    rw [monitorTEEHealth, List.forM_cons, bind_of_ok (unseen regionID)]
    exact ih

theorem apply (activity : Activity) : Dormant (activity.apply vm) := by
  cases activity with
  | configure c => exact ⟨(effect_call c _).cache dormant.cache, dormant.records⟩
  | getRegionConfig missing regionID =>
    have waits : vm.regionManager.getRegionConfig missing regionID = none :=
      getRegionConfig_of_uncached missing (by rw [dormant.cache]; rfl)
    rw [Activity.apply, waits]
    exact dormant
  | monitor clock regions =>
    rw [Activity.apply, dormant.monitor]
    exact dormant
  | updateSpecific regionID pairID updateFn keeps =>
    refine ⟨dormant.cache, ?_⟩
    simp [Activity.apply, RegionBalancer.updateSpecificPairMetrics, dormant.records]
  | execute env times regionID action =>
    refine ⟨(executeRecording_cache env times regionID action vm).trans dormant.cache, ?_⟩
    rw [Activity.apply, executeRecording_balancer, dormant.records]
  | other change cache balancer =>
    exact ⟨(cache vm).trans dormant.cache, by rw [Activity.apply, balancer, dormant.records]⟩

/-- Without records the execution ends before a node is asked. -/
theorem executeInRegion (env : RegionalEnv) (regionID : Bytes) (action : Verifier.Action) :
    ∃ error, ∀ computeNodes,
      executeInRegion env regionID action { vm with computeNodes } = .err error := by
  have unselected : vm.balancer.selectOptimalPair env.now regionID =
      .error (.plain (ascii "no TEE pairs available for region " ++ regionID)) := by
    rw [RegionBalancer.selectOptimalPair, RegionBalancer.pairs, dormant.records]
    rfl
  simp only [executeInRegion_eq, prepareRegion, unselected, refuse]
  cases vm.regionManager.getRegionHealth env.missing regionID with
  | error => exact ⟨_, fun _ => rfl⟩
  | ok health =>
    by_cases healthy : health.status = ascii "healthy"
    · simp [Except.mapError, healthy, bind, Except.bind]
    · simp [Except.mapError, healthy, bind, Except.bind]

end Dormant

/-- **Nothing is ever executed in a region**: whatever a VM and its goroutines have done since it
was made, `ExecuteInRegion` fails, in the same way whichever compute nodes there are. -/
theorem executeInRegion_run_new (store : Regions.Storage) (computeNodes : GoMap Bytes NodeClient)
    (activities : List Activity) (env : RegionalEnv) (regionID : Bytes)
    (action : Verifier.Action) :
    let vm := run Activity.apply ⟨.new store, .new .default, computeNodes⟩ activities
    ∃ error, ∀ computeNodes,
      executeInRegion env regionID action { vm with computeNodes } = .err error := by
  have start : Dormant ⟨.new store, .new .default, computeNodes⟩ := ⟨rfl, rfl⟩
  have step : ∀ vm activity, Dormant vm → Dormant (Activity.apply vm activity) :=
    fun _ activity dormant => dormant.apply activity
  exact (run_preserves step start activities).executeInRegion env regionID action

end Vm

end Aristo
