import Aristo.Regions.BalancerRuns
import Aristo.Regions.Metrics
import Aristo.Vm.RegionExecution

/-!
# What executions report, and what the selection sees of it

`ExecuteInRegion` of `vm/core.go` with the metrics that it reports to the region manager.  The pair
of the next execution is selected by the balancer, which has records of its own, so nothing that is
reported is seen by the selection (`balancer_run`).

A run is a list of single reports and updates; a whole execution is such a list
(`executeRecording_reports`).
-/

namespace Aristo

open GoBase Call Compute Regions RegionBalancer

namespace Vm

/-! ## Reports -/

/-- `calculateLoadFactor` of `vm/core.go`, without rounding. -/
def executionLoad (execTime : ℤ) : Float64 :=
  .finite (min (((execTime.tdiv 1000000 : ℤ) : ℚ) / 1000) 1)

/-- A report of an execution, with the times that it reads. -/
inductive Report where
  /-- `updateTEEMetrics`. -/
  | teeMetrics (execTime : ℤ) (now : Time)
  /-- `updateTEEError`. -/
  | teeError (now : Time)
  /-- `updateVerificationError`. -/
  | verificationError (now : Time)
  /-- The last update of an execution that succeeds. -/
  | completed (pair : TEEPair) (totalExecTime : ℤ) (checked healthy : Time)

/-- What a report does to the metrics of its pair. -/
def Report.update (pairID : Bytes) : Report → TEEPairMetrics → TEEPairMetrics
  | .teeMetrics execTime now, metrics => { metrics with
      pairID, executionTime := execTime, lastHealthy := now, successRate := .finite 1 }
  | .teeError now, metrics => { metrics with
      pairID, lastHealthCheck := now, successRate := .finite 0, executionTime := 0
      consecutiveErrors := metrics.consecutiveErrors + 1 }
  | .verificationError now, metrics => { metrics with
      pairID, lastHealthCheck := now
      attestationFailures := metrics.attestationFailures + 1
      consecutiveErrors := metrics.consecutiveErrors + 1 }
  | .completed pair totalExecTime checked healthy, metrics => { metrics with
      pairID := pair.id, sgxEndpoint := pair.sgxEndpoint, sevEndpoint := pair.sevEndpoint
      loadFactor := executionLoad totalExecTime, successRate := .finite 1
      executionTime := totalExecTime, lastHealthCheck := checked, lastHealthy := healthy
      pendingTasks := 0 }

/-- What an `UpdateMetrics` meets: the errors of the storage and the time of new metrics. -/
structure Meeting where
  faults : RegionManager.MetricsFaults
  created : Time

/-- `vm.regionManager.UpdateMetrics`, whose error is logged. -/
def updateLogged (meeting : Meeting) (regionID pairID : Bytes)
    (update : TEEPairMetrics → TEEPairMetrics) : Call ShuttleVM Unit := do
  let _ ← Call.attempt (Call.focus ShuttleVM.regionManager
    (fun vm regionManager => { vm with regionManager })
    (RegionManager.updateMetrics meeting.faults meeting.created regionID pairID update))
  return ()

def report (meeting : Meeting) (regionID pairID : Bytes) (r : Report) : Call ShuttleVM Unit :=
  updateLogged meeting regionID pairID (r.update pairID)

/-! ## An execution with its reports -/

/-- What `ExecuteInRegion` does before it asks the nodes. -/
def prepareRegion (env : RegionalEnv) (regionID : Bytes) (action : Verifier.Action)
    (vm : ShuttleVM) :
    Except GoError (TEEPair × NodeClient × NodeClient × Tee.ExecutionRequest) := do
  let health ← (vm.regionManager.getRegionHealth env.missing regionID).mapError
    (.wrap (ascii "failed to get region health"))
  refuse (health.status ≠ ascii "healthy")
    (.plain (ascii "region " ++ regionID ++ ascii " is not healthy: " ++ health.status))
  let pair ← (vm.balancer.selectOptimalPair env.now regionID).mapError
    (.wrap (ascii "failed to select TEE pair"))
  let sgxClient ← computeNode vm pair.sgxEndpoint "SGX" pair.id
  let sevClient ← computeNode vm pair.sevEndpoint "SEV" pair.id
  let req ← regionRequest regionID action
  return (pair, sgxClient, sevClient, req)

/-- The times of an execution, what its updates meet, and which of the two nodes reports first. -/
structure ExecutionTimes where
  sgx : Meeting × ℤ × Time
  sev : Meeting × ℤ × Time
  last : Meeting
  total : ℤ
  checked : Time
  healthy : Time
  sevFirst : Bool

/-- The end of one goroutine: only a result is reported. -/
def reportResult (regionID pairID : Bytes) (times : Meeting × ℤ × Time) :
    Except GoError ProtoResult → Call ShuttleVM Unit
  | .error _ => pure ()
  | .ok _ => report times.1 regionID pairID (.teeMetrics times.2.1 times.2.2)

/-- `ExecuteInRegion` behind the two goroutines. -/
def settle (env : RegionalEnv) (times : ExecutionTimes) (regionID : Bytes) (pair : TEEPair) :
    Except GoError ProtoResult → Except GoError ProtoResult → Call ShuttleVM RegionalResult
  | .error error, _ => do
    report times.last regionID pair.id (.teeError times.checked)
    Call.fail (error.wrap (ascii "SGX execution failed"))
  | .ok _, .error error => do
    report times.last regionID pair.id (.teeError times.checked)
    Call.fail (error.wrap (ascii "SEV execution failed"))
  | .ok sgxResult, .ok sevResult =>
    match acceptResults env regionID pair sgxResult sevResult with
    | .ok result => do
      report times.last regionID pair.id
        (.completed pair times.total times.checked times.healthy)
      return result
    | .err error => do
      report times.last regionID pair.id (.verificationError times.checked)
      Call.fail error
    | .panicked => Call.crash

def runPair (env : RegionalEnv) (times : ExecutionTimes) (regionID : Bytes) (pair : TEEPair)
    (sgx sev : Except GoError ProtoResult) : Call ShuttleVM RegionalResult :=
  if times.sevFirst then do
    reportResult regionID pair.id times.sev sev
    reportResult regionID pair.id times.sgx sgx
    settle env times regionID pair sgx sev
  else do
    reportResult regionID pair.id times.sgx sgx
    reportResult regionID pair.id times.sev sev
    settle env times regionID pair sgx sev

/-- `ExecuteInRegion`, with its reports. -/
def executeRecording (env : RegionalEnv) (times : ExecutionTimes) (regionID : Bytes)
    (action : Verifier.Action) : Call ShuttleVM RegionalResult := do
  let vm ← Call.read
  let (pair, sgxClient, sevClient, req) ← Call.lift (prepareRegion env regionID action vm)
  runPair env times regionID pair (sgxClient.execute req) (sevClient.execute req)

/-! ## Runs -/

/-- `calculateLoadFactor` of `regions/balancer.go`, without rounding. -/
def collectedLoad (executionTime : ℤ) : Float64 :=
  if executionTime = 0 then .finite 0 else executionLoad executionTime

/-- What `CollectMetrics` makes of a record. -/
def collectedRecord (now : Time) (metrics : TEEPairMetrics) : TEEPairMetrics :=
  { metrics with
    loadFactor := collectedLoad metrics.executionTime
    successRate := if metrics.tasksProcessed = 0 then .finite 1 else
      .quotient (metrics.tasksProcessed - metrics.failedTasks).toNat metrics.tasksProcessed.toNat
    lastHealthCheck := now }

inductive FeedbackStep where
  /-- A report of an execution. -/
  | report (meeting : Meeting) (regionID pairID : Bytes) (r : Report)
  /-- Another `UpdateMetrics` of the region manager. -/
  | updateMetrics (meeting : Meeting) (regionID pairID : Bytes)
      (update : TEEPairMetrics → TEEPairMetrics)
  /-- An update of the balancer's own records. -/
  | balance (update : PairUpdate)

namespace FeedbackStep

/-- One check of a health round. -/
def status (regionID pairID : Bytes) (teeType : TEEType) (healthy : Bool) (clock : Time × Time) :
    FeedbackStep :=
  .balance (.replace regionID pairID (statusMetrics pairID teeType healthy clock)
    (statusMetrics_pairID pairID teeType healthy clock))

/-- `CollectMetrics`, for one record. -/
def collect (regionID pairID : Bytes) (now : Time) : FeedbackStep :=
  .balance (.specific regionID pairID (collectedRecord now) fun _ => rfl)

def apply (vm : ShuttleVM) : FeedbackStep → ShuttleVM
  | .report meeting regionID pairID r => (Vm.report meeting regionID pairID r vm).2
  | .updateMetrics meeting regionID pairID update =>
    (updateLogged meeting regionID pairID update vm).2
  | .balance update => { vm with balancer := update.apply vm.balancer }

/-- The update of the balancer that a step is, if it is one. -/
def balancing : FeedbackStep → Option PairUpdate
  | .balance update => some update
  | _ => none

end FeedbackStep

open FeedbackStep

/-- A report goes to the region manager. -/
theorem updateLogged_balancer (meeting : Meeting) (regionID pairID : Bytes)
    (update : TEEPairMetrics → TEEPairMetrics) (vm : ShuttleVM) :
    (updateLogged meeting regionID pairID update vm).2.balancer = vm.balancer := by
  have kept : Call.Maintains (fun after : ShuttleVM => after.balancer = vm.balancer)
      (updateLogged meeting regionID pairID update) := by
    refine maintains_bind (maintains_attempt ?_) fun _ => maintains_pure _
    exact fun _ same => same
  exact kept vm rfl

/-- So a step changes the balancer only by an update of it. -/
theorem balancer_apply (vm : ShuttleVM) (step : FeedbackStep) :
    (step.apply vm).balancer =
      step.balancing.elim vm.balancer fun update => update.apply vm.balancer := by
  cases step with
  | report | updateMetrics => exact updateLogged_balancer _ _ _ _ vm
  | balance => rfl

/-- **What the balancer has after a run** is what its own updates make of it. -/
theorem balancer_run (vm : ShuttleVM) (steps : List FeedbackStep) :
    (run apply vm steps).balancer =
      run PairUpdate.apply vm.balancer
        (steps.filterMap balancing) := by
  induction steps generalizing vm with
  | nil => rfl
  | cons step steps ih =>
    rw [run_cons, ih, balancer_apply, List.filterMap_cons]
    cases step.balancing <;> rfl

/-! ## An execution ends as without its reports, and does nothing but report -/

/-- A call that ends in one way, unless it panics. -/
def Yields {α : Type} (outcome : Outcome α) (call : Call ShuttleVM α) : Prop :=
  ∀ vm, (call vm).1 = outcome ∨ (call vm).1 = .panicked

/-- The steps are reports about the region. -/
def AllReports (regionID : Bytes) (steps : List FeedbackStep) : Prop :=
  ∀ step ∈ steps, ∃ meeting pairID r, step = .report meeting regionID pairID r

/-- What a call does is a list of reports about the region. -/
def Reporting {α : Type} (regionID : Bytes) (call : Call ShuttleVM α) : Prop :=
  ∀ vm, ∃ steps, AllReports regionID steps ∧ (call vm).2 = run apply vm steps

/-- A call that does nothing reports nothing. -/
theorem reports_of_unchanged {α : Type} {regionID : Bytes} {outcome : Outcome α}
    {call : Call ShuttleVM α} (unchanged : ∀ vm, call vm = (outcome, vm)) :
    Yields outcome call ∧ Reporting regionID call := by
  refine ⟨fun vm => Or.inl ?_, fun vm => ⟨[], by simp [AllReports], ?_⟩⟩
  · rw [unchanged]
  · rw [unchanged, run_nil]

/-- A report is one step, -/
theorem report_reports (meeting : Meeting) (regionID pairID : Bytes) (r : Report) :
    Yields (.ok ()) (report meeting regionID pairID r) ∧
      Reporting regionID (report meeting regionID pairID r) := by
  refine ⟨fun vm => ?_, fun _ => ⟨[.report meeting regionID pairID r], by simp [AllReports], rfl⟩⟩
  rw [report, updateLogged, bind_apply, Call.attempt]
  rcases Call.focus ShuttleVM.regionManager (fun vm regionManager => { vm with regionManager })
    (RegionManager.updateMetrics meeting.faults meeting.created regionID pairID _) vm with
    ⟨outcome, after⟩
  cases outcome with
  | ok | err => exact Or.inl rfl
  | panicked => exact Or.inr rfl

/-- and one call after the other has the reports of both. -/
theorem reports_bind {α : Type} {regionID : Bytes} {outcome : Outcome α}
    {call : Call ShuttleVM Unit} {next : Unit → Call ShuttleVM α}
    (first : Yields (.ok ()) call ∧ Reporting regionID call)
    (second : Yields outcome (next ()) ∧ Reporting regionID (next ())) :
    Yields outcome (call >>= next) ∧ Reporting regionID (call >>= next) := by
  rw [Yields, Reporting, ← forall_and]
  intro vm
  have ends := first.1 vm
  obtain ⟨steps, reports, reached⟩ := first.2 vm
  rw [bind_apply]
  rcases h : call vm with ⟨ended, after⟩
  rw [h] at ends reached
  rcases ends with ended | ended
  · cases ended
    obtain ⟨more, reports', reached'⟩ := second.2 after
    refine ⟨second.1 after, steps ++ more, ?_, ?_⟩
    · intro step mem
      exact (List.mem_append.mp mem).elim (reports step) (reports' step)
    · rw [run_append, ← reached]
      exact reached'
  · cases ended
    exact ⟨Or.inr rfl, steps, reports, reached⟩

theorem reportResult_reports (regionID pairID : Bytes) (times : Meeting × ℤ × Time)
    (result : Except GoError ProtoResult) :
    Yields (.ok ()) (reportResult regionID pairID times result) ∧
      Reporting regionID (reportResult regionID pairID times result) := by
  cases result with
  | error _ => exact reports_of_unchanged fun _ => rfl
  | ok _ => exact report_reports _ _ _ _

/-- What the second half comes to, without the reports. -/
def settled (env : RegionalEnv) (regionID : Bytes) (pair : TEEPair) :
    Except GoError ProtoResult → Except GoError ProtoResult → Outcome RegionalResult
  | .error error, _ => .err (error.wrap (ascii "SGX execution failed"))
  | .ok _, .error error => .err (error.wrap (ascii "SEV execution failed"))
  | .ok sgxResult, .ok sevResult => acceptResults env regionID pair sgxResult sevResult

/-- An execution without its reports, in two parts. -/
theorem executeInRegion_eq (env : RegionalEnv) (regionID : Bytes) (action : Verifier.Action)
    (vm : ShuttleVM) :
    executeInRegion env regionID action vm =
      match prepareRegion env regionID action vm with
      | .error error => .err error
      | .ok (pair, sgxClient, sevClient, req) =>
        settled env regionID pair (sgxClient.execute req) (sevClient.execute req) := by
  have results : regionResults env regionID action vm =
      (prepareRegion env regionID action vm >>= fun prepared => do
        let sgxResult ← (prepared.2.1.execute prepared.2.2.2).mapError
          (.wrap (ascii "SGX execution failed"))
        let sevResult ← (prepared.2.2.1.execute prepared.2.2.2).mapError
          (.wrap (ascii "SEV execution failed"))
        return (prepared.1, sgxResult, sevResult)) := by
    simp only [regionResults, prepareRegion, bind_assoc, pure_bind]
  rw [executeInRegion, results]
  cases prepareRegion env regionID action vm with
  | error => rfl
  | ok prepared =>
    obtain ⟨pair, sgxClient, sevClient, req⟩ := prepared
    cases sgx : sgxClient.execute req with
    | error => simp [sgx, settled, Except.mapError, bind, Except.bind]
    | ok _ =>
      cases sev : sevClient.execute req with
      | error => simp [sgx, sev, settled, Except.mapError, bind, Except.bind]
      | ok => simp [sgx, sev, settled, Except.mapError, bind, Except.bind, pure, Except.pure]

section

variable (env : RegionalEnv) (times : ExecutionTimes) (regionID : Bytes)

/-- The second half ends in its way, and reports. -/
theorem settle_reports (pair : TEEPair) (sgx sev : Except GoError ProtoResult) :
    Yields (settled env regionID pair sgx sev) (settle env times regionID pair sgx sev) ∧
      Reporting regionID (settle env times regionID pair sgx sev) := by
  have reported := report_reports times.last regionID pair.id
  cases sgx with
  | error _ => exact reports_bind (reported _) (reports_of_unchanged fun _ => rfl)
  | ok sgxResult =>
    cases sev with
    | error _ => exact reports_bind (reported _) (reports_of_unchanged fun _ => rfl)
    | ok sevResult =>
      simp only [settled, settle]
      cases acceptResults env regionID pair sgxResult sevResult with
      | ok _ | err _ => exact reports_bind (reported _) (reports_of_unchanged fun _ => rfl)
      | panicked => exact reports_of_unchanged fun _ => rfl

/-- So does an execution on a pair. -/
theorem runPair_reports (pair : TEEPair) (sgx sev : Except GoError ProtoResult) :
    Yields (settled env regionID pair sgx sev) (runPair env times regionID pair sgx sev) ∧
      Reporting regionID (runPair env times regionID pair sgx sev) := by
  have first := reportResult_reports regionID pair.id times.sgx sgx
  have second := reportResult_reports regionID pair.id times.sev sev
  have rest := settle_reports env times regionID pair sgx sev
  unfold runPair
  split
  · exact reports_bind second (reports_bind first rest)
  · exact reports_bind first (reports_bind second rest)

variable (action : Verifier.Action) (vm : ShuttleVM)

/-- **A whole execution** ends in its way, and reports. -/
theorem executeRecording_reports :
    ((executeRecording env times regionID action vm).1 = executeInRegion env regionID action vm ∨
        (executeRecording env times regionID action vm).1 = .panicked) ∧
      ∃ steps, AllReports regionID steps ∧
        (executeRecording env times regionID action vm).2 = run apply vm steps := by
  rw [executeInRegion_eq, executeRecording, bind_of_ok (read_apply vm)]
  cases prepared : prepareRegion env regionID action vm with
  | error =>
    rw [lift_bind_of_error rfl]
    exact ⟨Or.inl rfl, [], by simp [AllReports], rfl⟩
  | ok found =>
    rw [lift_bind_of_ok rfl]
    have reports := runPair_reports env times regionID found.1 (found.2.1.execute found.2.2.2)
      (found.2.2.1.execute found.2.2.2)
    exact ⟨reports.1 vm, reports.2 vm⟩

/-- With its reports an execution ends as without them, unless a report panics. -/
theorem executeRecording_outcome :
    (executeRecording env times regionID action vm).1 = executeInRegion env regionID action vm ∨
      (executeRecording env times regionID action vm).1 = .panicked :=
  (executeRecording_reports env times regionID action vm).1

/-- What no report changes, an execution does not change. -/
theorem executeRecording_keeps {ν : Type} (view : ShuttleVM → ν)
    (kept : ∀ meeting pairID r, Call.Keeps view (report meeting regionID pairID r)) :
    view (executeRecording env times regionID action vm).2 = view vm := by
  obtain ⟨-, steps, reports, reached⟩ := executeRecording_reports env times regionID action vm
  rw [reached]
  have step : ∀ after (step : FeedbackStep),
      (∃ meeting pairID r, step = .report meeting regionID pairID r) →
        view after = view vm → view (step.apply after) = view vm := by
    rintro after _ ⟨meeting, pairID, r, rfl⟩ same
    exact (kept meeting pairID r after).trans same
  exact run_invariant step rfl reports

theorem executeRecording_balancer :
    (executeRecording env times regionID action vm).2.balancer = vm.balancer :=
  executeRecording_keeps env times regionID action vm _ fun _ _ _ => updateLogged_balancer _ _ _ _

/-- **A pair that was selected for an execution** is selected again by the same clock, however the
execution ends. -/
theorem reselected_at_once :
    (executeRecording env times regionID action vm).2.balancer.selectOptimalPair env.now regionID =
      vm.balancer.selectOptimalPair env.now regionID := by
  rw [executeRecording_balancer]

end

/-! ## Whether a failure keeps its pair from being selected -/

inductive Event where
  | succeeded
  | failed
  | unverified
  | updated
  | balanced
deriving DecidableEq

def Report.event : Report → Event
  | .teeMetrics _ _ => .succeeded
  | .teeError _ => .failed
  | .verificationError _ => .unverified
  | .completed _ _ _ _ => .succeeded

namespace FeedbackStep

def target : FeedbackStep → Bytes × Bytes
  | .report _ regionID pairID _ => (regionID, pairID)
  | .updateMetrics _ regionID pairID _ => (regionID, pairID)
  | .balance update => update.target

def event : FeedbackStep → Event
  | .report _ _ _ r => r.event
  | .updateMetrics _ _ _ _ => .updated
  | .balance _ => .balanced

/-- The step records something: `UpdateMetrics` refuses a region that it does not know, and
`UpdateSpecificPairMetrics` a pair that is not there. -/
def Records (vm : ShuttleVM) : FeedbackStep → Prop
  | .report _ regionID _ _ => vm.regionManager.Configured regionID
  | .updateMetrics _ regionID _ _ => vm.regionManager.Configured regionID
  | .balance update => (update.result (vm.balancer.record update.target)).isSome

instance decidableRecords (vm : ShuttleVM) : (step : FeedbackStep) → Decidable (step.Records vm)
  | .report _ regionID _ _ => inferInstanceAs (Decidable (vm.regionManager.Configured regionID))
  | .updateMetrics _ regionID _ _ =>
    inferInstanceAs (Decidable (vm.regionManager.Configured regionID))
  | .balance update =>
    inferInstanceAs (Decidable ((update.result (vm.balancer.record update.target)).isSome))

end FeedbackStep

/-- Neither a failed execution nor a step that records nothing of a pair changes the balancer's
record of it. -/
theorem record_apply_of_quiet {vm : ShuttleVM} {step : FeedbackStep} {target : Bytes × Bytes}
    (quiet : step.event = .failed ∨ ¬ (step.Records vm ∧ step.target = target)) :
    (step.apply vm).balancer.record target = vm.balancer.record target := by
  cases step with
  | report | updateMetrics => exact congrArg (·.record target) (balancer_apply vm _)
  | balance update =>
    rw [apply, record_apply]
    split
    · rename_i here
      subst here
      -- nothing is recorded of the pair, so there was no record to update
      have missing : update.result (vm.balancer.record update.target) = none := by
        rw [← Option.not_isSome_iff_eq_none]
        exact fun present => quiet.resolve_left nofun ⟨present, rfl⟩
      rw [missing]
      cases update with
      | replace => cases missing
      | specific => exact (Option.map_eq_none_iff.mp missing).symm
    · rfl

/-- A machine, and the most recent event that was recorded of each pair. -/
structure Observed where
  vm : ShuttleVM
  last : Bytes × Bytes → Option Event

namespace Observed

def start (vm : ShuttleVM) : Observed :=
  ⟨vm, fun _ => none⟩

def step (s : Observed) (input : FeedbackStep) : Observed where
  vm := input.apply s.vm
  last := if input.Records s.vm then Function.update s.last input.target (some input.event)
    else s.last

/-- What is observed does not change the run. -/
theorem run_vm (s : Observed) (steps : List FeedbackStep) :
    (run step s steps).vm = run apply s.vm steps := by
  induction steps generalizing s with
  | nil => rfl
  | cons input steps ih => exact ih (s.step input)

/-- A pair whose most recent event is a failed execution is not selected, with a required success
rate that is not negative. -/
def FeedbackReaches (now : Bytes → Time) (regionID pairID : Bytes) (s : Observed) : Prop :=
  .finite 0 ≤ s.vm.balancer.thresholds.minSuccessRate →
    s.last (regionID, pairID) = some .failed →
      ∀ chosen, s.vm.balancer.selectOptimalPair now regionID = .ok chosen → chosen.id ≠ pairID

/-- **When the failure of a pair keeps it from being selected**: exactly when the record that the
balancer's own updates have left of the pair does so, which no execution has written. -/
theorem feedbackReaches_iff (vm : ShuttleVM) (steps : List FeedbackStep) (now : Bytes → Time)
    (regionID pairID : Bytes) :
    FeedbackReaches now regionID pairID (run step (start vm) steps) ↔
      (.finite 0 ≤ vm.balancer.thresholds.minSuccessRate →
        (run step (start vm) steps).last (regionID, pairID) = some .failed →
          let rb := run PairUpdate.apply vm.balancer
            (steps.filterMap balancing)
          ∀ metrics, rb.record (regionID, pairID) = some metrics →
            ¬ rb.OptimalInPlace now regionID metrics) := by
  have reached : (run step (start vm) steps).vm.balancer =
      run PairUpdate.apply vm.balancer
        (steps.filterMap balancing) := by
    rw [run_vm]
    exact balancer_run vm steps
  unfold FeedbackReaches
  rw [reached, thresholds_run]
  refine imp_congr_right fun _ => imp_congr_right fun _ => ?_
  constructor
  · intro avoided rb metrics found optimal
    obtain ⟨chosen, selects, same⟩ :=
      selects_iff_record.mpr ⟨metrics, found, optimal⟩
    exact avoided chosen selects same
  · intro outranked chosen selects same
    obtain ⟨metrics, found, optimal⟩ :=
      selects_iff_record.mp ⟨chosen, selects, same⟩
    exact outranked metrics found optimal

/-- Since the execution of a pair failed, the balancer's record of it has not changed. -/
theorem record_since_failure {vm : ShuttleVM} {steps : List FeedbackStep}
    {target : Bytes × Bytes} (failed : (run step (start vm) steps).last target = some .failed) :
    ∃ earlier failure later, steps = earlier ++ failure :: later ∧ failure.target = target ∧
      failure.event = .failed ∧
      (run apply vm steps).balancer.record target =
        (run apply vm earlier).balancer.record target := by
  induction steps using List.reverseRecOn with
  | nil => cases failed
  | append_singleton steps input ih =>
    have before : (run step (start vm) steps).vm = run apply vm steps :=
      run_vm (start vm) steps
    rw [run_append] at failed
    change (step (run step (start vm) steps) input).last target = some .failed at failed
    have after : run apply vm (steps ++ [input]) =
        input.apply (run apply vm steps) := run_append _ _ _ _
    rw [after, ← before]
    by_cases recorded : input.Records (run step (start vm) steps).vm ∧ input.target = target
    · -- this step is the failure, and a failure is a report
      obtain ⟨records, rfl⟩ := recorded
      simp only [step, if_pos records, Function.update_self, Option.some.injEq] at failed
      refine ⟨steps, input, [], rfl, rfl, failed, ?_⟩
      rw [record_apply_of_quiet (Or.inl failed), before]
    · have kept : (run step (start vm) steps).last target = some .failed := by
        by_cases records : input.Records (run step (start vm) steps).vm
        · have other : target ≠ input.target := fun same => recorded ⟨records, same.symm⟩
          simpa only [step, if_pos records, Function.update_of_ne other] using failed
        · simpa only [step, if_neg records] using failed
      obtain ⟨earlier, failure, later, split, named, event, same⟩ := ih kept
      refine ⟨earlier, failure, later ++ [input], by rw [split]; simp, named, event, ?_⟩
      rw [record_apply_of_quiet (Or.inr recorded), before, same]

/-- Without endpoints nothing can be executed, so the record has both. -/
def servingRecord : TEEPairMetrics where
  pairID := [8]
  sgxEndpoint := [9]
  sevEndpoint := [10]
  lastHealthCheck := Time.unixUTC 0
  lastHealthy := Time.unixUTC 0
  successRate := .finite 1
  loadFactor := .finite 0

def oneRegion : ShuttleVM where
  regionManager := { RegionManager.new RegionManager.emptyStorage with
    configs := (∅ : GoMap Bytes (Option RegionConfig)).insert [7] (some (.sample [7])) }
  balancer := .new .default
  computeNodes := ∅

/-- Two pairs are recorded, the execution of the first fails, and the second gets a new record. -/
def failing : List FeedbackStep :=
  [.balance (.replace [7] [8] servingRecord rfl),
    .balance (.replace [7] [9] { servingRecord with pairID := [9] } rfl),
    .report ⟨⟨none, none⟩, Time.unixUTC 1⟩ [7] [8] (.teeError (Time.unixUTC 1)),
    .balance (.replace [7] [9]
      { servingRecord with pairID := [9], lastHealthy := Time.unixUTC 2 } rfl)]

theorem record_since_failure_twoPairs :
    (run apply oneRegion failing).balancer.record ([7], [8]) = some servingRecord ∧
      ∃ earlier failure later, failing = earlier ++ failure :: later ∧
        failure.target = ([7], [8]) ∧ failure.event = .failed ∧
        (run apply oneRegion failing).balancer.record ([7], [8]) =
          (run apply oneRegion earlier).balancer.record ([7], [8]) :=
  ⟨by decide +kernel, record_since_failure (by decide +kernel)⟩

/-- A second after the execution of the only pair failed, the pair is selected. -/
theorem not_feedbackReaches_oneRegion :
    ¬ FeedbackReaches (fun _ => Time.unixUTC 1) [7] [8]
      (run step (start oneRegion)
        [.balance (.replace [7] [8] servingRecord rfl),
          .report ⟨⟨none, none⟩, Time.unixUTC 1⟩ [7] [8] (.teeError (Time.unixUTC 1))]) := by
  intro reaches
  refine reaches (by decide +kernel) (by decide +kernel) (selected servingRecord)
    ?_ rfl
  decide +kernel

end Observed

end Vm

end Aristo
