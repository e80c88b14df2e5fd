import Aristo.Regions.Config

/-!
# The task counters of a TEE pair

`UpdateMetrics`, `updateStatus` and `ResetMetrics` of `regions/types.go`.  A task that succeeds
refreshes the success rate only, a task that fails the error rate only, so from the first failure
on one of the two is out of date (`upToDate_along_iff`).

The counters and the average are described by the reports so far (`Tallied`), which every further
report extends (`Tallied.report`).
-/

namespace Aristo

open GoBase List

namespace Regions

/-- What `UpdateMetrics` is given, and the time that it reads. -/
structure TaskReport where
  success : Bool
  /-- A duration in nanoseconds. -/
  duration : ℤ
  now : Time

def TaskReport.failed (report : TaskReport) : Bool :=
  !report.success

namespace TEEPairMetrics

/-- The switch of `updateStatus`, with 0.1 and 0.9 as `float64`s. -/
def statusFor (consecutiveErrors : UInt64) (errorRate successRate : Float64) : Bytes :=
  if 3 ≤ consecutiveErrors then ascii "failed"
  else if .finite (3602879701896397 / 36028797018963968) < errorRate ∨
      successRate < .finite (8106479329266893 / 9007199254740992) then ascii "degraded"
  else ascii "active"

def updateStatus (m : TEEPairMetrics) : TEEPairMetrics :=
  { m with status := statusFor m.consecutiveErrors m.errorRate m.successRate }

/-- A task that succeeded, after it has been counted. -/
def succeed (now : Time) (m : TEEPairMetrics) : TEEPairMetrics :=
  { m with
    consecutiveErrors := 0
    lastHealthy := now
    successRate :=
      .quotient (m.tasksProcessed - m.failedTasks).toNat m.tasksProcessed.toNat }

/-- A task that failed, after it has been counted. -/
def fail (m : TEEPairMetrics) : TEEPairMetrics :=
  { m with
    failedTasks := m.failedTasks + 1
    consecutiveErrors := m.consecutiveErrors + 1
    errorRate := .quotient (m.failedTasks + 1).toNat m.tasksProcessed.toNat }

/-- The new average.  Durations are added as `int64`s, and an average of zero counts as none. -/
def averaged (average duration : ℤ) : ℤ :=
  if average = 0 then duration else ((average + duration).bmod (2 ^ 64)).tdiv 2

def updateMetrics (m : TEEPairMetrics) (report : TaskReport) : TEEPairMetrics :=
  let counted := { m with tasksProcessed := m.tasksProcessed + 1 }
  let judged := if report.success then counted.succeed report.now else counted.fail
  updateStatus
    { judged with averageTaskTime := averaged judged.averageTaskTime report.duration }

def resetMetrics (m : TEEPairMetrics) : TEEPairMetrics :=
  { m with
    tasksProcessed := 0
    failedTasks := 0
    consecutiveErrors := 0
    successRate := .finite 1
    errorRate := .finite 0
    averageTaskTime := 0
    pendingTasks := 0
    status := ascii "active" }

/-! ## One report -/

section Fields

variable (m : TEEPairMetrics) (report : TaskReport)

@[simp] theorem tasksProcessed_updateMetrics :
    (m.updateMetrics report).tasksProcessed = m.tasksProcessed + 1 := by
  unfold updateMetrics
  cases report.success <;> rfl

@[simp] theorem failedTasks_updateMetrics :
    (m.updateMetrics report).failedTasks =
      if report.success then m.failedTasks else m.failedTasks + 1 := by
  unfold updateMetrics
  cases report.success <;> rfl

@[simp] theorem consecutiveErrors_updateMetrics :
    (m.updateMetrics report).consecutiveErrors =
      if report.success then 0 else m.consecutiveErrors + 1 := by
  unfold updateMetrics
  cases report.success <;> rfl

theorem successRate_updateMetrics :
    (m.updateMetrics report).successRate =
      if report.success then
        .quotient (m.tasksProcessed + 1 - m.failedTasks).toNat (m.tasksProcessed + 1).toNat
      else m.successRate := by
  unfold updateMetrics
  cases report.success <;> rfl

theorem errorRate_updateMetrics :
    (m.updateMetrics report).errorRate =
      if report.success then m.errorRate
      else .quotient (m.failedTasks + 1).toNat (m.tasksProcessed + 1).toNat := by
  unfold updateMetrics
  cases report.success <;> rfl

@[simp] theorem averageTaskTime_updateMetrics :
    (m.updateMetrics report).averageTaskTime = averaged m.averageTaskTime report.duration := by
  unfold updateMetrics
  cases report.success <;> rfl

theorem status_updateMetrics :
    (m.updateMetrics report).status =
      statusFor (m.updateMetrics report).consecutiveErrors (m.updateMetrics report).errorRate
        (m.updateMetrics report).successRate :=
  rfl

end Fields

/-- The status is failed exactly after three failures in a row. -/
theorem statusFor_eq_failed_iff {consecutiveErrors : UInt64} {errorRate successRate : Float64} :
    statusFor consecutiveErrors errorRate successRate = ascii "failed" ↔
      3 ≤ consecutiveErrors := by
  unfold statusFor
  split
  · rename_i many
    exact iff_of_true rfl many
  · rename_i few
    refine iff_of_false ?_ few
    split <;> decide

/-! ## Rates -/

/-- The rates are those of the counters, add up to one, and are what the status says. -/
structure UpToDate (m : TEEPairMetrics) : Prop where
  successRate : m.successRate =
    .finite ((m.tasksProcessed.toNat - m.failedTasks.toNat) / m.tasksProcessed.toNat)
  errorRate : m.errorRate = .finite (m.failedTasks.toNat / m.tasksProcessed.toNat)
  sum : ∃ s e, m.successRate = .finite s ∧ m.errorRate = .finite e ∧ s + e = 1
  status : m.status =
    statusFor m.consecutiveErrors (.finite (m.failedTasks.toNat / m.tasksProcessed.toNat))
      (.finite ((m.tasksProcessed.toNat - m.failedTasks.toNat) / m.tasksProcessed.toNat))

/-- Nothing has failed since the last reset. -/
structure Unfailed (m : TEEPairMetrics) : Prop where
  failedTasks : m.failedTasks = 0
  successRate : m.successRate = .finite 1
  errorRate : m.errorRate = .finite 0

/-- A counter with room counts one more. -/
theorem toNat_counted {counter : UInt64} (room : counter.toNat + 1 < 2 ^ 64) :
    (counter + 1).toNat = counter.toNat + 1 := by
  rw [UInt64.toNat_add]
  exact Nat.mod_eq_of_lt room

variable {m : TEEPairMetrics}

/-- Another success leaves the rates at one and zero, -/
theorem Unfailed.succeeded (unfailed : Unfailed m) {report : TaskReport}
    (success : report.success = true) (room : m.tasksProcessed.toNat + 1 < 2 ^ 64) :
    Unfailed (m.updateMetrics report) where
  failedTasks := by rw [failedTasks_updateMetrics, if_pos success, unfailed.failedTasks]
  successRate := by
    rw [successRate_updateMetrics, if_pos success, unfailed.failedTasks, UInt64.sub_zero,
      toNat_counted room, Float64.quotient, if_neg (Nat.succ_ne_zero _),
      div_self (Nat.cast_ne_zero.mpr (Nat.succ_ne_zero _))]
  errorRate := by rw [errorRate_updateMetrics, if_pos success, unfailed.errorRate]

/-- which is what the counters say. -/
theorem Unfailed.upToDate (unfailed : Unfailed m) (some : m.tasksProcessed.toNat ≠ 0)
    (status : m.status = statusFor m.consecutiveErrors m.errorRate m.successRate) : UpToDate m := by
  have nonzero : (m.tasksProcessed.toNat : ℚ) ≠ 0 := Nat.cast_ne_zero.mpr some
  have failures : (m.failedTasks.toNat : ℚ) = 0 := by
    rw [unfailed.failedTasks]
    rfl
  have success : (1 : ℚ) =
      (m.tasksProcessed.toNat - m.failedTasks.toNat) / m.tasksProcessed.toNat := by
    rw [failures, sub_zero, div_self nonzero]
  have error : (0 : ℚ) = m.failedTasks.toNat / m.tasksProcessed.toNat := by
    rw [failures, zero_div]
  refine ⟨?_, ?_, ⟨1, 0, unfailed.successRate, unfailed.errorRate, add_zero 1⟩, ?_⟩
  · rw [unfailed.successRate, success]
  · rw [unfailed.errorRate, error]
  · rw [status, unfailed.successRate, unfailed.errorRate, ← success, ← error]

/-- **One report** after successes leaves the rates up to date exactly when it is another success
that the counter has room for. -/
theorem Unfailed.upToDate_iff (unfailed : Unfailed m) (report : TaskReport) :
    UpToDate (m.updateMetrics report) ↔
      report.success = true ∧ m.tasksProcessed.toNat + 1 < 2 ^ 64 := by
  constructor
  · rintro ⟨successRate, errorRate, -, -⟩
    rw [tasksProcessed_updateMetrics] at successRate errorRate
    have room : m.tasksProcessed.toNat + 1 < 2 ^ 64 := by
      by_contra wrap
      have wrapped : (m.tasksProcessed + 1).toNat = 0 := by
        have bound := m.tasksProcessed.toNat_lt
        rw [UInt64.toNat_add, show (1 : UInt64).toNat = 1 from rfl]
        omega
      -- one of the two rates has just been divided by zero
      by_cases success : report.success = true
      · rw [successRate_updateMetrics, if_pos success, wrapped] at successRate
        exact Float64.quotient_zero_ne_finite _ _ successRate
      · rw [errorRate_updateMetrics, if_neg success, wrapped] at errorRate
        exact Float64.quotient_zero_ne_finite _ _ errorRate
    refine ⟨?_, room⟩
    by_contra failure
    rw [successRate_updateMetrics, if_neg failure, unfailed.successRate, failedTasks_updateMetrics,
      if_neg failure, unfailed.failedTasks, toNat_counted room] at successRate
    have rate := Float64.finite.inj successRate
    have nonzero : ((m.tasksProcessed.toNat + 1 : ℕ) : ℚ) ≠ 0 :=
      Nat.cast_ne_zero.mpr (Nat.succ_ne_zero _)
    rw [eq_div_iff nonzero, one_mul] at rate
    -- the stale rate says that none of the tasks failed
    have none : ((0 + 1 : UInt64).toNat : ℚ) = 0 := sub_eq_self.mp rate.symm
    rw [show (0 + 1 : UInt64).toNat = 1 from rfl, Nat.cast_one] at none
    exact one_ne_zero none
  · rintro ⟨success, room⟩
    refine (unfailed.succeeded success room).upToDate ?_ (status_updateMetrics m report)
    rw [tasksProcessed_updateMetrics, toNat_counted room]
    exact Nat.succ_ne_zero _

/-- The rates along a run of reports. -/
theorem Unfailed.along_upToDate_iff (unfailed : Unfailed m) (reports : List TaskReport) :
    Along updateMetrics (fun m report => UpToDate (m.updateMetrics report)) m reports ↔
      (∀ report ∈ reports, report.success = true) ∧
        m.tasksProcessed.toNat + reports.length < 2 ^ 64 := by
  induction reports generalizing m with
  | nil =>
    refine iff_of_true (along_nil _ _ _) ⟨fun _ mem => absurd mem not_mem_nil, ?_⟩
    exact m.tasksProcessed.toNat_lt
  | cons report reports ih =>
    rw [along_cons_iff, unfailed.upToDate_iff, forall_mem_cons, length_cons]
    constructor
    · rintro ⟨⟨success, room⟩, rest⟩
      obtain ⟨successes, fits⟩ := (ih (unfailed.succeeded success room)).mp rest
      rw [tasksProcessed_updateMetrics, toNat_counted room] at fits
      exact ⟨⟨success, successes⟩, by omega⟩
    · rintro ⟨⟨success, successes⟩, fits⟩
      have room : m.tasksProcessed.toNat + 1 < 2 ^ 64 := by omega
      refine ⟨⟨success, room⟩, (ih (unfailed.succeeded success room)).mpr ⟨successes, ?_⟩⟩
      rw [tasksProcessed_updateMetrics, toNat_counted room]
      omega

/-- **The rates of a run.**  They are up to date after every report exactly when no report is of a
failure and the counter has room for all of them. -/
theorem upToDate_along_iff (m : TEEPairMetrics) (reports : List TaskReport) :
    Along updateMetrics (fun m report => UpToDate (m.updateMetrics report)) m.resetMetrics
        reports ↔
      (∀ report ∈ reports, report.success = true) ∧ reports.length < 2 ^ 64 := by
  have start : m.resetMetrics.tasksProcessed.toNat = 0 := rfl
  have unfailed : Unfailed m.resetMetrics := ⟨rfl, rfl, rfl⟩
  rw [unfailed.along_upToDate_iff, start, Nat.zero_add]

def fresh : TEEPairMetrics where
  pairID := ascii "p"
  sgxEndpoint := ascii "sgx"
  sevEndpoint := ascii "sev"
  lastHealthCheck := Time.zero
  lastHealthy := Time.zero
  successRate := .finite 0
  loadFactor := .finite 0

/-- After one task that failed, both rates are one. -/
theorem not_upToDate_of_failure :
    ∃ after, run updateMetrics fresh.resetMetrics [⟨false, 1, Time.zero⟩] = after ∧
      after.successRate = .finite 1 ∧ after.errorRate = .finite 1 ∧ ¬ UpToDate after := by
  refine ⟨_, rfl, rfl, by decide +kernel, ?_⟩
  rintro ⟨successRate, -, -, -⟩
  revert successRate
  decide +kernel

/-! ## Counters and the average -/

/-- How many of the last reports, one after the other, are of failures. -/
def trailingFailures (reports : List TaskReport) : ℕ :=
  (reports.reverse.takeWhile TaskReport.failed).length

@[simp] theorem trailingFailures_concat (reports : List TaskReport) (report : TaskReport) :
    trailingFailures (reports ++ [report]) =
      if report.success then 0 else trailingFailures reports + 1 := by
  cases success : report.success <;> simp [trailingFailures, TaskReport.failed, success]

/-- What the reports so far say about the counters and the status. -/
structure Tallied (reports : List TaskReport) (m : TEEPairMetrics) : Prop where
  processed : m.tasksProcessed.toNat = reports.length
  failed : m.failedTasks.toNat = reports.countP TaskReport.failed
  consecutive : m.consecutiveErrors.toNat = trailingFailures reports
  status : m.status = ascii "failed" ↔ 3 ≤ trailingFailures reports

section Tally

variable {reports : List TaskReport} {m : TEEPairMetrics}

variable (tallied : Tallied reports m)

include tallied

/-- Every task that failed has been counted, -/
theorem Tallied.failed_le_processed :
    m.failedTasks ≤ m.tasksProcessed := by
  rw [UInt64.le_iff_toNat_le, tallied.failed, tallied.processed]
  exact countP_le_length

/-- and the failures of now are among all failures. -/
theorem Tallied.consecutive_le_failed :
    m.consecutiveErrors ≤ m.failedTasks := by
  have failures : ∀ report ∈ reports.reverse.takeWhile TaskReport.failed, report.failed = true :=
    fun report mem => mem_takeWhile_imp mem
  rw [UInt64.le_iff_toNat_le, tallied.consecutive, tallied.failed]
  calc trailingFailures reports
      = (reports.reverse.takeWhile TaskReport.failed).countP TaskReport.failed :=
        (countP_eq_length.mpr failures).symm
    _ ≤ reports.reverse.countP TaskReport.failed := (takeWhile_sublist _).countP_le
    _ = reports.countP TaskReport.failed := countP_reverse

/-- **One report** more is tallied, as long as the counter of tasks has room for it. -/
theorem Tallied.report (room : reports.length + 1 < 2 ^ 64)
    (report : TaskReport) : Tallied (reports ++ [report]) (m.updateMetrics report) := by
  rw [← tallied.processed] at room
  have bound := UInt64.le_iff_toNat_le.mp tallied.failed_le_processed
  have bound' := UInt64.le_iff_toNat_le.mp tallied.consecutive_le_failed
  have consecutive : (m.updateMetrics report).consecutiveErrors.toNat =
      trailingFailures (reports ++ [report]) := by
    rw [consecutiveErrors_updateMetrics, trailingFailures_concat]
    split
    · rfl
    · rw [toNat_counted (by omega), tallied.consecutive]
  refine ⟨?_, ?_, consecutive, ?_⟩
  · rw [tasksProcessed_updateMetrics, toNat_counted room, tallied.processed, length_append,
      length_singleton]
  · rw [failedTasks_updateMetrics, countP_append, ← tallied.failed]
    cases success : report.success
    · simp [TaskReport.failed, success,
        toNat_counted (show m.failedTasks.toNat + 1 < 2 ^ 64 by omega)]
    · simp [TaskReport.failed, success]
  · rw [status_updateMetrics, statusFor_eq_failed_iff, UInt64.le_iff_toNat_le, consecutive]
    rfl

end Tally

variable {reports : List TaskReport}

/-- A run of reports is tallied. -/
theorem tallied_run (m : TEEPairMetrics) (few : reports.length < 2 ^ 64) :
    Tallied reports (run updateMetrics m.resetMetrics reports) := by
  -- the induction takes the last report off: what is tallied is what came before it
  induction reports using List.reverseRecOn with
  | nil =>
    exact ⟨rfl, rfl, rfl,
      iff_of_false (show ascii "active" ≠ ascii "failed" by decide) (by decide)⟩
  | append_singleton reports report ih =>
    rw [length_append, length_singleton] at few
    rw [run_append]
    exact (ih (by omega)).report few report

/-! ### The average -/

/-- Durations that are added without overflow. -/
def Moderate (duration : ℤ) : Prop :=
  0 ≤ duration ∧ duration < 2 ^ 62

/-- Zero as long as there are no durations, and then within all bounds that they are in. -/
structure Averages (reports : List TaskReport) (average : ℤ) : Prop where
  unset : reports = [] → average = 0
  within : ∀ low high, (∀ report ∈ reports, low ≤ report.duration ∧ report.duration ≤ high) →
    reports ≠ [] → low ≤ average ∧ average ≤ high

/-- The average of moderate durations is moderate. -/
theorem Averages.moderate {average : ℤ} (averages : Averages reports average)
    (durations : ∀ report ∈ reports, Moderate report.duration) : Moderate average := by
  by_cases empty : reports = []
  · rw [averages.unset empty]
    exact ⟨le_rfl, by norm_num⟩
  · have bounds : ∀ report ∈ reports, 0 ≤ report.duration ∧ report.duration ≤ 2 ^ 62 - 1 :=
      fun report mem => ⟨(durations report mem).1, Int.le_sub_one_of_lt (durations report mem).2⟩
    obtain ⟨nonneg, bound⟩ := averages.within 0 (2 ^ 62 - 1) bounds empty
    exact ⟨nonneg, by omega⟩

/-- One report more is averaged. -/
theorem Averages.report {average : ℤ} (averages : Averages reports average)
    (durations : ∀ report ∈ reports, Moderate report.duration) {report : TaskReport}
    (moderate : Moderate report.duration) :
    Averages (reports ++ [report]) (averaged average report.duration) where
  unset empty := absurd empty (append_ne_nil_of_right_ne_nil _ (cons_ne_nil _ _))
  within low high bounds _ := by
    obtain ⟨earlier, last⟩ := forall_mem_append.mp bounds
    obtain ⟨nonneg, small⟩ := averages.moderate durations
    obtain ⟨nonneg', small'⟩ := moderate
    unfold averaged
    split
    · exact last report (mem_singleton_self report)
    · rename_i set
      -- an average that is not zero is one of some durations
      obtain ⟨low_le, le_high⟩ :=
        averages.within low high earlier fun empty => set (averages.unset empty)
      obtain ⟨low_le', le_high'⟩ := last report (mem_singleton_self report)
      rw [Int.bmod_eq_of_le (by omega) (by omega), Int.tdiv_eq_ediv_of_nonneg (by omega)]
      omega

/-- A run of reports is averaged. -/
theorem averages_run (m : TEEPairMetrics)
    (durations : ∀ report ∈ reports, Moderate report.duration) :
    Averages reports (run updateMetrics m.resetMetrics reports).averageTaskTime := by
  induction reports using List.reverseRecOn with
  | nil => exact ⟨fun _ => rfl, fun _ _ _ some => absurd rfl some⟩
  | append_singleton reports report ih =>
    obtain ⟨earlier, last⟩ := forall_mem_append.mp durations
    rw [run_append, run_cons, run_nil, averageTaskTime_updateMetrics]
    exact (ih earlier).report earlier (last report (mem_singleton_self report))

/-- **Counters and average of a run** of fewer reports than the counters can hold, with durations
that can be added. -/
theorem updateMetrics_run_sound (m : TEEPairMetrics) (reports : List TaskReport)
    (few : reports.length < 2 ^ 64)
    (durations : ∀ report ∈ reports, 0 ≤ report.duration ∧ report.duration < 2 ^ 62) :
    ∃ after, run updateMetrics m.resetMetrics reports = after ∧
      after.failedTasks ≤ after.tasksProcessed ∧
      after.consecutiveErrors.toNat = trailingFailures reports ∧
      after.consecutiveErrors ≤ after.failedTasks ∧
      (after.status = ascii "failed" ↔ 3 ≤ trailingFailures reports) ∧
      (∀ shortest ∈ reports, ∀ longest ∈ reports,
        (∀ report ∈ reports, shortest.duration ≤ report.duration ∧
          report.duration ≤ longest.duration) →
        shortest.duration ≤ after.averageTaskTime ∧ after.averageTaskTime ≤ longest.duration) ∧
      Along updateMetrics (fun m report => -2 ^ 63 ≤ m.averageTaskTime + report.duration ∧
        m.averageTaskTime + report.duration < 2 ^ 63) m.resetMetrics reports := by
  have tallied := tallied_run m few
  refine ⟨_, rfl, tallied.failed_le_processed, tallied.consecutive, tallied.consecutive_le_failed,
    tallied.status, ?_, ?_⟩
  · intro shortest mem longest _ bounds
    exact (averages_run m durations).within _ _ bounds (ne_nil_of_mem mem)
  · rintro earlier report later rfl
    obtain ⟨before, rest⟩ := forall_mem_append.mp durations
    obtain ⟨nonneg, small⟩ := (averages_run m before).moderate before
    obtain ⟨nonneg', small'⟩ := rest report mem_cons_self
    constructor <;> omega

/-- Two failures and a success. -/
theorem updateMetrics_run_sound_of_three :
    ∃ after, run updateMetrics fresh.resetMetrics
        [⟨false, 4, Time.zero⟩, ⟨false, 0, Time.zero⟩, ⟨true, 7, Time.zero⟩] = after ∧
      after.failedTasks ≤ after.tasksProcessed ∧ after.consecutiveErrors ≤ after.failedTasks ∧
      0 ≤ after.averageTaskTime ∧ after.averageTaskTime ≤ 7 := by
  obtain ⟨after, reached, processed, -, failed, -, average, -⟩ := updateMetrics_run_sound fresh
    [⟨false, 4, Time.zero⟩, ⟨false, 0, Time.zero⟩, ⟨true, 7, Time.zero⟩] (by decide) (by simp)
  obtain ⟨least, most⟩ := average ⟨false, 0, Time.zero⟩ (by simp) ⟨true, 7, Time.zero⟩ (by simp)
    (by simp)
  exact ⟨after, reached, processed, failed, least, most⟩

end TEEPairMetrics

end Regions

end Aristo
