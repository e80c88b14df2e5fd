import Aristo.Regions.Metrics

/-!
# Recovery of a TEE pair

`UpdateHealthStatus`, `checkRegionHealth` and `isPairHealthy` of `regions/manager.go`.  A pair is
healthy when it was healthy less than five minutes ago, has fewer than three errors, and its
measurements are good.  Only a healthy verdict renews the time, so the five minutes are a trap; the
errors are not one, since their count wraps round.  `canRecover_iff` says from which states a pair
can become healthy again.
-/

namespace Aristo

open GoBase Call List

namespace Regions

def healthWindow : ℤ := 300000000000

/-- 0.95, as a `float64`. -/
def minSuccessRate : Float64 := .finite (8556839292003942 / 9007199254740992)

/-- 0.8, as a `float64`. -/
def maxHealthyLoad : Float64 := .finite (7205759403792794 / 9007199254740992)

/-- `isPairHealthy`, for a state that is not nil. -/
def isPairHealthy (now : Time) (state : TEEPairState) : Bool :=
  now.sub state.lastHealthy < healthWindow ∧ state.errorCount < 3 ∧
    minSuccessRate ≤ state.successRate ∧ state.loadFactor < maxHealthyLoad

/-- The function that `UpdateHealthStatus` passes to `UpdateTEEState`. -/
def TEEPairState.withHealth (now : Time) (healthy : Bool) (state : TEEPairState) : TEEPairState :=
  if healthy then { state with status := ascii "healthy", lastHealthy := now, errorCount := 0 }
  else { state with status := ascii "unhealthy", errorCount := state.errorCount + 1 }

namespace RegionManager

/-! ## The code -/

def updateHealthStatus (now : Time) (regionID pairID : Bytes) (healthy : Bool) :
    Call RegionManager Unit :=
  updateTEEState (now, now) regionID pairID (TEEPairState.withHealth now healthy)

def getTEEState (regionID pairID : Bytes) (m : RegionManager) : Except GoError TEEPairState :=
  match m.states.lookup regionID with
  | none => .error (.plain (ascii "region not found: " ++ regionID))
  | some states =>
    match states.lookup pairID with
    | none => .error (.plain (ascii "TEE pair not found: " ++ pairID))
    | some state => .ok state

/-- The body of the loop of `checkRegionHealth`, behind `GetTEEState`.  An error is printed. -/
def checkState (clock : Time × Time) (regionID pairID : Bytes) :
    Except GoError TEEPairState → Call RegionManager Unit
  | .error _ => pure ()
  | .ok state => do
    let _ ← Call.attempt
      (updateHealthStatus clock.2 regionID pairID (isPairHealthy clock.1 state))

/-- The body of the loop of `checkRegionHealth`. -/
def checkPair (clock : Time × Time) (regionID pairID : Bytes) : Call RegionManager Unit := do
  let m ← Call.read
  checkState clock regionID pairID (m.getTEEState regionID pairID)

/-- The loop of `checkRegionHealth`; the pair at place `i` is checked with the readings `2 * i` and
`2 * i + 1` of the clock. -/
def checkPairs (clock : ℕ → Time) (regionID : Bytes) :
    Option (Option RegionConfig) → Call RegionManager Unit
  | none => Call.fail (.plain (ascii "region not found: " ++ regionID))
  | some none => Call.crash
  | some (some config) => forM config.teePairs.zipIdx fun round =>
    checkPair (clock (2 * round.2), clock (2 * round.2 + 1)) regionID round.1.id

def checkRegionHealth (clock : ℕ → Time) (regionID : Bytes) : Call RegionManager Unit := do
  let m ← Call.read
  checkPairs clock regionID (m.configs.lookup regionID)

/-! ## Sequences of good reports and passes -/

inductive RecoveryCall where
  /-- An `UpdateMetrics` that reports a success rate of 1 and no load. -/
  | report (faults : MetricsFaults) (now : Time) (regionID pairID : Bytes)
      (update : TEEPairMetrics → TEEPairMetrics)
      (good : ∀ metrics, (update metrics).successRate = .finite 1 ∧
        (update metrics).loadFactor = .finite 0)
  /-- A pass over a region. -/
  | pass (times : ℕ → Time) (regionID : Bytes)

namespace RecoveryCall

def call : RecoveryCall → Call RegionManager Unit
  | report faults now regionID pairID update _ => updateMetrics faults now regionID pairID update
  | pass times regionID => checkRegionHealth times regionID

def clock : RecoveryCall → ℕ → Time
  | report _ now _ _ _ _ => fun _ => now
  | pass times _ => times

def step (m : RegionManager) (c : RecoveryCall) : RegionManager :=
  (c.call m).2

end RecoveryCall

/-- The calls take place one after the other, between `now` and `finish`. -/
structure Chronological (now : Time) (calls : List RecoveryCall) (finish : Time) : Prop where
  ends : now.nanos ≤ finish.nanos
  within : ∀ c ∈ calls, ∀ i, now.nanos ≤ (c.clock i).nanos ∧ (c.clock i).nanos ≤ finish.nanos
  each : ∀ c ∈ calls, ∀ i j, i ≤ j → (c.clock i).nanos ≤ (c.clock j).nanos
  inOrder : calls.Pairwise fun c d => ∀ i j, (c.clock i).nanos ≤ (d.clock j).nanos

/-- The pair is healthy and without errors, and was found so less than five minutes ago. -/
def Recovered (finish : Time) (state : TEEPairState) : Prop :=
  state.status = ascii "healthy" ∧ state.errorCount = 0 ∧
    finish.sub state.lastHealthy < healthWindow

/-- From `now` on, some good reports and passes lead to a pair that has recovered. -/
def CanRecover (m : RegionManager) (regionID pairID : Bytes) (now : Time) : Prop :=
  ∃ calls finish, Chronological now calls finish ∧
    ∃ state, (run RecoveryCall.step m calls).pairState regionID pairID = some state ∧
      Recovered finish state

/-! ## What a call does to the state of a pair -/

variable {regionID pairID : Bytes} {state : TEEPairState}

/-- `GetTEEState` finds what is stored. -/
theorem getTEEState_eq_ok_iff {m : RegionManager} :
    m.getTEEState regionID pairID = .ok state ↔ m.pairState regionID pairID = some state := by
  rw [pairState, GoMap.get, getTEEState]
  cases m.states.lookup regionID with
  | none => simp [show (default : GoMap Bytes TEEPairState) = ∅ from rfl]
  | some states =>
    rw [Option.getD_some]
    cases found : states.lookup pairID <;> simp [found]

/-- Storing a state changes that of one pair. -/
theorem pairState_putState (region pair : Bytes) (state : TEEPairState) (m : RegionManager)
    (regionID pairID : Bytes) :
    (putState region pair state m).2.pairState regionID pairID =
      if (regionID, pairID) = (region, pair) then some state
      else m.pairState regionID pairID := by
  change (GoMap.get (m.states.insert region ((m.states.get region).insert pair state))
    regionID).lookup pairID = _
  by_cases same : regionID = region
  · subst same
    rw [GoMap.get_insert_self]
    by_cases here : pairID = pair
    · subst here
      simp
    · simp [here, Finmap.lookup_insert_of_ne _ here, pairState]
  · rw [GoMap.get_insert_of_ne _ _ same, if_neg fun equal => same (congrArg Prod.fst equal)]
    rfl

theorem keeps_pairState_putState {region pair : Bytes} (apart : (regionID, pairID) ≠ (region, pair))
    (state : TEEPairState) :
    Call.Keeps (fun m : RegionManager => m.pairState regionID pairID)
      (putState region pair state) := fun m =>
  (pairState_putState region pair state m regionID pairID).trans (if_neg apart)

/-- A check keeps what storing states and writing to the storage keep. -/
theorem keeps_checkPair {ν : Type} {view : RegionManager → ν}
    (put : ∀ state, Call.Keeps view (putState regionID pairID state))
    (store : ∀ call : Call Storage Unit, Call.Keeps view (inStore call)) (clock : Time × Time) :
    Call.Keeps view (checkPair clock regionID pairID) := by
  refine keeps_bind keeps_read fun m => ?_
  rcases m.getTEEState regionID pairID with error | state
  · exact keeps_pure ()
  · exact keeps_bind (keeps_attempt (keeps_updateTEEState put store _ _))
      fun _ => keeps_pure ()

section Calls

variable {regionID pairID : Bytes} {config : RegionConfig} {m : RegionManager}
  {state : TEEPairState}

/-- What a report makes of a state. -/
theorem pairState_updateMetrics (configured : m.configs.lookup regionID = some (some config))
    (stored : m.pairState regionID pairID = some state) (faults : MetricsFaults) (now : Time)
    (update : TEEPairMetrics → TEEPairMetrics) :
    (updateMetrics faults now regionID pairID update m).2.pairState regionID pairID =
      some { state.measured (nextMetrics now update m regionID pairID) with
        status := config.loadStatus (nextMetrics now update m regionID pairID) } := by
  change (applyMetrics faults regionID pairID _ (m.pairState regionID pairID)
    (m.configs.lookup regionID) m).2.pairState regionID pairID = _
  rw [configured, stored, applyMetrics, putMetrics, bind_of_ok (modify_apply _ m)]
  refine (view_bind_of_keeps (fun m : RegionManager => m.pairState regionID pairID)
    (fun _ _ => rfl) _).trans ?_
  rw [refreshState]
  refine (view_bind_of_keeps (fun m : RegionManager => m.pairState regionID pairID)
    (fun _ => keeps_wrapping fun _ => rfl) _).trans ?_
  exact (pairState_putState ..).trans (if_pos rfl)

/-- The state of which `UpdateHealthStatus` has a say is never active. -/
theorem nextState_withHealth (stored : m.pairState regionID pairID = some state) (now : Time)
    (healthy : Bool) :
    nextState (now, now) (TEEPairState.withHealth now healthy) m regionID pairID =
      state.withHealth now healthy := by
  have named : (state.withHealth now healthy).status ≠ ascii "active" := by
    cases healthy
    · exact (by decide : ascii "unhealthy" ≠ ascii "active")
    · exact (by decide : ascii "healthy" ≠ ascii "active")
  rw [pairState] at stored
  rw [nextState, stored]
  exact if_neg named

/-- What a verdict makes of a state. -/
theorem updateHealthStatus_apply (configured : m.configs.lookup regionID = some (some config))
    (known : hasPair pairID config = true) (stored : m.pairState regionID pairID = some state)
    (now : Time) (healthy : Bool) :
    (updateHealthStatus now regionID pairID healthy m).1 = .ok () ∧
      (updateHealthStatus now regionID pairID healthy m).2.pairState regionID pairID =
        some (state.withHealth now healthy) := by
  have saved : updateHealthStatus now regionID pairID healthy m =
      (do
        putState regionID pairID (state.withHealth now healthy)
        inStore (Storage.saveTEEState none regionID pairID (state.withHealth now healthy))) m := by
    change saveState regionID pairID (nextState (now, now) (TEEPairState.withHealth now healthy) m
      regionID pairID) (m.configs.lookup regionID) m = _
    rw [configured, nextState_withHealth stored, saveState,
      refuse_bind_of_not (by rw [known]; decide)]
    rfl
  rw [saved]
  exact ⟨rfl, (pairState_putState ..).trans (if_pos rfl)⟩

theorem checkPair_of_stored (stored : m.pairState regionID pairID = some state)
    (clock : Time × Time) :
    checkPair clock regionID pairID m = (do
      let _ ← Call.attempt
        (updateHealthStatus clock.2 regionID pairID (isPairHealthy clock.1 state))) m := by
  change checkState clock regionID pairID (m.getTEEState regionID pairID) m = _
  rw [getTEEState_eq_ok_iff.mpr stored]
  rfl

/-- A check finds the pair healthy or not, and the state is what `UpdateHealthStatus` makes of
it. -/
theorem pairState_checkPair (configured : m.configs.lookup regionID = some (some config))
    (known : hasPair pairID config = true) (stored : m.pairState regionID pairID = some state)
    (clock : Time × Time) :
    (checkPair clock regionID pairID m).2.pairState regionID pairID =
      some (state.withHealth clock.2 (isPairHealthy clock.1 state)) := by
  rw [checkPair_of_stored stored]
  refine (view_bind_of_keeps (fun m : RegionManager => m.pairState regionID pairID)
    (fun _ _ => rfl) m).trans ?_
  rw [attempt_snd]
  exact (updateHealthStatus_apply configured known stored _ _).2

/-- A check of a pair that is listed always returns. -/
theorem checkPair_fst (configured : m.configs.lookup regionID = some (some config))
    (known : hasPair pairID config = true) (clock : Time × Time) :
    (checkPair clock regionID pairID m).1 = .ok () := by
  cases found : m.getTEEState regionID pairID with
  | error =>
    change (checkState clock regionID pairID (m.getTEEState regionID pairID) m).1 = _
    rw [found]
    rfl
  | ok state =>
    have stored := getTEEState_eq_ok_iff.mp found
    have done := (updateHealthStatus_apply configured known stored clock.2
      (isPairHealthy clock.1 state)).1
    rw [checkPair_of_stored stored, bind_of_ok (attempt_eq_ok_ok.mpr (Prod.ext done rfl))]
    rfl

end Calls

/-! ## What every call of a recovery keeps -/

/-- The pair is stored, in a region with this configuration, and its state is so. -/
structure Stored (regionID pairID : Bytes) (config : RegionConfig) (P : TEEPairState → Prop)
    (m : RegionManager) : Prop where
  configured : m.configs.lookup regionID = some (some config)
  state : ∃ state, m.pairState regionID pairID = some state ∧ P state

section Invariants

variable {regionID pairID : Bytes} {config : RegionConfig} {P : TEEPairState → Prop}

/-- A call that keeps the configurations maintains what it maintains of the state. -/
theorem Stored.step {α : Type} {call : Call RegionManager α}
    (configs : Call.Keeps (fun m : RegionManager => m.configs) call)
    (each : ∀ m state, m.configs.lookup regionID = some (some config) →
      m.pairState regionID pairID = some state → P state →
      ∃ next, (call m).2.pairState regionID pairID = some next ∧ P next) :
    Call.Maintains (Stored regionID pairID config P) call := by
  rintro m ⟨configured, state, stored, holds⟩
  have same : (call m).2.configs = m.configs := configs m
  exact ⟨same ▸ configured, each m state configured stored holds⟩

/-- A check maintains what its verdict maintains. -/
theorem maintains_checkPair {now renewed : Time}
    (judged : ∀ state, P state → hasPair pairID config = true →
      P (state.withHealth renewed (isPairHealthy now state))) (region pair : Bytes) :
    Call.Maintains (Stored regionID pairID config P) (checkPair (now, renewed) region pair) := by
  refine Stored.step (keeps_checkPair (fun _ _ => rfl) (fun _ _ => rfl) (now, renewed)) ?_
  intro m state configured stored holds
  by_cases here : (regionID, pairID) = (region, pair)
  · obtain ⟨rfl, rfl⟩ := Prod.mk.inj here
    by_cases known : hasPair pairID config = true
    · exact ⟨_, pairState_checkPair configured known stored _, judged state holds known⟩
    · have unknown : ¬ m.HasPair regionID pairID := by
        rintro ⟨other, found, has⟩
        cases Option.some.inj (Option.some.inj (configured.symm.trans found))
        exact known has
      refine ⟨state, ?_, holds⟩
      rw [checkPair_of_stored stored]
      refine (view_bind_of_keeps (fun m : RegionManager => m.pairState regionID pairID)
        (fun _ _ => rfl) m).trans ?_
      rw [attempt_snd, updateHealthStatus, updateTEEState_of_not_hasPair _ _ unknown, stored]
  · have apart := keeps_checkPair (keeps_pairState_putState here) (fun _ _ => rfl) (now, renewed) m
    exact ⟨state, apart.trans stored, holds⟩

/-- What every verdict and every report maintains is so throughout. -/
theorem maintains_call {c : RecoveryCall}
    (reported : ∀ state metrics, P state →
      P { state.measured metrics with status := config.loadStatus metrics })
    (judged : ∀ state, P state → hasPair pairID config = true → ∀ i j,
      P (state.withHealth (c.clock j) (isPairHealthy (c.clock i) state))) :
    Call.Maintains (Stored regionID pairID config P) c.call := by
  cases c with
  | report faults now region pair update =>
    refine Stored.step (keeps_updateMetrics (fun _ _ => rfl) (fun _ _ => rfl) (fun _ _ => rfl)
      faults now update) ?_
    intro m state configured stored holds
    by_cases here : (regionID, pairID) = (region, pair)
    · obtain ⟨rfl, rfl⟩ := Prod.mk.inj here
      exact ⟨_, pairState_updateMetrics configured stored faults now update,
        reported state _ holds⟩
    · have apart := keeps_updateMetrics (keeps_pairState_putState here) (fun _ _ => rfl)
        (fun _ _ => rfl) faults now update m
      exact ⟨state, apart.trans stored, holds⟩
  | pass times region =>
    intro m stored
    change Stored regionID pairID config P
      (checkPairs times region (m.configs.lookup region) m).2
    rcases m.configs.lookup region with _ | _ | other
    · exact stored
    · exact stored
    · have round : ∀ place : TEEPair × ℕ, Call.Maintains (Stored regionID pairID config P)
          (checkPair (times (2 * place.2), times (2 * place.2 + 1)) region place.1.id) := by
        intro place
        refine maintains_checkPair (fun state holds known => ?_) region place.1.id
        exact judged state holds known (2 * place.2) (2 * place.2 + 1)
      exact maintains_forM round m stored

end Invariants

/-! ## The trap -/

/-- It is too long since the pair was healthy. -/
def Stuck (now : Time) (state : TEEPairState) : Prop :=
  healthWindow ≤ now.sub state.lastHealthy

variable {now : Time}

theorem Stuck.later {later : Time} (stuck : Stuck now state) (order : now.nanos ≤ later.nanos) :
    Stuck later state :=
  stuck.trans (Time.sub_le_sub_of_nanos (by omega))

section Traps

variable {regionID pairID : Bytes} {config : RegionConfig} {now finish : Time}
  {m : RegionManager} {calls : List RecoveryCall}

/-- **A pair that is stuck stays so**: no later check finds it healthy. -/
theorem not_canRecover_of_stuck (stuck : Stored regionID pairID config (Stuck now) m) :
    ¬ CanRecover m regionID pairID now := by
  rintro ⟨calls, finish, chronological, state, found, -, -, recent⟩
  have step : ∀ m c, (∀ i, now.nanos ≤ (RecoveryCall.clock c i).nanos) →
      Stored regionID pairID config (Stuck now) m →
      Stored regionID pairID config (Stuck now) (c.step m) := by
    intro m c order stored
    refine maintains_call (fun _ _ stuck => stuck) ?_ m stored
    intro state stuck _ i j
    have unfit : isPairHealthy (c.clock i) state = false :=
      decide_eq_false fun fit => absurd fit.1 (not_lt.mpr (stuck.later (order i)))
    rw [unfit]
    exact stuck
  obtain ⟨-, last, stored, old⟩ :=
    run_invariant step stuck fun c mem i => (chronological.within c mem i).1
  cases Option.some.inj (found.symm.trans stored)
  exact absurd recent (not_lt.mpr (old.later chronological.ends))

/-- Of a pair that is not in the configuration no verdict is made, and a report never says that it
is healthy. -/
theorem not_canRecover_of_unlisted (unlisted : hasPair pairID config = false)
    (unhealthy : Stored regionID pairID config
      (fun state => ¬ (state.status = ascii "healthy" ∧ state.errorCount = 0)) m) :
    ¬ CanRecover m regionID pairID now := by
  rintro ⟨calls, finish, -, state, found, healthy, none, -⟩
  have reported (metrics : TEEPairMetrics) : config.loadStatus metrics ≠ ascii "healthy" := by
    unfold RegionConfig.loadStatus
    split <;> decide
  have kept : Stored _ _ _ _ (run RecoveryCall.step m calls) :=
    run_preserves (fun m c unhealthy => maintains_call
      (fun _ metrics _ said => reported metrics said.1)
      (fun _ _ listed => by cases unlisted.symm.trans listed) m unhealthy) unhealthy calls
  obtain ⟨-, last, stored, not⟩ := kept
  cases Option.some.inj (found.symm.trans stored)
  exact not ⟨healthy, none⟩

end Traps

/-! ## The way out -/

def goodReport (now : Time) (regionID pairID : Bytes) : RecoveryCall :=
  .report ⟨none, none⟩ now regionID pairID
    (fun metrics => { metrics with successRate := .finite 1, loadFactor := .finite 0 })
    fun _ => ⟨rfl, rfl⟩

/-- A report, and passes at once. -/
def recovery (now : Time) (regionID pairID : Bytes) (passes : ℕ) : List RecoveryCall :=
  goodReport now regionID pairID :: replicate passes (.pass (fun _ => now) regionID)

/-- All of it happens now. -/
theorem chronological_recovery (now : Time) (regionID pairID : Bytes) (passes : ℕ) :
    Chronological now (recovery now regionID pairID passes) now := by
  have clock (c : RecoveryCall) (mem : c ∈ recovery now regionID pairID passes) (i : ℕ) :
      c.clock i = now := by
    rcases mem_cons.mp mem with rfl | mem
    · rfl
    · rw [eq_of_mem_replicate mem]
      rfl
  refine ⟨le_rfl, fun c mem i => ?_, fun c mem i j _ => ?_,
    pairwise_of_forall_mem_list fun c mem d mem' i j => ?_⟩
  · simp [clock c mem]
  · rw [clock c mem, clock c mem]
  · rw [clock c mem, clock d mem']

/-- How many more errors are counted before the count is a small number again: a count of three or
more goes up to the greatest `int` and wraps round. -/
def errorsToWrap (count : Int64) : ℕ :=
  if count < 3 then 0 else (2 ^ 63 - count.toInt).toNat

/-- None are needed by a small count. -/
theorem errorsToWrap_eq_zero_iff {count : Int64} : errorsToWrap count = 0 ↔ count < 3 := by
  have bound := count.toInt_lt
  unfold errorsToWrap
  split
  · simp_all
  · rename_i many
    exact iff_of_false (by omega) many

/-- Every error brings the wrap nearer. -/
theorem errorsToWrap_add_one_lt {count : Int64} (many : ¬ count < 3) :
    errorsToWrap (count + 1) < errorsToWrap count := by
  have bound := count.toInt_lt
  unfold errorsToWrap
  rw [if_neg many]
  split
  · omega
  · rename_i still
    have least : 3 ≤ count.toInt := not_lt.mp fun less => many (Int64.lt_iff_toInt_lt.mpr less)
    have next : 3 ≤ (count + 1).toInt :=
      not_lt.mp fun less => still (Int64.lt_iff_toInt_lt.mpr less)
    have sum : (count + 1).toInt = (count.toInt + 1).bmod (2 ^ 64) := Int64.toInt_add ..
    rw [Int.bmod_def] at sum
    omega

/-- What a check at `now` makes of a state. -/
def judged (now : Time) (state : TEEPairState) : TEEPairState :=
  state.withHealth now (isPairHealthy now state)

/-- The pair is fit but for its errors, and after `n` more of them it is fit. -/
structure Nearing (now : Time) (n : ℕ) (state : TEEPairState) : Prop where
  recent : now.sub state.lastHealthy < healthWindow
  successRate : minSuccessRate ≤ state.successRate
  loadFactor : state.loadFactor < maxHealthyLoad
  errors : errorsToWrap state.errorCount ≤ n

/-- The pair was found healthy at `now`, and would be again. -/
structure Healthy (now : Time) (state : TEEPairState) : Prop where
  fit : isPairHealthy now state = true
  status : state.status = ascii "healthy"
  errorCount : state.errorCount = 0
  lastHealthy : state.lastHealthy = now

namespace Nearing

variable {n : ℕ}

/-- A report of good values brings the pair near. -/
theorem of_good {metrics : TEEPairMetrics} (free : ¬ Stuck now state)
    (good : metrics.successRate = .finite 1 ∧ metrics.loadFactor = .finite 0) (status : Bytes) :
    Nearing now (errorsToWrap state.errorCount) { state.measured metrics with status } where
  recent := not_le.mp free
  successRate := by
    show minSuccessRate ≤ metrics.successRate
    rw [good.1]
    decide +kernel
  loadFactor := by
    show metrics.loadFactor < maxHealthyLoad
    rw [good.2]
    decide +kernel
  errors := le_rfl

/-- Only the errors decide. -/
theorem fit_iff (near : Nearing now n state) :
    isPairHealthy now state = true ↔ state.errorCount < 3 := by
  simp [isPairHealthy, near.recent, near.successRate, near.loadFactor]

/-- With few errors the check finds the pair healthy, -/
theorem healthy_of_few (near : Nearing now n state) (few : state.errorCount < 3) :
    Healthy now (judged now state) := by
  have window : now.sub now < healthWindow := by
    rw [Time.sub_self]
    decide
  rw [judged, near.fit_iff.mpr few]
  refine ⟨decide_eq_true ⟨window, ?_, near.successRate, near.loadFactor⟩, rfl, rfl, rfl⟩
  show (0 : Int64) < 3
  decide

/-- and once it is healthy it stays near. -/
theorem of_healthy (healthy : Healthy now state) (n : ℕ) : Nearing now n state := by
  obtain ⟨recent, few, successRate, loadFactor⟩ := of_decide_eq_true healthy.fit
  exact ⟨recent, successRate, loadFactor, (errorsToWrap_eq_zero_iff.mpr few).le.trans n.zero_le⟩

/-- **A check** counts one more error, or finds the pair healthy. -/
theorem judged_of_succ (near : Nearing now (n + 1) state) : Nearing now n (judged now state) := by
  by_cases few : state.errorCount < 3
  · exact of_healthy (near.healthy_of_few few) n
  · have less := errorsToWrap_add_one_lt few
    rw [judged, Bool.eq_false_iff.mpr (mt near.fit_iff.mp few)]
    exact ⟨near.recent, near.successRate, near.loadFactor,
      Nat.le_of_lt_succ (less.trans_le near.errors)⟩

theorem judged_of_zero (near : Nearing now 0 state) : Healthy now (judged now state) :=
  near.healthy_of_few (errorsToWrap_eq_zero_iff.mp (Nat.le_zero.mp near.errors))

theorem judged_of_near (near : Nearing now n state) : Nearing now n (judged now state) :=
  judged_of_succ { near with errors := near.errors.trans n.le_succ }

end Nearing

theorem healthy_judged (healthy : Healthy now state) : Healthy now (judged now state) :=
  (Nearing.of_healthy healthy 0).judged_of_zero

section Recovery

variable {regionID pairID : Bytes} {config : RegionConfig} {now : Time} {m : RegionManager}

/-- **A pass** judges the pair, however often the configuration lists it: what every judgement
keeps stays, and what a judgement brings about is so afterwards. -/
theorem pass_reaches {P Q : TEEPairState → Prop} (listed : hasPair pairID config = true)
    (stored : Stored regionID pairID config P m)
    (before : ∀ state, P state → P (judged now state))
    (turns : ∀ state, P state → Q (judged now state))
    (behind : ∀ state, Q state → Q (judged now state)) :
    Stored regionID pairID config Q (checkRegionHealth (fun _ => now) regionID m).2 := by
  change Stored _ _ _ _ (checkPairs (fun _ => now) regionID (m.configs.lookup regionID) m).2
  rw [stored.configured]
  have lists (id : Bytes) : hasPair id config = true ↔ ∃ pair ∈ config.teePairs, pair.id = id := by
    simp [hasPair]
  obtain ⟨pair, mem, rfl⟩ := (lists pairID).mp listed
  obtain ⟨i, inRange, here⟩ := getElem_of_mem mem
  have place : (pair, i) ∈ config.teePairs.zipIdx :=
    mk_mem_zipIdx_iff_getElem?.mpr (List.getElem?_eq_some_iff.mpr ⟨inRange, here⟩)
  have known : ∀ round ∈ config.teePairs.zipIdx, hasPair round.1.id config = true :=
    fun round mem => (lists _).mpr ⟨round.1, fst_mem_of_mem_zipIdx mem, rfl⟩
  have keepsP (round : TEEPair × ℕ) : Call.Maintains (Stored regionID pair.id config P)
      (checkPair (now, now) regionID round.1.id) :=
    maintains_checkPair (fun state holds _ => before state holds) _ _
  have keepsQ (round : TEEPair × ℕ) : Call.Maintains (Stored regionID pair.id config Q)
      (checkPair (now, now) regionID round.1.id) :=
    maintains_checkPair (fun state holds _ => behind state holds) _ _
  have returned := forM_returns (fun round _ => keepsP round)
    (fun round mem m stored => checkPair_fst stored.configured (known round mem) _) stored
  refine forM_reaches place (fun round _ => keepsP round) ?_ (fun round _ => keepsQ round) stored
    (Prod.ext returned rfl)
  rintro m ⟨configured, state, stored, holds⟩ -
  have configs : (checkPair (now, now) regionID pair.id m).2.configs = m.configs :=
    keeps_checkPair (fun _ _ => rfl) (fun _ _ => rfl) _ m
  exact ⟨configs ▸ configured, _, pairState_checkPair configured listed stored _,
    turns state holds⟩

/-- **Passes enough** find a pair healthy that is fit but for its errors. -/
theorem passes_recover (listed : hasPair pairID config = true) (n : ℕ) (m : RegionManager)
    (near : Stored regionID pairID config (Nearing now n) m) :
    Stored regionID pairID config (Healthy now)
      (run RecoveryCall.step m (replicate (n + 1) (.pass (fun _ => now) regionID))) := by
  induction n generalizing m with
  | zero =>
    exact pass_reaches listed near (fun _ near => near.judged_of_near)
      (fun _ near => near.judged_of_zero) fun _ healthy => healthy_judged healthy
  | succ n ih =>
    rw [replicate_succ, run_cons]
    exact ih _ (pass_reaches listed near (fun _ near => near.judged_of_near)
      (fun _ near => near.judged_of_succ) fun _ near => near.judged_of_near)

/-- **A report and passes** are enough for a pair that is not stuck. -/
theorem canRecover_of_free (listed : hasPair pairID config = true)
    (free : Stored regionID pairID config (fun state => ¬ Stuck now state) m) :
    CanRecover m regionID pairID now := by
  obtain ⟨configured, state, stored, free⟩ := free
  have reported : Stored regionID pairID config
      (Nearing now (errorsToWrap state.errorCount))
      ((goodReport now regionID pairID).step m) := by
    have configs : ((goodReport now regionID pairID).step m).configs = m.configs :=
      keeps_updateMetrics (fun _ _ => rfl) (fun _ _ => rfl) (fun _ _ => rfl) _ now _ m
    exact ⟨configs ▸ configured, _, pairState_updateMetrics configured stored _ now _,
      .of_good free ⟨rfl, rfl⟩ _⟩
  obtain ⟨-, last, recovered, healthy⟩ := passes_recover listed _ _ reported
  rw [← run_cons, ← recovery] at recovered
  refine ⟨_, now, chronological_recovery now regionID pairID _, last, recovered, healthy.status,
    healthy.errorCount, ?_⟩
  rw [healthy.lastHealthy, Time.sub_self]
  decide

/-- **When a pair can recover**, from any state of a pair in a configured region: it was healthy
less than five minutes ago, and its configuration lists it, or it is healthy as it is. -/
theorem canRecover_iff {state : TEEPairState}
    (configured : m.configs.lookup regionID = some (some config))
    (stored : m.pairState regionID pairID = some state) :
    CanRecover m regionID pairID now ↔
      now.sub state.lastHealthy < healthWindow ∧
        (hasPair pairID config = true ∨
          state.status = ascii "healthy" ∧ state.errorCount = 0) := by
  constructor
  · intro recovers
    have free : ¬ Stuck now state := fun stuck =>
      not_canRecover_of_stuck ⟨configured, state, stored, stuck⟩ recovers
    refine ⟨not_le.mp free, ?_⟩
    by_contra neither
    obtain ⟨unlisted, unhealthy⟩ := not_or.mp neither
    exact not_canRecover_of_unlisted (Bool.eq_false_of_not_eq_true unlisted)
      ⟨configured, state, stored, unhealthy⟩ recovers
  · rintro ⟨recent, listed | ⟨healthy, none⟩⟩
    · exact canRecover_of_free listed ⟨configured, state, stored, not_le.mpr recent⟩
    · exact ⟨[], now, ⟨le_rfl, by simp, by simp, .nil⟩, state, stored, healthy, none, recent⟩

end Recovery

/-- A manager with a region whose configuration lists a pair of the region's own ID. -/
def listedRegistered : RegionManager :=
  (registerTEEPair ⟨none, none, none⟩ (Time.unixUTC 0, Time.unixUTC 0) [1] (some (.sample [1]))
    (new emptyStorage)).2

/-- One bad report, and three passes at the times 1, 2 and 3. -/
def threeFailures : RegionManager :=
  run (fun m call => (call m).2) listedRegistered
    [updateMetrics ⟨none, none⟩ (Time.unixUTC 1) [1] [1] fun metrics =>
        { metrics with successRate := .finite 0 },
      checkRegionHealth (fun _ => Time.unixUTC 1) [1],
      checkRegionHealth (fun _ => Time.unixUTC 2) [1],
      checkRegionHealth (fun _ => Time.unixUTC 3) [1]]

/-- Even after three failures there is a way back, for as long as the five minutes last. -/
theorem canRecover_iff_threeFailures :
    (threeFailures.pairState [1] [1]).map (fun state => (state.status, state.errorCount)) =
        some (ascii "unhealthy", 3) ∧
      CanRecover threeFailures [1] [1] (Time.unixUTC 4) := by
  have configured : threeFailures.configs.lookup [1] = some (some (.sample [1])) := by
    decide +kernel
  have failed : (threeFailures.pairState [1] [1]).map
      (fun state => (state.status, state.errorCount)) = some (ascii "unhealthy", 3) := by
    decide +kernel
  have since : (threeFailures.pairState [1] [1]).map TEEPairState.lastHealthy =
      some (Time.unixUTC 0) := by
    decide +kernel
  obtain ⟨state, stored, last⟩ := Option.map_eq_some_iff.mp since
  refine ⟨failed, (canRecover_iff configured stored).mpr ⟨?_, .inl (by decide)⟩⟩
  rw [last]
  decide

/-- The first pass, five minutes after the registration. -/
def lateCheck : RegionManager :=
  (checkRegionHealth (fun _ => Time.unixUTC 300) [1] listedRegistered).2

/-- The late pass finds the pair unhealthy, and whatever is reported and checked from there on, it
does not become healthy again. -/
theorem never_recovers :
    (lateCheck.pairState [1] [1]).map (fun state => (state.status, state.errorCount)) =
        some (ascii "unhealthy", 1) ∧
      ¬ CanRecover lateCheck [1] [1] (Time.unixUTC 300) := by
  have failed : (lateCheck.pairState [1] [1]).map (fun state => (state.status, state.errorCount)) =
      some (ascii "unhealthy", 1) := by
    decide +kernel
  have configured : lateCheck.configs.lookup [1] = some (some (.sample [1])) := by
    decide +kernel
  have since : (lateCheck.pairState [1] [1]).map TEEPairState.lastHealthy =
      some (Time.unixUTC 0) := by
    decide +kernel
  obtain ⟨state, stored, last⟩ := Option.map_eq_some_iff.mp since
  refine ⟨failed, not_canRecover_of_stuck ⟨configured, state, stored, ?_⟩⟩
  rw [Stuck, last]
  decide

end RegionManager

end Regions

end Aristo
