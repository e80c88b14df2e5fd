import Aristo.Base.GoMap
import Aristo.Base.Run
import Aristo.Interfaces

/-!
# The TEE pair manager

`TEEPairManager` of `regions/pair_manager.go`.  `CreatePair` registers two workers, enters the
pair's metrics, saves the pair's info and enters the info, and nothing is undone when a call out
fails.  `GetPair` reads a third map, `pairs`, which no method writes.

The coordinator and the storage are the maps that their calls write, with one possible failure for
each call.  `Close` sets the maps of the manager to nil; writing a nil map panics.
-/

namespace Aristo

open GoBase Finmap Call Interfaces

namespace Regions

/-- `TEEPairManager`; a nil map is `none`. -/
structure TEEPairManager where
  pairs : Option (GoMap Bytes TEEPair)
  metrics : Option (GoMap Bytes TEEPairMetrics)
  info : Option (GoMap Bytes TEEPairInfo)

/-- A manager with the workers of its coordinator and the contents of its storage. -/
structure PairWorld where
  manager : TEEPairManager
  workers : GoMap Bytes Bytes
  saved : GoMap Bytes TEEPairInfo
  savedMetrics : GoMap Bytes TEEPairMetrics

/-- What is under a key of a map that can be nil. -/
def entry {α : Type} (map : Option (GoMap Bytes α)) (key : Bytes) : Option α :=
  map.bind fun entries => entries.lookup key

namespace TEEPairManager

def new : TEEPairManager where
  pairs := some ∅
  metrics := some ∅
  info := some ∅

def getPair (pairID : Bytes) (pm : TEEPairManager) : Except GoError TEEPair :=
  match entry pm.pairs pairID with
  | none => .error (.plain (ascii "TEE pair " ++ pairID ++ ascii " not found"))
  | some pair => .ok pair

def getPairInfo (pairID : Bytes) (pm : TEEPairManager) : Except GoError TEEPairInfo :=
  match entry pm.info pairID with
  | none => .error (.plain (ascii "TEE pair info " ++ pairID ++ ascii " not found"))
  | some info => .ok info

def getMetrics (pairID : Bytes) (pm : TEEPairManager) :
    Except GoError TEEPairMetrics :=
  match entry pm.metrics pairID with
  | none => .error (.plain (ascii "metrics not found for TEE pair " ++ pairID))
  | some metrics => .ok metrics

/-- `ListPairs`, visiting the infos in `order`. -/
def listPairs (order : List Bytes) (pm : TEEPairManager) : List TEEPairInfo :=
  order.filterMap (entry pm.info)

end TEEPairManager

namespace PairWorld

/-! ## What the manager calls -/

def registerWorker (fault : Option GoError) (workerID enclaveID : Bytes) :
    Call PairWorld Unit :=
  match fault with
  | some error => Call.fail error
  | none => Call.modify fun w => { w with workers := w.workers.insert workerID enclaveID }

def saveTEEPairInfo (fault : Option GoError) (info : TEEPairInfo) :
    Call PairWorld Unit :=
  match fault with
  | some error => Call.fail error
  | none => Call.modify fun w => { w with saved := w.saved.insert info.id info }

def saveTEEMetrics (fault : Option GoError) (pairID : Bytes)
    (metrics : TEEPairMetrics) : Call PairWorld Unit :=
  match fault with
  | some error => Call.fail error
  | none => Call.modify fun w => { w with savedMetrics := w.savedMetrics.insert pairID metrics }

def putMetrics (pairID : Bytes) (metrics : TEEPairMetrics) :
    Call PairWorld Unit := do
  let w ← Call.read
  match w.manager.metrics with
  | none => Call.crash
  | some entries =>
    Call.modify fun w =>
      { w with manager := { w.manager with metrics := some (entries.insert pairID metrics) } }

def putInfo (pairID : Bytes) (info : TEEPairInfo) : Call PairWorld Unit := do
  let w ← Call.read
  match w.manager.info with
  | none => Call.crash
  | some entries =>
    Call.modify fun w =>
      { w with manager := { w.manager with info := some (entries.insert pairID info) } }

/-! ## The methods -/

/-- The failures of one `CreatePair`. -/
structure CreateFaults where
  sgx : Option GoError
  sev : Option GoError
  save : Option GoError

def sgxWorkerID (pairID : Bytes) : Bytes :=
  ascii "sgx-" ++ pairID

def sevWorkerID (pairID : Bytes) : Bytes :=
  ascii "sev-" ++ pairID

def activeInfo (config : TEEPairConfig) : TEEPairInfo where
  id := config.id
  sgxEndpoint := config.sgxEndpoint
  sevEndpoint := config.sevEndpoint
  status := ascii "active"
  lastUpdate := Time.zero

def initialMetrics (now : Time) (pairID : Bytes) : TEEPairMetrics where
  pairID := pairID
  loadFactor := .finite 0
  successRate := .finite 1
  errorRate := .finite 0
  tasksProcessed := 0
  lastUpdate := now

/-- `CreatePair`, at time `now`; a nil configuration is `none`. -/
def createPair (faults : CreateFaults) (now : Time) (config : Option TEEPairConfig) :
    Call PairWorld TEEPairInfo :=
  match config with
  | none => Call.crash
  | some config => do
    let info := activeInfo config
    Call.wrapping (ascii "failed to register SGX worker")
      (registerWorker faults.sgx (sgxWorkerID config.id) (ascii "sgx-enclave"))
    Call.wrapping (ascii "failed to register SEV worker")
      (registerWorker faults.sev (sevWorkerID config.id) (ascii "sev-enclave"))
    putMetrics config.id (initialMetrics now config.id)
    Call.wrapping (ascii "failed to save TEE pair info") (saveTEEPairInfo faults.save info)
    putInfo config.id info
    return info

/-- `UpdatePairStatus`: the status is set before it is saved. -/
def updatePairStatus (fault : Option GoError) (now : Time) (pairID status : Bytes) :
    Call PairWorld Unit := do
  let w ← Call.read
  match entry w.manager.info pairID with
  | none => Call.fail (.plain (ascii "TEE pair " ++ pairID ++ ascii " not found"))
  | some info =>
    putInfo pairID { info with status }
    match entry w.manager.metrics pairID with
    | none => Call.crash
    | some metrics =>
      putMetrics pairID { metrics with lastUpdate := now }
      Call.wrapping (ascii "failed to save TEE pair status")
        (saveTEEPairInfo fault { info with status })

def updateMetrics (fault : Option GoError) (pairID : Bytes)
    (updateFn : TEEPairMetrics → TEEPairMetrics) : Call PairWorld Unit := do
  let w ← Call.read
  match entry w.manager.metrics pairID with
  | none => Call.fail (.plain (ascii "metrics not found for TEE pair " ++ pairID))
  | some metrics =>
    putMetrics pairID (updateFn metrics)
    Call.wrapping (ascii "failed to save metrics")
      (saveTEEMetrics fault pairID (updateFn metrics))

def close : Call PairWorld Unit :=
  Call.modify fun w => { w with manager := { pairs := none, metrics := none, info := none } }

/-! ## All or nothing -/

section Ends

variable {faults : CreateFaults} {now : Time} {config : TEEPairConfig} {w : PairWorld}
  {error : GoError} {metrics : GoMap Bytes TEEPairMetrics}
  {infos : GoMap Bytes TEEPairInfo}

def registered (pairID : Bytes) (workers : GoMap Bytes Bytes) : GoMap Bytes Bytes :=
  (workers.insert (sgxWorkerID pairID) (ascii "sgx-enclave")).insert (sevWorkerID pairID)
    (ascii "sev-enclave")

/-- Registering both workers changes nothing exactly when both are already registered so. -/
theorem registered_eq_self_iff {pairID : Bytes} {workers : GoMap Bytes Bytes} :
    registered pairID workers = workers ↔
      workers.lookup (sgxWorkerID pairID) = some (ascii "sgx-enclave") ∧
        workers.lookup (sevWorkerID pairID) = some (ascii "sev-enclave") := by
  have apart : sevWorkerID pairID ≠ sgxWorkerID pairID := fun equal =>
    absurd (List.append_cancel_right equal : ascii "sev-" = ascii "sgx-") (by decide)
  constructor
  · intro same
    constructor
    · rw [← same, registered, lookup_insert_of_ne _ apart.symm, lookup_insert]
    · rw [← same, registered, lookup_insert]
  · rintro ⟨sgx, sev⟩
    rw [registered, GoMap.insert_eq_self_iff.mpr sgx, GoMap.insert_eq_self_iff.mpr sev]

/-- The workers, the stored infos, and the metrics and infos of the manager are as they were. -/
def Untouched (w after : PairWorld) : Prop :=
  after.workers = w.workers ∧ after.saved = w.saved ∧
    after.manager.metrics = w.manager.metrics ∧ after.manager.info = w.manager.info

/-- The pair is found by `GetPair`, `GetPairInfo`, `GetMetrics` and `ListPairs`. -/
structure Found (pairID : Bytes) (info : TEEPairInfo) (pm : TEEPairManager) :
    Prop where
  getPair : ∃ pair, pm.getPair pairID = .ok pair
  getPairInfo : pm.getPairInfo pairID = .ok info
  getMetrics : ∃ metrics, pm.getMetrics pairID = .ok metrics
  listPairs : ∀ order, (pm.info.getD ∅).Visits order → info ∈ pm.listPairs order

/-- A `CreatePair` that fails leaves everything as it was, and one that succeeds leaves a pair that
is found everywhere. -/
def AllOrNothing (faults : CreateFaults) (now : Time) (config : Option TEEPairConfig)
    (w : PairWorld) : Prop :=
  ((createPair faults now config w).1.Failed →
      Untouched w (createPair faults now config w).2) ∧
    ∀ info, (createPair faults now config w).1 = .ok info →
      ∀ c ∈ config, Found c.id info (createPair faults now config w).2.manager

/-- What has to be there already: for a failure, all that was written before it, and for a success,
an entry of `pairs`. -/
@[mk_iff]
structure AlreadyThere (faults : CreateFaults) (now : Time) (config : TEEPairConfig)
    (w : PairWorld) : Prop where
  sev_fault : faults.sgx = none → faults.sev ≠ none →
    w.workers.lookup (sgxWorkerID config.id) = some (ascii "sgx-enclave")
  save_fault : faults.sgx = none → faults.sev = none → faults.save ≠ none →
    ∀ metrics, w.manager.metrics = some metrics →
      (w.workers.lookup (sgxWorkerID config.id) = some (ascii "sgx-enclave") ∧
        w.workers.lookup (sevWorkerID config.id) = some (ascii "sev-enclave")) ∧
      metrics.lookup config.id = some (initialMetrics now config.id)
  no_fault : faults.sgx = none → faults.sev = none → faults.save = none →
    w.manager.metrics ≠ none → w.manager.info ≠ none →
      ∃ pair, w.manager.getPair config.id = .ok pair

/-- A pair with infos and metrics is found everywhere when `GetPair` finds it. -/
theorem found_iff {pairID : Bytes} {info : TEEPairInfo} {pm : TEEPairManager}
    (holds : pm.info = some infos) (stored : infos.lookup pairID = some info)
    (metrics : ∃ m, pm.getMetrics pairID = .ok m) :
    Found pairID info pm ↔ ∃ pair, pm.getPair pairID = .ok pair := by
  have here : entry pm.info pairID = some info := by
    rw [holds]
    exact stored
  constructor
  · exact Found.getPair
  · intro pair
    refine ⟨pair, ?_, metrics, ?_⟩
    · simp only [TEEPairManager.getPairInfo, here]
    · intro order visits
      have mem : pairID ∈ order := by
        rw [visits.mem_iff, holds]
        exact mem_of_lookup_eq_some stored
      exact List.mem_filterMap.mpr ⟨pairID, mem, here⟩

/-- Nothing is asked of a call that panics, -/
theorem allOrNothing_of_panicked {config : Option TEEPairConfig}
    (ended : (createPair faults now config w).1 = .panicked) :
    AllOrNothing faults now config w := by
  simp [AllOrNothing, ended, Outcome.Failed]

/-- of one that fails, that it left no trace, -/
theorem allOrNothing_iff_of_err {after : PairWorld}
    (ended : createPair faults now (some config) w = (.err error, after)) :
    AllOrNothing faults now (some config) w ↔ Untouched w after := by
  simp [AllOrNothing, ended]

/-- and of one that succeeds, that the pair is found. -/
theorem allOrNothing_iff_of_ok {info : TEEPairInfo} {after : PairWorld}
    (ended : createPair faults now (some config) w = (.ok info, after)) :
    AllOrNothing faults now (some config) w ↔ Found config.id info after.manager := by
  simp [AllOrNothing, ended]

/-- When the info is not saved, the two workers and the metrics are left behind. -/
theorem allOrNothing_save_fault_iff (entries : w.manager.metrics = some metrics) :
    AllOrNothing ⟨none, none, some error⟩ now (some config) w ↔
      (w.workers.lookup (sgxWorkerID config.id) = some (ascii "sgx-enclave") ∧
        w.workers.lookup (sevWorkerID config.id) = some (ascii "sev-enclave")) ∧
      metrics.lookup config.id = some (initialMetrics now config.id) := by
  obtain ⟨⟨pairs, _, info⟩, workers, saved, savedMetrics⟩ := w
  cases entries
  have ended : createPair ⟨none, none, some error⟩ now (some config)
      ⟨⟨pairs, some metrics, info⟩, workers, saved, savedMetrics⟩ =
        (.err (error.wrap (ascii "failed to save TEE pair info")),
          ⟨⟨pairs, some (metrics.insert config.id (initialMetrics now config.id)), info⟩,
            registered config.id workers, saved, savedMetrics⟩) := rfl
  rw [allOrNothing_iff_of_err ended, Untouched, registered_eq_self_iff, Option.some.injEq,
    GoMap.insert_eq_self_iff]
  simp

/-- When all is saved, the pair is found but for its entry of `pairs`. -/
theorem allOrNothing_no_fault_iff (entries : w.manager.metrics = some metrics)
    (info : w.manager.info = some infos) :
    AllOrNothing ⟨none, none, none⟩ now (some config) w ↔
      ∃ pair, w.manager.getPair config.id = .ok pair := by
  obtain ⟨⟨pairs, _, _⟩, workers, saved, savedMetrics⟩ := w
  cases entries
  cases info
  rw [allOrNothing_iff_of_ok rfl]
  refine found_iff rfl (lookup_insert _) ⟨initialMetrics now config.id, ?_⟩
  have here : entry (some (metrics.insert config.id (initialMetrics now config.id))) config.id =
      some (initialMetrics now config.id) := lookup_insert _
  simp only [TEEPairManager.getMetrics, here]

end Ends

/-- **When `CreatePair` is all or nothing.**  The cases follow the order of its effects; a call that
panics neither fails nor succeeds. -/
theorem allOrNothing_iff (faults : CreateFaults) (now : Time)
    (config : Option TEEPairConfig) (w : PairWorld) :
    AllOrNothing faults now config w ↔ ∀ c ∈ config, AlreadyThere faults now c w := by
  cases config with
  | none => simp [allOrNothing_of_panicked (show (createPair faults now none w).1 = _ from rfl)]
  | some config =>
    simp only [Option.mem_some_iff, forall_eq']
    rw [alreadyThere_iff]
    obtain ⟨sgx, sev, save⟩ := faults
    obtain ⟨⟨pairs, metrics, info⟩, workers, saved, savedMetrics⟩ := w
    cases sgx with
    | some =>
      rw [allOrNothing_iff_of_err rfl]
      simp [Untouched]
    | none =>
      cases sev with
      | some =>
        rw [allOrNothing_iff_of_err rfl, Untouched, GoMap.insert_eq_self_iff]
        simp
      | none =>
        cases metrics with
        | none => exact iff_of_true (allOrNothing_of_panicked rfl) (by simp)
        | some =>
          cases save with
          | some =>
            rw [allOrNothing_save_fault_iff rfl]
            simp
          | none =>
            cases info with
            | none => exact iff_of_true (allOrNothing_of_panicked rfl) (by simp)
            | some =>
              rw [allOrNothing_no_fault_iff rfl rfl]
              simp

def start : PairWorld where
  manager := .new
  workers := ∅
  saved := ∅
  savedMetrics := ∅

/-- On a new manager neither half holds: a `CreatePair` that meets no failure makes a pair that
`GetPair` does not find, and one whose save fails leaves two workers and the metrics behind. -/
theorem not_allOrNothing_new :
    ¬ AllOrNothing ⟨none, none, none⟩ Time.zero
        (some ⟨ascii "p", ascii "sgx", ascii "sev", []⟩) start ∧
      ¬ AllOrNothing ⟨none, none, some (.plain (ascii "full"))⟩ Time.zero
        (some ⟨ascii "p", ascii "sgx", ascii "sev", []⟩) start := by
  constructor
  · rw [allOrNothing_no_fault_iff rfl rfl]
    rintro ⟨pair, found⟩
    cases found
  · rw [allOrNothing_save_fault_iff rfl]
    rintro ⟨⟨sgx, _⟩, _⟩
    cases sgx

/-! ## No run fills `pairs` -/

inductive ManagerCall where
  | createPair (faults : CreateFaults) (now : Time) (config : Option TEEPairConfig)
  | updatePairStatus (fault : Option GoError) (now : Time) (pairID status : Bytes)
  | updateMetrics (fault : Option GoError) (pairID : Bytes)
      (updateFn : TEEPairMetrics → TEEPairMetrics)
  | close

def ManagerCall.apply (w : PairWorld) : ManagerCall → PairWorld
  | .createPair faults now config => (PairWorld.createPair faults now config w).2
  | .updatePairStatus fault now pairID status =>
    (PairWorld.updatePairStatus fault now pairID status w).2
  | .updateMetrics fault pairID updateFn => (PairWorld.updateMetrics fault pairID updateFn w).2
  | .close => (PairWorld.close w).2

/-- `GetPair` finds nothing. -/
def NoPairs (w : PairWorld) : Prop :=
  ∀ pairID, entry w.manager.pairs pairID = none

theorem saveTEEPairInfo_maintains (fault : Option GoError) (info : TEEPairInfo) :
    Call.Maintains NoPairs (saveTEEPairInfo fault info) := by
  cases fault <;> exact fun _ none => none

theorem putMetrics_maintains (pairID : Bytes) (metrics : TEEPairMetrics) :
    Call.Maintains NoPairs (putMetrics pairID metrics) := by
  rintro ⟨⟨pairs, entries, info⟩, workers, saved, savedMetrics⟩ none
  cases entries <;> exact none

theorem putInfo_maintains (pairID : Bytes) (info : TEEPairInfo) :
    Call.Maintains NoPairs (putInfo pairID info) := by
  rintro ⟨⟨pairs, metrics, entries⟩, workers, saved, savedMetrics⟩ none
  cases entries <;> exact none

/-- **No method writes `pairs`.** -/
theorem ManagerCall.apply_noPairs {w : PairWorld} (none : NoPairs w) (call : ManagerCall) :
    NoPairs (call.apply w) := by
  cases call with
  | createPair faults now config =>
    cases config with
    | none => exact none
    | some config =>
      have register (fault : Option GoError) (workerID enclaveID : Bytes) :
          Call.Maintains NoPairs (registerWorker fault workerID enclaveID) := by
        cases fault <;> exact fun _ none => none
      refine maintains_bind (maintains_wrapping (register _ _ _)) (fun _ => ?_) w none
      refine maintains_bind (maintains_wrapping (register _ _ _)) fun _ => ?_
      refine maintains_bind (putMetrics_maintains _ _) fun _ => ?_
      refine maintains_bind (maintains_wrapping (saveTEEPairInfo_maintains _ _)) fun _ => ?_
      exact maintains_bind (putInfo_maintains _ _) fun _ => maintains_pure _
  | updatePairStatus fault now pairID status =>
    refine maintains_bind (fun _ none => none) (fun w => ?_) w none
    cases entry w.manager.info pairID with
    | none => exact maintains_fail _
    | some =>
      refine maintains_bind (putInfo_maintains _ _) fun _ => ?_
      cases entry w.manager.metrics pairID with
      | none => exact fun _ none => none
      | some =>
        exact maintains_bind (putMetrics_maintains _ _) fun _ =>
          maintains_wrapping (saveTEEPairInfo_maintains _ _)
  | updateMetrics fault pairID updateFn =>
    refine maintains_bind (fun _ none => none) (fun w => ?_) w none
    cases entry w.manager.metrics pairID with
    | none => exact maintains_fail _
    | some =>
      refine maintains_bind (putMetrics_maintains _ _) fun _ => maintains_wrapping ?_
      cases fault <;> exact fun _ none => none
  | close => exact fun _ => rfl

/-- Whatever is called on a new manager, `GetPair` finds no pair: the entry of `pairs` that a
success needs is never there. -/
theorem getPair_run_new (calls : List ManagerCall) (pairID : Bytes) :
    (run ManagerCall.apply start calls).manager.getPair pairID =
      .error (.plain (ascii "TEE pair " ++ pairID ++ ascii " not found")) := by
  have reached : NoPairs (run ManagerCall.apply start calls) :=
    run_preserves (fun _ call none => call.apply_noPairs none) (fun _ => rfl) calls
  simp only [TEEPairManager.getPair, reached pairID]

end PairWorld

end Regions

end Aristo
