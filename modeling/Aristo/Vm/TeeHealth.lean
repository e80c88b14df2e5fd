import Aristo.Regions.Balancer
import Aristo.Tee.Client

/-!
# Health of TEE pairs

`MonitorTEEHealth` of `vm/core.go` checks the two enclaves of a pair one after the other, and
`updateTEEStatus` makes a new record of the pair from each outcome, with the endpoint of that
enclave only.  So the balancer knows the outcome of the SEV check alone, and no SGX endpoint
(`monitorPair_eq`); `healthReflected_iff` says when this does not show.
-/

namespace Aristo

open GoBase Regions RegionBalancer

/-! ## Compute nodes -/

namespace Compute

/-- `NodeClient`, through what its connections answer. -/
structure NodeClient where
  /-- The state of the connection, unless it is ready. -/
  notReady : Option Bytes
  validatePlatforms : Except GoError Unit
  /-- The state hash of the result of the Rust bridge. -/
  teeBridge : Tee.ExecutionRequest → Except GoError Bytes
  grpcClient : Tee.TeeExecutionClient

namespace NodeClient

def validateConnection (c : NodeClient) : Except GoError Unit := do
  if let some state := c.notReady then
    throw (.plain (ascii "connection not ready: " ++ state))
  c.validatePlatforms.mapError (.wrap (ascii "TEE validation failed"))

def execute (c : NodeClient) (req : Tee.ExecutionRequest) : Except GoError ProtoResult := do
  let teeStateHash ← (c.teeBridge req).mapError (.wrap (ascii "TEE execution failed"))
  let result ← (c.grpcClient req).mapError (.wrap (ascii "compute node execution failed"))
  refuse (teeStateHash ≠ result.stateHash)
    (.plain (ascii "result mismatch between TEE and compute node"))
  return result

end NodeClient

end Compute

namespace Vm

/-! ## Checks and their records -/

/-- The enclave that is checked. -/
inductive TEEType where
  | sgx
  | sev

def healthRequest : Tee.ExecutionRequest where
  idTo := []
  functionCall := ascii "health"
  parameters := ascii "health-check"
  regionID := ascii "health-check"
  detailedProof := false

def checkTEEHealth (computeNodes : GoMap Bytes Compute.NodeClient) (endpoint : Bytes) :
    Except GoError Unit :=
  match computeNodes.lookup endpoint with
  | none => .error (.plain (ascii "compute node not found for endpoint " ++ endpoint))
  | some client => do
    client.validateConnection.mapError (.wrap (ascii "connection validation failed"))
    let _ ← (client.execute healthRequest).mapError
      (.wrap (ascii "health check execution failed"))

/-- The record that `updateTEEStatus` makes.  It reads the clock for the check and, of a healthy
enclave, once more. -/
def statusMetrics (pairID : Bytes) (teeType : TEEType) (healthy : Bool)
    (clock : Time × Time) : TEEPairMetrics where
  pairID := pairID
  sgxEndpoint := match teeType with
    | .sgx => pairID ++ ascii "-sgx"
    | .sev => []
  sevEndpoint := match teeType with
    | .sgx => []
    | .sev => pairID ++ ascii "-sev"
  lastHealthCheck := clock.1
  lastHealthy := if healthy then clock.2 else Time.zero
  successRate := if healthy then .finite 1 else .finite 0
  loadFactor := if healthy then .finite 0 else .finite 1

theorem statusMetrics_pairID (pairID : Bytes) (teeType : TEEType) (healthy : Bool)
    (clock : Time × Time) : (statusMetrics pairID teeType healthy clock).pairID = pairID :=
  rfl

def updateTEEStatus (regionID pairID : Bytes) (teeType : TEEType) (healthy : Bool)
    (clock : Time × Time) : RegionBalancer → RegionBalancer :=
  updatePairMetrics regionID pairID (statusMetrics pairID teeType healthy clock)
    (statusMetrics_pairID pairID teeType healthy clock)

/-- The body of the loop of `MonitorTEEHealth`, for one pair; `sgx` and `sev` are the outcomes. -/
def monitorPair (sgx sev : Except GoError Unit) (regionID : Bytes) (pair : TEEPair)
    (sgxClock sevClock : Time × Time) (rb : RegionBalancer) : RegionBalancer :=
  updateTEEStatus regionID pair.id .sev sev.isOk sevClock
    (updateTEEStatus regionID pair.id .sgx sgx.isOk sgxClock rb)

theorem monitorPair_eq (sgx sev : Except GoError Unit) (regionID : Bytes) (pair : TEEPair)
    (sgxClock sevClock : Time × Time) (rb : RegionBalancer) :
    monitorPair sgx sev regionID pair sgxClock sevClock rb =
      updateTEEStatus regionID pair.id .sev sev.isOk sevClock rb :=
  updatePairMetrics_updatePairMetrics (statusMetrics_pairID _ _ _ _)
    (statusMetrics_pairID _ _ _ _) rb

/-! ## What the selection makes of them -/

/-- A pair with a failed check is not selected, and one without is selected with its own
endpoints only. -/
structure HealthReflected (sgx sev : Except GoError Unit) (pair : TEEPair)
    (selection : Except GoError TEEPair) : Prop where
  failed : ¬ (sgx = .ok () ∧ sev = .ok ()) → ∀ chosen, selection = .ok chosen →
    chosen.id ≠ pair.id
  passed : sgx = .ok () ∧ sev = .ok () → ∀ chosen, selection = .ok chosen →
    chosen.id = pair.id →
      (chosen.sgxEndpoint = pair.sgxEndpoint ∧ chosen.sgxEndpoint ≠ []) ∧
        chosen.sevEndpoint = pair.sevEndpoint ∧ chosen.sevEndpoint ≠ []

/-- **When the health of a pair is reflected**: exactly when the record of the SEV check is not the
one to be selected in its place. -/
theorem healthReflected_iff (computeNodes : GoMap Bytes Compute.NodeClient) (regionID : Bytes)
    (pair : TEEPair) (sgxClock sevClock : Time × Time) (rb : RegionBalancer)
    (now : Bytes → Time) :
    let sgx := checkTEEHealth computeNodes pair.sgxEndpoint
    let sev := checkTEEHealth computeNodes pair.sevEndpoint
    HealthReflected sgx sev pair (selectOptimalPair now regionID
        (monitorPair sgx sev regionID pair sgxClock sevClock rb)) ↔
      ¬ rb.OptimalInPlace now regionID (statusMetrics pair.id .sev sev.isOk sevClock) := by
  intro sgx sev
  have selected_iff (chosen : TEEPair) :
      selectOptimalPair now regionID
            (monitorPair sgx sev regionID pair sgxClock sevClock rb) = .ok chosen ∧
          chosen.id = pair.id ↔
        chosen = selected (statusMetrics pair.id .sev sev.isOk sevClock) ∧
          rb.OptimalInPlace now regionID (statusMetrics pair.id .sev sev.isOk sevClock) := by
    rw [monitorPair_eq]
    exact selectOptimalPair_updated_iff (statusMetrics_pairID _ _ _ _)
  constructor
  · intro reflected optimal
    obtain ⟨selects, same⟩ := (selected_iff _).mpr ⟨rfl, optimal⟩
    -- the pair is selected: with a failed check it must not be, and without one it has no SGX
    -- endpoint
    by_cases passed : sgx = .ok () ∧ sev = .ok ()
    · exact (reflected.passed passed _ selects same).1.2 rfl
    · exact reflected.failed passed _ selects same
  · intro outranked
    refine ⟨fun _ chosen selects same => ?_, fun _ chosen selects same => ?_⟩
    · exact outranked ((selected_iff chosen).mp ⟨selects, same⟩).2
    · exact absurd ((selected_iff chosen).mp ⟨selects, same⟩).2 outranked

def answeringNode : Compute.NodeClient where
  notReady := none
  validatePlatforms := .ok ()
  teeBridge _ := .ok []
  grpcClient _ := .ok { timestamp := [], attestations := [], stateHash := [], result := [] }

/-- With the SGX node gone the pair is selected all the same, and without an SGX endpoint. -/
theorem selected_without_sgx :
    let pair : TEEPair := ⟨[1], [2], [3], ascii "sgx", ascii "sev", ascii "active"⟩
    let nodes : GoMap Bytes Compute.NodeClient :=
      (∅ : GoMap Bytes Compute.NodeClient).insert (ascii "sev") answeringNode
    let sgx := checkTEEHealth nodes pair.sgxEndpoint
    let sev := checkTEEHealth nodes pair.sevEndpoint
    let clock := (Time.unixUTC 100, Time.unixUTC 100)
    sgx ≠ .ok () ∧
      selectOptimalPair (fun _ => Time.unixUTC 101) [7]
          (monitorPair sgx sev [7] pair clock clock (.new .default)) =
        .ok ⟨[1], [], [], [], [1] ++ ascii "-sev", ascii "active"⟩ := by
  decide +kernel

end Vm

end Aristo
