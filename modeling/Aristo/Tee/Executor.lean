import Aristo.Compute.Node
import Aristo.Timeserver.Network

/-!
# The executor of the two TEEs

`Executor` of `tee/executor.go` runs one input in both enclaves through the Rust controller, sets
the time of the first attestation of each result to the verified time, and compares the results.
What the controller returns and the time that the network verifies are parameters.
-/

namespace Aristo

open GoBase Compute Timeserver

namespace Tee

structure CoreResult extends Compute.ExecutionResult where
  regionID : Bytes
  timeProof : Option VerifiedTimestamp

/-- `core.ExecutionRequest`, as far as the executor reads it. -/
structure CoreRequest where
  parameters : Bytes
  regionID : Bytes
  timeProof : Option VerifiedTimestamp

/-- What the executor relies on: the two backends of the controller and the time network. -/
structure Executor where
  connectorSGX : Bytes → Except GoError CoreResult
  connectorSEV : Bytes → Except GoError CoreResult
  verifyExecutionTime : Bytes → Except GoError VerifiedTimestamp

namespace Executor

/-- `5 * time.Minute`, in nanoseconds. -/
def maxDrift : ℤ := 300000000000

/-- The time of the first attestation is the verified one. -/
def stamp (timeProof : Option VerifiedTimestamp) (result : CoreResult) : CoreResult :=
  match timeProof with
  | none => result
  | some proof =>
    { result with
      attestations := ({ result.attestations.1 with timestamp := proof.time },
        result.attestations.2) }

/-- `executeSGX` and `executeSEV`, which differ in the backend and in the text of the error. -/
def executeBackend (backend : Bytes → Except GoError CoreResult) (failed : String)
    (req : CoreRequest) : Except GoError CoreResult := do
  let result ← (backend req.parameters).mapError (.wrap (ascii failed))
  return stamp req.timeProof result

def executeSGX (e : Executor) : CoreRequest → Except GoError CoreResult :=
  executeBackend e.connectorSGX "SGX execution failed"

def executeSEV (e : Executor) : CoreRequest → Except GoError CoreResult :=
  executeBackend e.connectorSEV "SEV execution failed"

/-- `verifyAttestation` at a current time. -/
def verifyAttestation (now : Time) (att : TEEAttestation) : Except GoError Unit := do
  refuse (att.enclaveID = []) (.plain (ascii "missing enclave ID"))
  refuse (att.measurement = []) (.plain (ascii "missing measurement"))
  refuse (att.timestamp.Equal Time.zero) (.plain (ascii "missing timestamp"))
  let diff := now.sub att.timestamp
  refuse (diff > maxDrift ∨ diff < -maxDrift)
    (.plain (ascii "timestamp outside acceptable range"))
  refuse (att.data = []) (.plain (ascii "missing attestation data"))

/-- `verifyResults`; the two calls of `verifyAttestation` each read the clock. -/
def verifyResults (now now' : Time) (sgx sev : CoreResult) : Except GoError Unit := do
  refuse (sgx.output ≠ sev.output) (.plain (ascii "output mismatch between TEEs"))
  refuse (sgx.stateHash ≠ sev.stateHash) (.plain (ascii "state hash mismatch between TEEs"))
  (verifyAttestation now sgx.attestations.1).mapError (.wrap (ascii "SGX attestation invalid"))
  (verifyAttestation now' sev.attestations.1).mapError (.wrap (ascii "SEV attestation invalid"))
  refuse (¬ sgx.attestations.1.timestamp.Equal sev.attestations.1.timestamp)
    (.plain (ascii "timestamp mismatch between attestations"))

/-- The request with the time that `Execute` puts into it when there is none. -/
def timed (e : Executor) (req : CoreRequest) : Except GoError CoreRequest :=
  match req.timeProof with
  | some _ => .ok req
  | none => do
    let timestamp ← (e.verifyExecutionTime req.regionID).mapError
      (.wrap (ascii "failed to verify execution time"))
    return { req with timeProof := some timestamp }

/-- The results that `Execute` compares, and the request they answer. -/
def results (e : Executor) (req : CoreRequest) :
    Except GoError (CoreRequest × CoreResult × CoreResult) := do
  let req ← e.timed req
  let sgxResult ← (e.executeSGX req).mapError (.wrap (ascii "SGX execution failed"))
  let sevResult ← (e.executeSEV req).mapError (.wrap (ascii "SEV execution failed"))
  return (req, sgxResult, sevResult)

def execute (now now' : Time) (e : Executor) (req : CoreRequest) : Except GoError CoreResult := do
  let (req, sgxResult, sevResult) ← e.results req
  (verifyResults now now' sgxResult sevResult).mapError
    (.wrap (ascii "result verification failed"))
  return {
    output := sgxResult.output
    stateHash := sgxResult.stateHash
    regionID := req.regionID
    attestations := (sgxResult.attestations.1, sevResult.attestations.1)
    timeProof := req.timeProof }

theorem agree_of_execute {now now' : Time} {e : Executor} {req : CoreRequest} {result : CoreResult}
    (accepted : execute now now' e req = .ok result) :
    ∃ req' sgxResult sevResult, e.results req = .ok (req', sgxResult, sevResult) ∧
      (result.output = sgxResult.output ∧ result.output = sevResult.output) ∧
      result.stateHash = sgxResult.stateHash ∧ result.stateHash = sevResult.stateHash := by
  obtain ⟨⟨req', sgxResult, sevResult⟩, results, accepted⟩ := except_bind_eq_ok.mp accepted
  obtain ⟨verified, returned⟩ := except_seq_eq_ok.mp accepted
  simp only [mapError_eq_ok, verifyResults, except_seq_eq_ok, refuse_eq_ok, not_not] at verified
  obtain ⟨output, stateHash, -⟩ := verified
  cases returned
  exact ⟨req', sgxResult, sevResult, results, ⟨rfl, output⟩, rfl, stateHash⟩

end Executor

end Tee

end Aristo
