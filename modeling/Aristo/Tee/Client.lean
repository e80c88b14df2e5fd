import Aristo.Compute.Node
import Aristo.Core.Attestation
import Aristo.Verifier.Verifier

/-!
# The client of the two TEEs

`Client` of `tee/client.go` sends an event to an SGX and to an SEV enclave and accepts when their
results agree, and `tee/types.go` turns the attestations of the messages into those of the core.
`convertToProtoResult` of the compute nodes does not set the signature, so these are never what went
in (`converted_attestations`).  `time.Parse` is a parameter, with `ReadsBack` assumed of it.
-/

namespace Aristo

open GoBase Compute TEEAttestation

namespace Tee

/-! ## Conversion of attestations -/

section Conversion

variable (parse : Bytes → Except GoError Time)

def protoToCoreAttestation (proto : ProtoAttestation) : Except GoError TEEAttestation := do
  let timestamp ← parse proto.timestamp
  return {
    enclaveID := proto.enclaveID
    measurement := proto.measurement
    timestamp
    data := proto.data
    signature := proto.signature
    regionProof := proto.regionProof }

def protoToCoreAttestations : List ProtoAttestation →
    Except GoError (TEEAttestation × TEEAttestation)
  | [first, second] => do
    let first ← protoToCoreAttestation parse first
    let second ← protoToCoreAttestation parse second
    return (first, second)
  | protos =>
    .error (.plain (ascii "expected 2 attestations, got " ++ Time.signed 1 protos.length))

/-- Parsing the text of the time gives the same instant. -/
def ReadsBack (t : Time) : Prop :=
  ∃ u, parse t.formatRFC3339 = .ok u ∧ u.Equal t

end Conversion

section Survival

variable {parse : Bytes → Except GoError Time}

theorem equal_zero_congr {t u : Time} (same : t.Equal u) :
    t.Equal Time.zero ↔ u.Equal Time.zero := by
  rw [Time.equal_iff, Time.equal_iff, (Time.equal_iff t u).mp same]

theorem protoToCoreAttestation_convertAttestation {att : TEEAttestation}
    (valid : att.validate = .ok ()) (reads : ReadsBack parse att.timestamp) :
    ∃ converted, protoToCoreAttestation parse (convertAttestation att) = .ok converted ∧
      ¬ converted.Equal att ∧
      converted.validate = .error errMissingSignature := by
  obtain ⟨named, measured, stamped, signed⟩ := (validate_eq_ok_iff att).mp valid
  obtain ⟨timestamp, parsed, same⟩ := reads
  refine ⟨{ att with timestamp, signature := [] }, ?_, ?_, ?_⟩
  · rw [protoToCoreAttestation, convertAttestation, parsed]
    rfl
  · rintro ⟨-, -, -, -, signature, -⟩
    exact signed signature.symm
  · exact validate_of_noSignature named measured
      (fun zero => stamped ((equal_zero_congr same).mp zero)) rfl

/-- **Attestations do not survive the conversion.**  Of every result with two valid attestations
both come back different from the originals, and neither is valid any more. -/
theorem converted_attestations (now : Time) (result : ExecutionResult)
    (valid : result.attestations.1.validate = .ok ())
    (valid' : result.attestations.2.validate = .ok ())
    (reads : ReadsBack parse result.attestations.1.timestamp)
    (reads' : ReadsBack parse result.attestations.2.timestamp) :
    ∃ first second,
      protoToCoreAttestations parse (convertToProtoResult now result).attestations =
        .ok (first, second) ∧
      (¬ first.Equal result.attestations.1 ∧ ¬ second.Equal result.attestations.2) ∧
      first.validate = .error errMissingSignature ∧
      second.validate = .error errMissingSignature := by
  obtain ⟨first, convert, differs, invalid⟩ := protoToCoreAttestation_convertAttestation valid reads
  obtain ⟨second, convert', differs', invalid'⟩ :=
    protoToCoreAttestation_convertAttestation valid' reads'
  refine ⟨first, second, ?_, ⟨differs, differs'⟩, invalid, invalid'⟩
  rw [convertToProtoResult, protoToCoreAttestations, convert, convert']
  rfl

end Survival

def attestationT : TEEAttestation := ⟨[1], [2], Time.unixUTC 0, [3], [4], [5]⟩

/-- A parser that knows the first second of the epoch only. -/
def parseEpoch (text : Bytes) : Except GoError Time :=
  if text = ascii "1970-01-01T00:00:00Z" then .ok (Time.unixUTC 0)
  else .error (.plain (ascii "parsing time"))

theorem converted_attestations_epoch :
    ∃ first second,
      protoToCoreAttestations parseEpoch
          (convertToProtoResult (Time.unixUTC 7)
            ⟨[], [], (attestationT, attestationT)⟩).attestations = .ok (first, second) ∧
      (¬ first.Equal attestationT ∧ ¬ second.Equal attestationT) ∧
      first.validate = .error errMissingSignature ∧
      second.validate = .error errMissingSignature := by
  have reads : ReadsBack parseEpoch attestationT.timestamp := ⟨Time.unixUTC 0, by decide, by decide⟩
  exact converted_attestations (Time.unixUTC 7) ⟨[], [], (attestationT, attestationT)⟩
    (by decide) (by decide) reads reads

/-- Two valid attestations of which neither is valid after the conversion. -/
theorem not_valid_after_conversion :
    attestationT.validate = .ok () ∧
      (protoToCoreAttestations parseEpoch (convertToProtoResult (Time.unixUTC 7)
          ⟨[], [], (attestationT, attestationT)⟩).attestations).map
        (fun pair => (pair.1.validate, pair.2.validate)) =
      .ok (.error errMissingSignature,
        .error errMissingSignature) := by
  decide

/-! ## The client -/

structure ExecutionRequest where
  idTo : Bytes
  functionCall : Bytes
  parameters : Bytes
  regionID : Bytes
  detailedProof : Bool

/-- `proto.TeeExecutionClient`: what the enclave at the other end answers. -/
abbrev TeeExecutionClient := ExecutionRequest → Except GoError ProtoResult

structure TEEPair where
  sgxClient : TeeExecutionClient
  sevClient : TeeExecutionClient

structure Client where
  sgxClient : TeeExecutionClient
  sevClient : TeeExecutionClient
  regionTEEs : GoMap Bytes TEEPair

namespace Client

def request (action : SendEventAction) : ExecutionRequest where
  idTo := action.idTo
  functionCall := action.functionCall
  parameters := action.parameters
  regionID := action.regionID
  detailedProof := false

def regionPair (c : Client) (action : SendEventAction) : Option TEEPair :=
  if action.regionID ≠ [] then c.regionTEEs.lookup action.regionID else none

/-- The first half of `ExecuteAction`: the results of the two enclaves. -/
def results (c : Client) (action : SendEventAction) : Except GoError (ProtoResult × ProtoResult) :=
  match c.regionPair action with
  | some pair => do
    let sgxResult ← (pair.sgxClient (request action)).mapError
      (.wrap (ascii "regional SGX Execute failed"))
    let sevResult ← (pair.sevClient (request action)).mapError
      (.wrap (ascii "regional SEV Execute failed"))
    return (sgxResult, sevResult)
  | none => do
    let sgxResult ← (c.sgxClient (request action)).mapError (.wrap (ascii "SGX Execute failed"))
    let sevResult ← (c.sevClient (request action)).mapError (.wrap (ascii "SEV Execute failed"))
    return (sgxResult, sevResult)

def compareResults (sgxRes sevRes : ProtoResult) : Except GoError Unit := do
  refuse (sgxRes.stateHash ≠ sevRes.stateHash)
    (.plain (ascii "state hash mismatch between SGX and SEV results"))
  refuse (sgxRes.result ≠ sevRes.result)
    (.plain (ascii "execution result mismatch between SGX and SEV"))

/-- `ExecuteAction`; `random` and `random'` are the keys of the two channels that the verifier
opens. -/
def executeAction (parse : Bytes → Except GoError Time) (random random' : Except Bytes Bytes)
    (c : Client) (action : SendEventAction) : Except GoError Unit := do
  let (sgxResult, sevResult) ← c.results action
  let sgxAtts ← (protoToCoreAttestations parse sgxResult.attestations).mapError
    (.wrap (ascii "failed to convert SGX attestations"))
  let sevAtts ← (protoToCoreAttestations parse sevResult.attestations).mapError
    (.wrap (ascii "failed to convert SEV attestations"))
  (Verifier.verifyAttestationPair random sgxAtts).mapError
    (.wrap (ascii "SGX attestation verify failed"))
  (Verifier.verifyAttestationPair random' sevAtts).mapError
    (.wrap (ascii "SEV attestation verify failed"))
  compareResults sgxResult sevResult

theorem agree_of_executeAction {parse : Bytes → Except GoError Time}
    {random random' : Except Bytes Bytes} {c : Client} {action : SendEventAction}
    (accepted : executeAction parse random random' c action = .ok ()) :
    ∃ sgxResult sevResult, c.results action = .ok (sgxResult, sevResult) ∧
      sgxResult.stateHash = sevResult.stateHash ∧ sgxResult.result = sevResult.result := by
  obtain ⟨⟨sgxResult, sevResult⟩, results, accepted⟩ := except_bind_eq_ok.mp accepted
  obtain ⟨_, _, accepted⟩ := except_bind_eq_ok.mp accepted
  obtain ⟨_, _, accepted⟩ := except_bind_eq_ok.mp accepted
  obtain ⟨_, accepted⟩ := except_seq_eq_ok.mp accepted
  obtain ⟨_, accepted⟩ := except_seq_eq_ok.mp accepted
  simp only [compareResults, except_seq_eq_ok, refuse_eq_ok, not_not] at accepted
  exact ⟨sgxResult, sevResult, results, accepted⟩

end Client

end Tee

end Aristo
