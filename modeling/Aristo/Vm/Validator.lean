import Aristo.Vm.RegionExecution

/-!
# Answers that crash the node

`Validator.ValidateRegionalAction` of `vm/tee_validator.go` asks the two compute nodes of a region
and looks at their answers, as `ShuttleVM.ExecuteInRegion` does.  Both read the first attestation of
each answer without asking whether there is one, and `ExecuteInRegion` panics on a time that cannot
be read.  `survives_iff` says which answers they survive.
-/

namespace Aristo

open GoBase Compute Regions

namespace Vm

structure Validator where
  regionTEEs : GoMap Bytes Tee.TEEPair

namespace Validator

def request (action : SendEventAction) : Tee.ExecutionRequest where
  idTo := action.idTo
  functionCall := action.functionCall
  parameters := action.parameters
  regionID := action.regionID
  detailedProof := false

/-- The first half of `ValidateRegionalAction`: the answers of the two nodes. -/
def results (action : SendEventAction) (v : Validator) :
    Except GoError (ProtoResult × ProtoResult) :=
  match v.regionTEEs.lookup action.regionID with
  | none => .error (.plain (ascii "region not found"))
  | some region => do
    let sgxResult ← (region.sgxClient (request action)).mapError
      (.wrap (ascii "SGX verification failed"))
    let sevResult ← (region.sevClient (request action)).mapError
      (.wrap (ascii "SEV verification failed"))
    return (sgxResult, sevResult)

/-- The attestation that is made of the first one of a result, without its time; a panic is
`none`. -/
def firstAttestation (result : ProtoResult) : Option TEEAttestation :=
  match result.attestations with
  | [] => none
  | att :: _ => some {
      enclaveID := att.enclaveID, measurement := att.measurement, timestamp := Time.zero
      data := att.data, signature := [], regionProof := [] }

/-- The second half of `ValidateRegionalAction`. -/
def acceptResults (random : Except Bytes Bytes) (sgxResult sevResult : ProtoResult) :
    Outcome Unit :=
  if sgxResult.stateHash ≠ sevResult.stateHash then
    .err (.plain (ascii "state hash mismatch between TEEs"))
  else
    match firstAttestation sgxResult, firstAttestation sevResult with
    | some sgx, some sev =>
      match Verifier.verifyAttestationPair random (sgx, sev) with
      | .error error => .err (error.wrap (ascii "attestation verification failed"))
      | .ok () => .ok ()
    | _, _ => .panicked

def validateRegionalAction (random : Except Bytes Bytes) (action : SendEventAction)
    (v : Validator) : Outcome Unit :=
  match v.results action with
  | .error error => .err error
  | .ok (sgxResult, sevResult) => acceptResults random sgxResult sevResult

/-! ## Answers that are survived -/

theorem firstAttestation_isSome_iff {result : ProtoResult} :
    (∃ att, firstAttestation result = some att) ↔ result.attestations ≠ [] := by
  unfold firstAttestation
  cases result.attestations <;> simp

theorem acceptResults_ne_panicked_iff {random : Except Bytes Bytes}
    {sgxResult sevResult : ProtoResult} :
    acceptResults random sgxResult sevResult ≠ .panicked ↔
      (sgxResult.stateHash = sevResult.stateHash →
        sgxResult.attestations ≠ [] ∧ sevResult.attestations ≠ []) := by
  rw [← firstAttestation_isSome_iff, ← firstAttestation_isSome_iff]
  unfold acceptResults
  by_cases same : sgxResult.stateHash = sevResult.stateHash
  · rw [if_neg (not_not.mpr same)]
    cases sgx : firstAttestation sgxResult with
    | none => simp [same]
    | some sgxAtt =>
      cases sev : firstAttestation sevResult with
      | none => simp [same]
      | some sevAtt =>
        dsimp only
        cases Verifier.verifyAttestationPair random (sgxAtt, sevAtt) <;> simp
  · rw [if_pos same]
    exact iff_of_true (by simp) fun equal => absurd equal same

theorem validateRegionalAction_ne_panicked_iff {random : Except Bytes Bytes}
    {action : SendEventAction} {v : Validator} :
    v.validateRegionalAction random action ≠ .panicked ↔
      ∀ sgx sev, v.results action = .ok (sgx, sev) → sgx.stateHash = sev.stateHash →
        sgx.attestations ≠ [] ∧ sev.attestations ≠ [] := by
  unfold validateRegionalAction
  cases obtained : v.results action with
  | error => simp
  | ok answers =>
    obtain ⟨sgx, sev⟩ := answers
    simp [acceptResults_ne_panicked_iff]

end Validator

theorem acceptResults_ne_panicked_iff {env : RegionalEnv} {regionID : Bytes} {pair : TEEPair}
    {sgxResult sevResult : ProtoResult} :
    acceptResults env regionID pair sgxResult sevResult ≠ .panicked ↔
      Stamped env.parse sgxResult ∧ Stamped env.parse sevResult := by
  rw [← firstAttestation_isSome_iff, ← firstAttestation_isSome_iff]
  unfold acceptResults
  cases sgx : firstAttestation env.parse sgxResult with
  | none => simp
  | some sgxAtt =>
    cases sev : firstAttestation env.parse sevResult with
    | none => simp
    | some sevAtt =>
      refine iff_of_true ?_ ⟨⟨sgxAtt, rfl⟩, ⟨sevAtt, rfl⟩⟩
      dsimp only
      cases Verifier.verifyAttestationPair env.random (sgxAtt, sevAtt) with
      | error => simp
      | ok => dsimp only; split <;> simp

theorem executeInRegion_ne_panicked_iff {env : RegionalEnv} {regionID : Bytes}
    {action : Verifier.Action} {vm : ShuttleVM} :
    executeInRegion env regionID action vm ≠ .panicked ↔
      ∀ pair sgx sev, regionResults env regionID action vm = .ok (pair, sgx, sev) →
        Stamped env.parse sgx ∧ Stamped env.parse sev := by
  unfold executeInRegion
  cases obtained : regionResults env regionID action vm with
  | error => simp
  | ok answers =>
    obtain ⟨pair, sgx, sev⟩ := answers
    simp [acceptResults_ne_panicked_iff]

/-- **Answers that are survived.**  `ExecuteInRegion` does not panic exactly when both answers have
a first attestation with a time that can be read, and `ValidateRegionalAction` exactly when both
have one, or the state hashes differ. -/
theorem survives_iff (env : RegionalEnv) (regionID : Bytes) (action : Verifier.Action)
    (vm : ShuttleVM) (random : Except Bytes Bytes) (event : SendEventAction) (v : Validator) :
    executeInRegion env regionID action vm ≠ .panicked ∧
        v.validateRegionalAction random event ≠ .panicked ↔
      (∀ pair sgx sev, regionResults env regionID action vm = .ok (pair, sgx, sev) →
        Stamped env.parse sgx ∧ Stamped env.parse sev) ∧
      ∀ sgx sev, v.results event = .ok (sgx, sev) → sgx.stateHash = sev.stateHash →
        sgx.attestations ≠ [] ∧ sev.attestations ≠ [] :=
  and_congr executeInRegion_ne_panicked_iff Validator.validateRegionalAction_ne_panicked_iff

def answering (attestations : List ProtoAttestation) : Tee.TeeExecutionClient := fun _ =>
  .ok { timestamp := [], stateHash := [1], result := [], attestations }

/-- A healthy region whose two nodes give the answer. -/
def answeredVM (attestations : List ProtoAttestation) : ShuttleVM :=
  let node : NodeClient := { nodeReturning [] with grpcClient := answering attestations }
  { disagreeingVM with
    computeNodes := ((∅ : GoMap Bytes NodeClient).insert [9] node).insert [10] node }

/-- Answers without an attestation crash both, and a time that cannot be read crashes the first. -/
theorem answers_crash :
    let env : RegionalEnv := {
      missing := .plain [], now := fun _ => Time.unixUTC 1, parse := Tee.parseEpoch
      random := .ok [5] }
    let action : Verifier.Action := .createObject ⟨[1], [2], [], [7]⟩
    let v : Validator := ⟨(∅ : GoMap Bytes Tee.TEEPair).insert [7] ⟨answering [], answering []⟩⟩
    executeInRegion env [7] action (answeredVM []) = .panicked ∧
      executeInRegion env [7] action
        (answeredVM [⟨[2], [3], ascii "yesterday", [4], [], []⟩]) = .panicked ∧
      v.validateRegionalAction (.ok [5]) { sendO with regionID := [7] } = .panicked := by
  exact ⟨by decide +kernel, by decide +kernel, by decide +kernel⟩

end Vm

end Aristo
