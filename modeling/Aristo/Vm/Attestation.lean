import Aristo.Actions.Shuttle

/-!
# Two checks of an attestation pair

`ShuttleVM.ValidateTransaction` lets a `SendEventAction` pass when `verifyTEEExecution` of
`vm/core.go` accepts its attestations; `SendEventAction.Execute` then runs `verifyAttestationPair`.
The first compares the measurements with a value that was never configured, so both have to be
empty; the second requires both to be present (`accepted_pair_iff`).
-/

namespace Aristo

open GoBase Actions

namespace Vm

/-- `5 * time.Minute`, in nanoseconds. -/
def maxAge : ℤ := 300000000000

/-- The measurement that both kinds of enclave should have, which was never configured. -/
def expectedMeasurement : Bytes := []

/-- `verifySGXSignature`, which is not implemented. -/
def verifySGXSignature (_enclaveID _data _signature : Bytes) : Except GoError Unit :=
  .ok ()

/-- `verifySEVSignature`, which is not implemented. -/
def verifySEVSignature (_enclaveID _data _signature : Bytes) : Except GoError Unit :=
  .ok ()

/-- `verifySGXAttestation` and `verifySEVAttestation`, which differ in the signature check and the
texts. -/
def verifyAttestation (signature : Bytes → Bytes → Bytes → Except GoError Unit)
    (badMeasurement badSignature : String) (a : TEEAttestation) : Except GoError Unit := do
  refuse (a.measurement ≠ expectedMeasurement) (.plain (ascii badMeasurement))
  (signature a.enclaveID a.data a.signature).mapError (GoError.wrap (ascii badSignature))

def verifySGXAttestation : TEEAttestation → Except GoError Unit :=
  verifyAttestation verifySGXSignature "invalid SGX enclave measurement" "invalid SGX signature"

def verifySEVAttestation : TEEAttestation → Except GoError Unit :=
  verifyAttestation verifySEVSignature "invalid SEV measurement" "invalid SEV signature"

/-- `verifyTEEExecution` at a current time; the times that its errors print are left out. -/
def verifyTEEExecution (now : Time) (stateHash : Bytes)
    (attestations : TEEAttestation × TEEAttestation) : Except GoError Unit := do
  let (sgx, sev) := attestations
  refuse (¬ sgx.timestamp.Equal sev.timestamp)
    (.plain (ascii "attestation timestamps do not match"))
  let age := now.sub sgx.timestamp
  refuse (age > maxAge ∨ age < -maxAge)
    (.plain (ascii "attestation timestamp outside acceptable range"))
  (verifySGXAttestation sgx).mapError (GoError.wrap (ascii "SGX attestation verification failed"))
  (verifySEVAttestation sev).mapError (GoError.wrap (ascii "SEV attestation verification failed"))
  refuse (sgx.data ≠ sev.data) (.plain (ascii "attestation data mismatch between SGX and SEV"))
  refuse (stateHash ≠ sgx.data ∨ stateHash ≠ sev.data)
    (.plain (ascii "state hash mismatch with attestation data"))

/-- The pairs that `verifyTEEExecution` accepts, as `ValidateTransaction` calls it. -/
structure Validated (now : Time) (attestations : TEEAttestation × TEEAttestation) : Prop where
  sameInstant : attestations.1.timestamp.Equal attestations.2.timestamp
  recent : now.sub attestations.1.timestamp ≤ maxAge ∧ -maxAge ≤ now.sub attestations.1.timestamp
  noMeasurements : attestations.1.measurement = [] ∧ attestations.2.measurement = []
  sameData : attestations.1.data = attestations.2.data

theorem verifyAttestation_eq_ok_iff {signature : Bytes → Bytes → Bytes → Except GoError Unit}
    {badMeasurement badSignature : String} {a : TEEAttestation}
    (unchecked : ∀ enclaveID data text, signature enclaveID data text = .ok ()) :
    verifyAttestation signature badMeasurement badSignature a = .ok () ↔ a.measurement = [] := by
  unfold verifyAttestation
  rw [except_seq_eq_ok, refuse_eq_ok, not_ne_iff, mapError_eq_ok]
  exact and_iff_left (unchecked _ _ _)

theorem verifyTEEExecution_eq_ok_iff (now : Time)
    (attestations : TEEAttestation × TEEAttestation) :
    verifyTEEExecution now attestations.1.data attestations = .ok () ↔
      Validated now attestations := by
  obtain ⟨sgx, sev⟩ := attestations
  have sgxOk : verifySGXAttestation sgx = .ok () ↔ sgx.measurement = [] :=
    verifyAttestation_eq_ok_iff fun _ _ _ => rfl
  have sevOk : verifySEVAttestation sev = .ok () ↔ sev.measurement = [] :=
    verifyAttestation_eq_ok_iff fun _ _ _ => rfl
  simp only [verifyTEEExecution, except_seq_eq_ok, refuse_eq_ok, mapError_eq_ok, sgxOk, sevOk,
    not_not, not_or, not_lt]
  constructor
  · rintro ⟨instant, recent, sgxEmpty, sevEmpty, data, -⟩
    exact ⟨instant, recent, ⟨sgxEmpty, sevEmpty⟩, data⟩
  · rintro ⟨instant, recent, ⟨sgxEmpty, sevEmpty⟩, data⟩
    exact ⟨instant, recent, sgxEmpty, sevEmpty, data, trivial, data⟩

/-- **Validated pairs are refused.**  At every time and for every pair: acceptance by the
validator implies acceptance by the executor exactly when the validator does not accept the
pair. -/
theorem accepted_pair_iff (now : Time) (attestations : TEEAttestation × TEEAttestation) :
    (verifyTEEExecution now attestations.1.data attestations = .ok () →
        verifyAttestationPair attestations = .ok ()) ↔ ¬ Validated now attestations := by
  rw [verifyTEEExecution_eq_ok_iff]
  constructor
  · intro agrees validated
    have accepted := agrees validated
    simp only [verifyAttestationPair, except_seq_eq_ok, refuse_eq_ok, not_or] at accepted
    exact accepted.2.2.2.1.1 validated.noMeasurements.1
  · intro rejected validated
    exact absurd validated rejected

def unmeasured : TEEAttestation := { attestationO with measurement := [] }

/-- A pair that is validated and then refused. -/
theorem not_accepted_unmeasured :
    verifyTEEExecution (Time.unixUTC 60) unmeasured.data (unmeasured, unmeasured) = .ok () ∧
      verifyAttestationPair (unmeasured, unmeasured) = .error errMissingAttestation := by
  decide

end Vm

end Aristo
