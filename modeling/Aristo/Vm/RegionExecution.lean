import Aristo.Regions.Health
import Aristo.Tee.Executor
import Aristo.Vm.TeeHealth

/-!
# Execution in both TEEs of a region

`ShuttleVM.ExecuteInRegion` of `vm/core.go` sends an action to the two compute nodes of the selected
pair and hands on the result of the SGX node.  Beside `Client.executeAction` and `Executor.execute`,
which compare state hashes and outputs, it compares the state hashes only.

`dualExecution_agrees_iff` says when all three hand on only what both TEEs returned, whatever that
is: where the execution in a region accepts nothing.  The metrics that `ExecuteInRegion` reports on
the way are left to `ExecutionFeedback`.
-/

namespace Aristo

open GoBase Compute Regions

namespace Vm

/-- `ShuttleVM`, as far as the execution in a region reads it. -/
structure ShuttleVM where
  regionManager : RegionManager
  balancer : RegionBalancer
  computeNodes : GoMap Bytes NodeClient

structure RegionalResult where
  stateHash : Bytes
  output : Bytes
  attestations : TEEAttestation × TEEAttestation
  timestamp : Bytes
  id : Bytes
  regionID : Bytes
deriving DecidableEq

/-- What the execution relies on: the error for an absent state, the clock, `time.Parse` and the key
of the channel. -/
structure RegionalEnv where
  missing : GoError
  now : Bytes → Time
  parse : Bytes → Except GoError Time
  random : Except Bytes Bytes

def regionRequest (regionID : Bytes) : Verifier.Action → Except GoError Tee.ExecutionRequest
  | .sendEvent a => .ok {
      idTo := a.idTo, functionCall := a.functionCall, parameters := a.parameters
      regionID := regionID, detailedProof := true }
  | .createObject a => .ok {
      idTo := a.id, functionCall := [], parameters := a.code
      regionID := regionID, detailedProof := true }
  | .setInputObject _ =>
    .error (.plain (ascii "unsupported action type: *actions.SetInputObjectAction"))
  | .other type => .error (.plain (ascii "unsupported action type: " ++ type))

def computeNode (vm : ShuttleVM) (endpoint : Bytes) (tee : String) (pairID : Bytes) :
    Except GoError NodeClient :=
  match vm.computeNodes.lookup endpoint with
  | some client => .ok client
  | none => .error (.plain (ascii tee ++ ascii " compute node not found for pair " ++ pairID))

/-- The first half of `ExecuteInRegion`.  Both nodes are asked before the error of the SGX node is
looked at. -/
def regionResults (env : RegionalEnv) (regionID : Bytes) (action : Verifier.Action)
    (vm : ShuttleVM) : Except GoError (TEEPair × ProtoResult × ProtoResult) := do
  let health ← (vm.regionManager.getRegionHealth env.missing regionID).mapError
    (.wrap (ascii "failed to get region health"))
  refuse (health.status ≠ ascii "healthy")
    (.plain (ascii "region " ++ regionID ++ ascii " is not healthy: " ++ health.status))
  let pair ← (vm.balancer.selectOptimalPair env.now regionID).mapError
    (.wrap (ascii "failed to select TEE pair"))
  let sgxClient ← computeNode vm pair.sgxEndpoint "SGX" pair.id
  let sevClient ← computeNode vm pair.sevEndpoint "SEV" pair.id
  let req ← regionRequest regionID action
  let sgxResult ← (sgxClient.execute req).mapError (.wrap (ascii "SGX execution failed"))
  let sevResult ← (sevClient.execute req).mapError (.wrap (ascii "SEV execution failed"))
  return (pair, sgxResult, sevResult)

/-- The attestation made of the first one of a result, without its signature; a time that cannot be
read panics. -/
def firstAttestation (parse : Bytes → Except GoError Time) (result : ProtoResult) :
    Option TEEAttestation :=
  match result.attestations with
  | [] => none
  | att :: _ =>
    match parse att.timestamp with
    | .error _ => none
    | .ok timestamp => some {
        enclaveID := att.enclaveID, measurement := att.measurement, timestamp
        data := att.data, signature := [], regionProof := att.regionProof }

/-- The second half of `ExecuteInRegion`. -/
def acceptResults (env : RegionalEnv) (regionID : Bytes) (pair : TEEPair)
    (sgxResult sevResult : ProtoResult) : Outcome RegionalResult :=
  match firstAttestation env.parse sgxResult, firstAttestation env.parse sevResult with
  | some sgx, some sev =>
    match Verifier.verifyAttestationPair env.random (sgx, sev) with
    | .error error => .err (error.wrap (ascii "attestation verification failed"))
    | .ok () =>
      -- the outputs are not compared
      if sgxResult.stateHash ≠ sevResult.stateHash then
        .err (.plain (ascii "state hash mismatch between SGX and SEV"))
      else .ok {
        stateHash := sgxResult.stateHash, output := sgxResult.result
        attestations := (sgx, sev), timestamp := sgxResult.timestamp
        id := pair.id, regionID := regionID }
  | _, _ => .panicked

def executeInRegion (env : RegionalEnv) (regionID : Bytes) (action : Verifier.Action)
    (vm : ShuttleVM) : Outcome RegionalResult :=
  match regionResults env regionID action vm with
  | .error error => .err error
  | .ok (pair, sgxResult, sevResult) => acceptResults env regionID pair sgxResult sevResult

/-! ## What is accepted -/

/-- The result has an attestation, and the time of the first one can be read. -/
def Stamped (parse : Bytes → Except GoError Time) (result : ProtoResult) : Prop :=
  ∃ att rest timestamp, result.attestations = att :: rest ∧ parse att.timestamp = .ok timestamp

/-- All that the second half checks. -/
structure Acceptable (env : RegionalEnv) (sgxResult sevResult : ProtoResult) : Prop where
  sgxStamped : Stamped env.parse sgxResult
  sevStamped : Stamped env.parse sevResult
  keyed : ∃ key, env.random = .ok key
  stateHash : sgxResult.stateHash = sevResult.stateHash

theorem firstAttestation_isSome_iff {parse : Bytes → Except GoError Time} {result : ProtoResult} :
    (∃ att, firstAttestation parse result = some att) ↔ Stamped parse result := by
  unfold firstAttestation Stamped
  cases attestations : result.attestations with
  | nil => simp
  | cons att => cases parsed : parse att.timestamp <;> simp [parsed]

theorem verifyAttestationPair_eq_ok_iff {random : Except Bytes Bytes}
    {attestations : TEEAttestation × TEEAttestation} :
    Verifier.verifyAttestationPair random attestations = .ok () ↔ ∃ key, random = .ok key := by
  cases random with
  | error =>
    exact iff_of_false (fun accepted => by cases accepted) fun ⟨_, keyed⟩ => by cases keyed
  | ok key => exact iff_of_true rfl ⟨key, rfl⟩

theorem acceptable_of_accept {env : RegionalEnv} {regionID : Bytes} {pair : TEEPair}
    {sgxResult sevResult : ProtoResult} {result : RegionalResult}
    (accepted : acceptResults env regionID pair sgxResult sevResult = .ok result) :
    Acceptable env sgxResult sevResult ∧
      result.stateHash = sgxResult.stateHash ∧ result.output = sgxResult.result := by
  unfold acceptResults at accepted
  split at accepted
  · rename_i sgx sev sgxFirst sevFirst
    split at accepted
    · cases accepted
    · rename_i verified
      split at accepted
      · cases accepted
      · rename_i sameHash
        obtain rfl := Outcome.ok.inj accepted
        exact ⟨⟨firstAttestation_isSome_iff.mp ⟨sgx, sgxFirst⟩,
          firstAttestation_isSome_iff.mp ⟨sev, sevFirst⟩,
          verifyAttestationPair_eq_ok_iff.mp verified, not_not.mp sameHash⟩, rfl, rfl⟩
  · cases accepted

theorem exists_accept {env : RegionalEnv} {sgxResult sevResult : ProtoResult}
    (acceptable : Acceptable env sgxResult sevResult) (regionID : Bytes) (pair : TEEPair) :
    ∃ result, acceptResults env regionID pair sgxResult sevResult = .ok result := by
  obtain ⟨sgx, sgxFirst⟩ := firstAttestation_isSome_iff.mpr acceptable.sgxStamped
  obtain ⟨sev, sevFirst⟩ := firstAttestation_isSome_iff.mpr acceptable.sevStamped
  have verified : Verifier.verifyAttestationPair env.random (sgx, sev) = .ok () :=
    verifyAttestationPair_eq_ok_iff.mpr acceptable.keyed
  simp [acceptResults, sgxFirst, sevFirst, verified, acceptable.stateHash]

/-! ## Agreement of the two TEEs -/

/-- The client accepts only when the two results agree. -/
def ClientAgrees (parse : Bytes → Except GoError Time) (random random' : Except Bytes Bytes)
    (c : Tee.Client) (action : SendEventAction) : Prop :=
  c.executeAction parse random random' action = .ok () →
    ∃ sgx sev, c.results action = .ok (sgx, sev) ∧
      sgx.stateHash = sev.stateHash ∧ sgx.result = sev.result

/-- The executor hands on what both results have. -/
def ExecutorAgrees (now now' : Time) (e : Tee.Executor) (req : Tee.CoreRequest) : Prop :=
  ∀ result, e.execute now now' req = .ok result →
    ∃ req' sgx sev, e.results req = .ok (req', sgx, sev) ∧
      (result.output = sgx.output ∧ result.output = sev.output) ∧
      result.stateHash = sgx.stateHash ∧ result.stateHash = sev.stateHash

/-- Whatever the two results are, the execution in a region hands on what both of them have. -/
def RegionAgrees (env : RegionalEnv) (regionID : Bytes) (pair : TEEPair) : Prop :=
  ∀ sgx sev result, acceptResults env regionID pair sgx sev = .ok result →
    (result.output = sgx.result ∧ result.output = sev.result) ∧
      result.stateHash = sgx.stateHash ∧ result.stateHash = sev.stateHash

/-- Nothing is accepted: there is no key for the channel, or no time that can be read. -/
def AcceptsNothing (env : RegionalEnv) : Prop :=
  (∀ key, env.random ≠ .ok key) ∨ ∀ text time, env.parse text ≠ .ok time

/-- A result with one attestation. -/
def stampedResult (text output : Bytes) : ProtoResult :=
  { timestamp := [], stateHash := [1], result := output
    attestations := [⟨[2], [3], text, [4], [], []⟩] }

/-- **Agreement of dual execution.**  The client and the executor hand on only what both TEEs
returned.  The execution in a region does so for all results only where it accepts none: the outputs
are not compared. -/
theorem dualExecution_agrees_iff (parse : Bytes → Except GoError Time)
    (random random' : Except Bytes Bytes) (c : Tee.Client) (event : SendEventAction)
    (now now' : Time) (e : Tee.Executor) (req : Tee.CoreRequest) (env : RegionalEnv)
    (regionID : Bytes) (pair : TEEPair) :
    ClientAgrees parse random random' c event ∧ ExecutorAgrees now now' e req ∧
        RegionAgrees env regionID pair ↔ AcceptsNothing env := by
  have client : ClientAgrees parse random random' c event :=
    fun accepted => Tee.Client.agree_of_executeAction accepted
  have executor : ExecutorAgrees now now' e req :=
    fun _ accepted => Tee.Executor.agree_of_execute accepted
  constructor
  · rintro ⟨-, -, agrees⟩
    by_contra accepts
    obtain ⟨keyed, readable⟩ := not_or.mp accepts
    obtain ⟨key, keyed⟩ := not_forall_not.mp keyed
    obtain ⟨text, readable⟩ := not_forall.mp readable
    obtain ⟨time, reads⟩ := not_forall_not.mp readable
    -- two results that differ in their outputs only
    have stamped (output : Bytes) : Stamped env.parse (stampedResult text output) :=
      ⟨_, [], time, rfl, reads⟩
    obtain ⟨result, accepted⟩ :=
      exists_accept ⟨stamped [20], stamped [21], ⟨key, keyed⟩, rfl⟩ regionID pair
    obtain ⟨⟨first, second⟩, -⟩ := agrees _ _ result accepted
    have equal : ([20] : Bytes) = [21] := first.symm.trans second
    exact absurd equal (by decide)
  · intro nothing
    refine ⟨client, executor, fun sgx sev result accepted => ?_⟩
    obtain ⟨⟨⟨att, -, time, -, reads⟩, -, ⟨key, keyed⟩, -⟩, -⟩ := acceptable_of_accept accepted
    exact nothing.elim (fun keyless => absurd keyed (keyless key))
      fun unreadable => absurd reads (unreadable _ time)

def nodeReturning (output : Bytes) : NodeClient where
  notReady := none
  validatePlatforms := .ok ()
  teeBridge _ := .ok [1]
  grpcClient _ := .ok (stampedResult (ascii "1970-01-01T00:00:00Z") output)

/-- A healthy region with one pair, whose nodes return different outputs. -/
def disagreeingVM : ShuttleVM where
  regionManager := { RegionManager.new RegionManager.emptyStorage with
    store := { RegionManager.emptyStorage with
      teeStates := KeyValue.insert (fun _ => none) ([7], [])
        (RegionManager.report (ascii "healthy")).toState } }
  balancer := RegionBalancer.updatePairMetrics [7] [8]
    { pairID := [8], sgxEndpoint := [9], sevEndpoint := [10], lastHealthCheck := Time.unixUTC 0,
      lastHealthy := Time.unixUTC 0, successRate := .finite 1, loadFactor := .finite 0 } rfl
    (.new .default)
  computeNodes := ((∅ : GoMap Bytes NodeClient).insert [9] (nodeReturning [20])).insert [10]
    (nodeReturning [21])

/-- The output of the SGX node is handed on, and the SEV node returned another one. -/
theorem accepted_other_output :
    let env : RegionalEnv := {
      missing := .plain [], now := fun _ => Time.unixUTC 1, parse := Tee.parseEpoch
      random := .ok [5] }
    let action : Verifier.Action := .createObject ⟨[1], [2], [], [7]⟩
    let attestation : TEEAttestation := ⟨[2], [3], Time.unixUTC 0, [4], [], []⟩
    (regionResults env [7] action disagreeingVM).map
        (fun results => (results.2.1.result, results.2.2.result)) = .ok ([20], [21]) ∧
      executeInRegion env [7] action disagreeingVM = .ok {
        stateHash := [1], output := [20], attestations := (attestation, attestation)
        timestamp := [], id := [8], regionID := [7] } := by
  decide +kernel

end Vm

end Aristo
