import Aristo.Actions.ShuttleEvents

/-!
# Creating and updating regions

`CreateRegionAction.Execute` and `UpdateRegionAction.Execute` of `actions/region.go`, on the record
under `config/<region>` in the region's own store.

* The actions compare the error of an absent record with an `ErrNotFound` of their own package,
  which no database returns (`not_lifeCycle`).
* `verifyRegionTEEs` is never called, so an enclave that is not in the list of a region can update
  the region and send events in it (`not_onlyOwnTEEs`).
-/

namespace Aristo

open GoBase Call Storage List Records MerkleStore

namespace Actions

/-! ## Errors and limits -/

def errRegionExists : GoError := .new ⟨"actions", "ErrRegionExists"⟩ "region already exists"

def errInvalidTEE : GoError := .new ⟨"actions", "ErrInvalidTEE"⟩ "invalid TEE"

def errInvalidRegionID : GoError :=
  .new ⟨"actions", "ErrInvalidRegionID"⟩ "invalid region ID"

def errTooManyTEEs : GoError := .new ⟨"actions", "ErrTooManyTEEs"⟩ "too many TEEs"

def errStoreAccess : GoError :=
  .new ⟨"actions", "ErrStoreAccess"⟩ "failed to access regional store"

def errProofGeneration : GoError :=
  .new ⟨"actions", "ErrProofGeneration"⟩ "failed to generate merkle proof"

def actionsErrNotFound : Sentinel := ⟨"actions", "ErrNotFound"⟩

def maxTEEsPerRegion : ℕ := 32

def configKey (regionID : Bytes) : Bytes :=
  ascii "config/" ++ regionID

end Actions

open Actions StateManager

/-! ## The actions -/

structure CreateRegionAction where
  regionID : Bytes
  tees : List Bytes
  attestations : TEEAttestation × TEEAttestation

structure UpdateRegionAction where
  regionID : Bytes
  sgxEndpoint : Bytes
  sevEndpoint : Bytes
  attestations : TEEAttestation × TEEAttestation

/-- `CreateRegionResult` and `UpdateRegionResult`; the proof is what the database returns. -/
structure RegionResult where
  regionID : Bytes
  success : Bool
  stateHash : Bytes
  timestamp : Bytes
  proof : Bytes
deriving DecidableEq

/-- The outcomes of what a region action relies on. -/
structure RegionActionEnv where
  /-- What access to the store and the calls of the store rely on. -/
  region : RegionEnv
  /-- `db.GetProof`. -/
  proof : Except GoError Bytes
  /-- `time.Now()`, when the record is updated. -/
  now : Time
  /-- `time.Now()`, when the result is returned. -/
  returned : Time

def onStore {α : Type} (regionID : Bytes) (call : Call Opened α) : Call StateManager α :=
  Call.focus (fun sm => { store := sm.storeOf regionID, db := sm.merkleDB })
    (fun sm opened => sm.afterStore regionID opened) call

def getStore (env : RegionActionEnv) (regionID : Bytes) : Call StateManager Unit := do
  let _ ← Call.mapError (fun error => errStoreAccess.annotate error.text)
    (getRegionalStoreInternal env.region regionID)

def getProof (env : RegionActionEnv) : Call StateManager Bytes :=
  Call.mapError (fun error => errProofGeneration.annotate error.text) (Call.lift env.proof)

namespace CreateRegionAction

/-- The record of the region, if there is one. -/
def existing (regionID : Bytes) : Call StateManager (Option Bytes) := do
  match ← Call.attempt (onStore regionID (get (configKey regionID))) with
  | .ok value => return some value
  | .error error =>
    if error.is actionsErrNotFound then return none
    else Call.fail (error.wrap (ascii "failed to check existing region"))

def execute (action : CreateRegionAction) (env : RegionActionEnv) :
    Call StateManager RegionResult := do
  Call.lift (refuse (action.regionID.length = 0 ∨ action.regionID.length > 256)
    Actions.errInvalidRegionID)
  Call.lift (refuse (action.tees.length = 0 ∨ action.tees.length > maxTEEsPerRegion)
    errTooManyTEEs)
  getStore env action.regionID
  let key := configKey action.regionID
  let existing ← existing action.regionID
  Call.lift (refuse existing.isSome errRegionExists)
  Call.lift (forM action.tees fun tee =>
    refuse (tee.length = 0 ∨ tee.length > 64) errInvalidTEE)
  Call.lift (verifyAttestationPair action.attestations)
  let regionData ← Call.wrapping (ascii "failed to marshal region")
    (Call.lift (regionConfig action.tees action.attestations))
  Call.wrapping (ascii "failed to store region")
    (onStore action.regionID (insert env.region.store key regionData.render))
  let proof ← getProof env
  return {
    regionID := action.regionID
    success := true
    stateHash := action.attestations.1.data
    timestamp := action.attestations.1.timestamp.formatRFC3339
    proof }

end CreateRegionAction

namespace UpdateRegionAction

/-- The record of the region, which has to be there. -/
def existingData (regionID : Bytes) : Call StateManager Bytes := do
  match ← Call.attempt (onStore regionID (get (configKey regionID))) with
  | .ok value => return value
  | .error error =>
    if error.is actionsErrNotFound then Call.fail errRegionNotFound
    else Call.fail (error.wrap (ascii "failed to get existing region"))

def update (action : UpdateRegionAction) (now : Time) (region : List (List Char × Json)) :
    Except GoError Json := do
  let region := Json.canonicalMembers [] region
  let region := if action.sgxEndpoint = [] then region
    else Json.put "sgx_endpoint".toList (.ofString action.sgxEndpoint) region
  let region := if action.sevEndpoint = [] then region
    else Json.put "sev_endpoint".toList (.ofString action.sevEndpoint) region
  let attestations ← Records.attestations action.attestations
  let region := Json.put "attestations".toList attestations region
  return .object (Json.put "last_updated".toList (.ofString now.utc.formatRFC3339) region)

def execute (action : UpdateRegionAction) (env : RegionActionEnv) :
    Call StateManager RegionResult := do
  Call.lift (refuse (action.regionID.length = 0 ∨ action.regionID.length > 256)
    Actions.errInvalidRegionID)
  getStore env action.regionID
  Call.lift (verifyAttestationPair action.attestations)
  let key := configKey action.regionID
  let existingData ← existingData action.regionID
  let region ← Call.wrapping (ascii "failed to unmarshal region")
    (Call.lift (unmarshalMap existingData))
  match region with
  | none => Call.crash -- an entry of a nil map is set
  | some region => do
    let updated ← Call.wrapping (ascii "failed to marshal updated region")
      (Call.lift (action.update env.now region))
    Call.wrapping (ascii "failed to store region update")
      (onStore action.regionID (insert env.region.store key updated.render))
    let proof ← getProof env
    return {
      regionID := action.regionID
      success := true
      stateHash := action.attestations.1.data
      timestamp := env.returned.utc.formatRFC3339
      proof }

end UpdateRegionAction

/-! ## The steps of the actions -/

variable {env : RegionActionEnv} {regionID : Bytes} {sm : StateManager}

/-- Access to a store that is there only opens it. -/
theorem getStore_of_available (available : Available env.region sm regionID) :
    getStore env regionID sm = (.ok (), sm.afterRead regionID) := by
  cases cached : sm.regionStores regionID with
  | some store =>
    have same : sm.afterRead regionID = sm := by
      have stored : sm.regionStores.insert regionID store = sm.regionStores :=
        Function.update_eq_self_iff.mpr cached.symm
      simp [afterRead, afterStore, storeOf, cached, stored]
    rw [same]
    simp [getStore, Call.mapError, getRegionalStoreInternal, bind_apply, cached]
  | none =>
    have pair : env.region.pair = .ok () := available.resolve_left (by simp [Cached, cached])
    simp [getStore, Call.mapError, getRegionalStoreInternal, bind_apply, cached, pair,
      Call.wrapping, afterRead, afterStore, storeOf]

/-- The record of a region, where the database keeps it. -/
def record (regionID : Bytes) (sm : StateManager) : Option Bytes :=
  sm.merkleDB (makeRegionalKey regionID (configKey regionID))

/-- What both actions find under the key of the region. -/
theorem attempt_get_record (regionID : Bytes) (wellKeyed : WellKeyed sm) :
    Call.attempt (onStore regionID (get (configKey regionID))) sm =
      (.ok (match record regionID sm with
        | some value => .ok value
        | none => .error errNotFound), sm.afterRead regionID) := by
  have read : onStore regionID (get (configKey regionID)) sm =
      (answer (sm.merkleDB
        (makeRegionalKey (sm.storeOf regionID).regionID (configKey regionID))),
        sm.afterRead regionID) := rfl
  rw [Call.attempt, read, (wellKeyed.storeOf regionID).1, record]
  cases sm.merkleDB (makeRegionalKey regionID (configKey regionID)) with
  | some | none => rfl

section

variable (wellKeyed : WellKeyed sm)

include wellKeyed

/-- The creation takes an absent record for a failure. -/
theorem existing_of_absent (absent : record regionID sm = none) :
    CreateRegionAction.existing regionID sm =
      (.err (errNotFound.wrap (ascii "failed to check existing region")),
        sm.afterRead regionID) := by
  have read := attempt_get_record regionID wellKeyed
  rw [absent] at read
  exact bind_of_ok read

/-- So does the update. -/
theorem existingData_of_absent (absent : record regionID sm = none) :
    UpdateRegionAction.existingData regionID sm =
      (.err (errNotFound.wrap (ascii "failed to get existing region")),
        sm.afterRead regionID) := by
  have read := attempt_get_record regionID wellKeyed
  rw [absent] at read
  exact bind_of_ok read

end

/-- A store of a well-keyed manager writes under the key of its region. -/
theorem onStore_insert {env : StoreEnv} (regionID key value : Bytes) (wellKeyed : WellKeyed sm)
    (inserts : env.Inserts) :
    onStore regionID (insert env key value) sm =
      (.ok (), sm.afterInsert regionID (makeRegionalKey regionID key) value env.root) := by
  obtain ⟨region, coordinated⟩ := wellKeyed.storeOf regionID
  unfold onStore Call.focus
  rw [insert_of_writes inserts.writes key value coordinated,
    reported_of_isOk inserts.root]
  simp only [region]
  rfl

/-- An update succeeds on any record that is a JSON object. -/
theorem update_of_stored {action : UpdateRegionAction} (wellKeyed : WellKeyed sm)
    (size : ¬ (action.regionID.length = 0 ∨ action.regionID.length > 256))
    (available : Available env.region sm action.regionID)
    (pair : verifyAttestationPair action.attestations = .ok ()) {value : Bytes}
    (stored : record action.regionID sm = some value) {region : List (List Char × Json)}
    (decoded : unmarshalMap value = .ok (some region)) {updated : Json}
    (encoded : action.update env.now region = .ok updated) (inserts : env.region.store.Inserts)
    {proof : Bytes} (proved : env.proof = .ok proof) :
    (action.execute env sm).1.Succeeded := by
  have read := attempt_get_record action.regionID (wellKeyed.afterRead action.regionID)
  rw [show record action.regionID (sm.afterRead action.regionID) = some value from stored] at read
  have existing : UpdateRegionAction.existingData action.regionID _ = (.ok value, _) :=
    bind_of_ok read
  have put := onStore_insert action.regionID (configKey action.regionID) updated.render
    ((wellKeyed.afterRead action.regionID).afterRead action.regionID) inserts
  unfold UpdateRegionAction.execute
  rw [refuse_bind_of_not size, bind_of_ok (getStore_of_available available), lift_bind_of_ok pair,
    bind_of_ok existing, decoded,
    bind_of_ok (wrapping_of_ok (lift_ok (some region) _))]
  dsimp only
  rw [encoded, bind_of_ok (wrapping_of_ok (lift_ok updated _)),
    bind_of_ok (wrapping_of_ok put), getProof, proved]
  trivial

/-! ## The life cycle of a region -/

/-- The enclaves that the record of a region lists. -/
def recordedTEEs (regionID : Bytes) (sm : StateManager) : Option (List Bytes) :=
  match (record regionID sm).map unmarshalMap with
  | some (.ok (some region)) =>
    match Json.entry region "tees" with
    | some (.array items) => items.mapM Json.toBytes
    | _ => none
  | _ => none

/-- The call fails with an error that wraps what the expected error wraps. -/
def FailsWith {α : Type} (outcome : Outcome α) (expected : GoError) : Prop :=
  ∃ error, outcome = .err error ∧ ∀ sentinel ∈ expected.wraps, error.is sentinel

/-- What is expected of a region from the state before it was created. -/
structure LifeCycle (create : CreateRegionAction) (update : UpdateRegionAction)
    (env : RegionActionEnv) (sm : StateManager) : Prop where
  /-- The region is created, -/
  created : (create.execute env sm).1.Succeeded
  /-- only once, -/
  once : FailsWith (create.execute env (create.execute env sm).2).1 errRegionExists
  /-- it can be updated, -/
  updated : (update.execute env (create.execute env sm).2).1.Succeeded
  /-- which keeps its enclaves, -/
  kept : recordedTEEs create.regionID (update.execute env (create.execute env sm).2).2 =
    some create.tees
  /-- and it exists. -/
  existing : (regionExists codec env.region create.regionID
    (create.execute env sm).2).1 = .ok true
  /-- Before that an update says that it is missing. -/
  missing : FailsWith (update.execute env sm).1 errRegionNotFound

/-- The inputs of a life cycle: accepted sizes and attestations, a store that takes what is written,
and no record of the region. -/
structure Admissible (create : CreateRegionAction) (update : UpdateRegionAction)
    (env : RegionActionEnv) (sm : StateManager) : Prop where
  wellKeyed : WellKeyed sm
  sameRegion : update.regionID = create.regionID
  size : 1 ≤ create.regionID.length ∧ create.regionID.length ≤ 256
  count : 1 ≤ create.tees.length ∧ create.tees.length ≤ maxTEEsPerRegion
  tees : ∀ tee ∈ create.tees, 1 ≤ tee.length ∧ tee.length ≤ 64
  createPair : verifyAttestationPair create.attestations = .ok ()
  updatePair : verifyAttestationPair update.attestations = .ok ()
  available : Available env.region sm create.regionID
  inserts : env.region.store.Inserts
  proof : env.proof.isOk = true
  absent : record create.regionID sm = none

/-- **No region has its life cycle.**  Whatever the inputs, a region that was never created
cannot be created, and an update does not say that it is missing. -/
theorem not_lifeCycle (create : CreateRegionAction) (update : UpdateRegionAction)
    (env : RegionActionEnv) (sm : StateManager) (admissible : Admissible create update env sm) :
    ¬ LifeCycle create update env sm ∧ ¬ (create.execute env sm).1.Succeeded ∧
      ¬ FailsWith (update.execute env sm).1 errRegionNotFound := by
  obtain ⟨wellKeyed, same, size, count, -, -, pair, available, -, -, absent⟩ := admissible
  have uncreated : ¬ (create.execute env sm).1.Succeeded := by
    unfold CreateRegionAction.execute
    rw [refuse_bind_of_not (by omega), refuse_bind_of_not (by omega),
      bind_of_ok (getStore_of_available available),
      bind_of_err (existing_of_absent (wellKeyed.afterRead _) absent)]
    exact not_false
  have unreported : ¬ FailsWith (update.execute env sm).1 errRegionNotFound := by
    unfold UpdateRegionAction.execute
    rw [same, refuse_bind_of_not (by omega), bind_of_ok (getStore_of_available available),
      lift_bind_of_ok pair, bind_of_err (existingData_of_absent (wellKeyed.afterRead _) absent)]
    rintro ⟨error, equal, wrapped⟩
    cases equal
    exact absurd (wrapped _ mem_cons_self) (by decide)
  exact ⟨fun lifeCycle => uncreated lifeCycle.created, uncreated, unreported⟩

/-! ### Region `r` -/

def RegionActionEnv.ok : RegionActionEnv :=
  { region := .ok, proof := .ok [], now := Time.unixUTC 0, returned := Time.unixUTC 0 }

theorem RegionActionEnv.inserts_ok : RegionActionEnv.ok.region.store.Inserts :=
  ⟨⟨rfl, rfl, rfl, rfl⟩, rfl⟩

def createR : CreateRegionAction :=
  { regionID := ascii "r", tees := [[1]], attestations := (attestationO, attestationO) }

def updateR : UpdateRegionAction :=
  { regionID := ascii "r", sgxEndpoint := [], sevEndpoint := [],
    attestations := (attestationO, attestationO) }

def managerEmpty : StateManager := new (fun _ => none) fun _ => none

theorem admissible_managerEmpty : Admissible createR updateR .ok managerEmpty where
  wellKeyed := wellKeyed_new _ _
  sameRegion := rfl
  size := by decide
  count := by decide
  tees := by decide
  createPair := by decide
  updatePair := by decide
  available := Or.inr rfl
  inserts := RegionActionEnv.inserts_ok
  proof := rfl
  absent := rfl

/-- Region `r` over empty stores. -/
theorem not_lifeCycle_r :
    Admissible createR updateR .ok managerEmpty ∧ ¬ LifeCycle createR updateR .ok managerEmpty :=
  ⟨admissible_managerEmpty, (not_lifeCycle createR updateR .ok managerEmpty
    admissible_managerEmpty).1⟩

/-- What the two actions answer about region `r`, which was never created. -/
theorem answers_of_absent_r :
    (createR.execute .ok managerEmpty).1 =
        .err ⟨ascii "failed to check existing region: not found", [databaseErrNotFound]⟩ ∧
      (updateR.execute .ok managerEmpty).1 =
        .err ⟨ascii "failed to get existing region: not found", [databaseErrNotFound]⟩ := by
  decide +kernel

/-! ## Whose enclaves can act -/

/-- The attestations come from two different enclaves of a list. -/
def Own (tees : List Bytes) (attestations : TEEAttestation × TEEAttestation) : Prop :=
  attestations.1.enclaveID ≠ attestations.2.enclaveID ∧
    attestations.1.enclaveID ∈ tees ∧ attestations.2.enclaveID ∈ tees

/-- Updates of the region that succeed come from its own enclaves. -/
def UpdatesOwn (regionID : Bytes) (tees : List Bytes) (sm : StateManager) : Prop :=
  ∀ (action : UpdateRegionAction) (env : RegionActionEnv), action.regionID = regionID →
    (action.execute env sm).1.Succeeded → Own tees action.attestations

/-- Events in the region that succeed come from its own enclaves. -/
def SendsOwn (regionID : Bytes) (tees : List Bytes) (sm : StateManager) : Prop :=
  ∀ (action : SendEventAction) (env : SendEnv) (timestamp : Int64), action.regionID = regionID →
    (action.execute codec env timestamp sm).1.Succeeded → Own tees action.attestations

/-- The region is set up with a list of enclaves: its record lists them. -/
structure SetUp (regionID : Bytes) (tees : List Bytes) (sm : StateManager) : Prop where
  wellKeyed : WellKeyed sm
  size : 1 ≤ regionID.length ∧ regionID.length ≤ 256
  recorded : recordedTEEs regionID sm = some tees

def attestedBy (first second : Bytes) : TEEAttestation × TEEAttestation :=
  ({ attestationO with enclaveID := first }, { attestationO with enclaveID := second })

variable {first second : Bytes}

/-- The pair only has to have names. -/
theorem verifyAttestationPair_attestedBy (named : first ≠ []) (named' : second ≠ []) :
    verifyAttestationPair (attestedBy first second) = .ok () := by
  simp [verifyAttestationPair, attestedBy, attestationO, refuse, named, named', except_seq_eq_ok]

/-- The pair is encoded, whatever the names are. -/
theorem attestations_attestedBy (first second : Bytes) :
    ∃ json, attestations (attestedBy first second) = .ok json := by
  have time : time (Time.unixUTC 0) = .ok (.ofString (Time.unixUTC 0).formatRFC3339Nano) :=
    except_bind_eq_ok.mpr ⟨(), refuse_eq_ok.mpr (by decide),
      except_bind_eq_ok.mpr ⟨(), refuse_eq_ok.mpr (by decide), rfl⟩⟩
  have encoded (enclaveID : Bytes) : ∃ json,
      attestation { attestationO with enclaveID := enclaveID } = .ok json :=
    ⟨_, except_bind_eq_ok.mpr ⟨_, time, rfl⟩⟩
  obtain ⟨json, encodedFirst⟩ := encoded first
  obtain ⟨json', encodedSecond⟩ := encoded second
  exact ⟨_, except_bind_eq_ok.mpr ⟨json, encodedFirst,
    except_bind_eq_ok.mpr ⟨json', encodedSecond, rfl⟩⟩⟩

/-- **Any two enclaves can update a region**, in every state in which it is set up. -/
theorem SetUp.update {tees : List Bytes} (setUp : SetUp regionID tees sm) (named : first ≠ [])
    (named' : second ≠ []) :
    ∃ action : UpdateRegionAction, action.regionID = regionID ∧
      action.attestations = attestedBy first second ∧ (action.execute .ok sm).1.Succeeded := by
  obtain ⟨wellKeyed, size, recorded⟩ := setUp
  obtain ⟨value, region, stored, decoded⟩ : ∃ value region, record regionID sm = some value ∧
      unmarshalMap value = .ok (some region) := by
    unfold recordedTEEs at recorded
    split at recorded
    · rename_i region found
      obtain ⟨value, stored, decoded⟩ := Option.map_eq_some_iff.mp found
      exact ⟨value, region, stored, decoded⟩
    · cases recorded
  obtain ⟨pair, encoded⟩ := attestations_attestedBy first second
  let action : UpdateRegionAction :=
    { regionID, sgxEndpoint := [], sevEndpoint := [], attestations := attestedBy first second }
  have updated : ∃ json, action.update RegionActionEnv.ok.now region = .ok json :=
    ⟨_, except_bind_eq_ok.mpr ⟨pair, encoded, rfl⟩⟩
  obtain ⟨json, updated⟩ := updated
  have sized : ¬ (regionID.length = 0 ∨ regionID.length > 256) := by omega
  exact ⟨action, rfl, rfl, update_of_stored wellKeyed sized (Or.inr rfl)
    (verifyAttestationPair_attestedBy named named') stored decoded updated
    RegionActionEnv.inserts_ok rfl⟩

/-- **Any two enclaves can send an event** to an object that is there, whatever the record of its
region says. -/
theorem send_of_readable (wellKeyed : WellKeyed sm) {objectID : Bytes} {record : ObjectRecord}
    (readable : Readable codec .ok regionID objectID record sm) (named : first ≠ [])
    (named' : second ≠ []) :
    ∃ action : SendEventAction, action.regionID = regionID ∧
      action.attestations = attestedBy first second ∧
      (action.execute codec .ok 0 sm).1.Succeeded := by
  let action : SendEventAction :=
    { sendO with idTo := objectID, attestations := attestedBy first second, regionID }
  have passed : action.check (record.toObject regionID) = .ok () := by
    have pair : verifyAttestationPair action.attestations = .ok () :=
      verifyAttestationPair_attestedBy named named'
    have function : ¬ ((ascii "f").length = 0 ∨ (ascii "f").length > maxIDLength) := by decide
    have parameters : ¬ ([6] : Bytes).length > maxStorageSize := by decide
    exact except_seq_eq_ok.mpr ⟨refuse_eq_ok.mpr function, except_seq_eq_ok.mpr
      ⟨refuse_eq_ok.mpr parameters, except_seq_eq_ok.mpr
        ⟨refuse_eq_ok.mpr fun differs => differs rfl, pair⟩⟩⟩
  obtain ⟨pair, attested⟩ := attestations_attestedBy first second
  obtain ⟨json, event⟩ : ∃ json, event action.event = .ok json :=
    ⟨_, except_bind_eq_ok.mpr ⟨pair, attested, rfl⟩⟩
  have encoded : Records.codec.marshalEvent action.event = .ok json.render := by
    show (Records.event action.event).map Json.render = _
    rw [event]
    rfl
  have sent := send_of_stores wellKeyed (show Readable codec SendEnv.ok.get action.regionID
    action.idTo record sm from readable) passed encoded ⟨rfl, rfl, rfl, rfl⟩ 0
  rcases sent with ⟨-, done⟩ | ⟨fails, -⟩
  · refine ⟨action, rfl, rfl, ?_⟩
    rw [done]
    trivial
  · exact absurd ⟨rfl, ⟨rfl, rfl, rfl, rfl⟩, rfl⟩ fails

/-- Sends in a region come from its own enclaves only where there is nothing to send to. -/
theorem sendsOwn_iff (wellKeyed : WellKeyed sm) (tees : List Bytes) :
    SendsOwn regionID tees sm ↔
      ∀ objectID record, ¬ Readable codec .ok regionID objectID record sm := by
  constructor
  · intro own objectID record readable
    obtain ⟨action, sameRegion, attested, succeeded⟩ :=
      send_of_readable wellKeyed readable (cons_ne_nil 1 []) (cons_ne_nil 1 [])
    have distinct := (own action .ok 0 sameRegion succeeded).1
    rw [attested] at distinct
    exact distinct rfl
  · intro none action env timestamp sameRegion succeeded
    obtain ⟨record, value, readable, -⟩ := send_succeeded wellKeyed succeeded
    rw [sameRegion] at readable
    exact absurd ⟨readable.named, Or.inr rfl, readable.stored⟩ (none action.idTo record)

/-- **No region belongs to its enclaves.**  Wherever a region is set up, its record can be updated
by others than its enclaves; and others can send events as soon as it has an object. -/
theorem not_onlyOwnTEEs (regionID : Bytes) (tees : List Bytes) (sm : StateManager)
    (setUp : SetUp regionID tees sm) :
    ¬ UpdatesOwn regionID tees sm ∧
      (SendsOwn regionID tees sm ↔
        ∀ objectID record, ¬ Readable codec .ok regionID objectID record sm) := by
  refine ⟨?_, sendsOwn_iff setUp.wellKeyed tees⟩
  intro own
  obtain ⟨action, sameRegion, attested, succeeded⟩ :=
    setUp.update (cons_ne_nil 1 []) (cons_ne_nil 1 [])
  have distinct := (own action .ok sameRegion succeeded).1
  rw [attested] at distinct
  exact distinct rfl

/-- A database in which region `a` is set up with one enclave and has an object. -/
def regionSetUp : MerkleDB :=
  KeyValue.insert
    (KeyValue.insert (fun _ => none) (makeRegionalKey (ascii "a") (configKey (ascii "a")))
      (Json.object [("tees".toList, .array [.ofBytes [9]])]).render)
    (objectKey (ascii "a") (ascii "o"))
    (codec.marshalObject { code := [1, 2], storage := [3], status := ascii "active" })

def managerSetUp : StateManager := new (fun _ => none) regionSetUp

theorem setUp_managerSetUp : SetUp (ascii "a") [[9]] managerSetUp where
  wellKeyed := wellKeyed_new _ _
  size := by decide
  recorded := by decide +kernel

/-- Region `a`, which is set up with one enclave. -/
theorem not_onlyOwnTEEs_a :
    SetUp (ascii "a") [[9]] managerSetUp ∧ ¬ UpdatesOwn (ascii "a") [[9]] managerSetUp :=
  ⟨setUp_managerSetUp, (not_onlyOwnTEEs _ _ _ setUp_managerSetUp).1⟩

/-- Region `a` lists the enclave `[9]` only.  It is updated, and an event is sent to its
object, with the enclave `[1]` on both sides. -/
theorem foreign_enclave_acts_a :
    recordedTEEs (ascii "a") managerSetUp = some [[9]] ∧
      (UpdateRegionAction.execute { updateR with regionID := ascii "a" } .ok
        managerSetUp).1.Succeeded ∧
      (sendO.execute codec .ok 0 managerSetUp).1.Succeeded ∧
      ¬ Own [[9]] updateR.attestations ∧ ¬ Own [[9]] sendO.attestations := by
  refine ⟨by decide +kernel, by decide +kernel, by decide +kernel, ?_, ?_⟩
  · exact fun own => own.1 rfl
  · exact fun own => own.1 rfl

end Aristo
