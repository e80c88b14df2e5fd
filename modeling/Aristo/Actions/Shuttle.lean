import Aristo.Storage.Records

/-!
# Creating objects and sending events

`Execute` of the three actions of `actions/shuttle.go`, behind their assertion that the state they
are given is a `vm.StateManager`; `ActionCall.executeOn` has the assertion.  `create_ends` and
`send_ends` list what a call can leave in the database: a creation writes one object that was absent
before, and an event writes an event and the record of its object as it was read.  So a record is
never replaced by a different one, whatever fails on the way.
-/

namespace Aristo

open GoBase Call Storage

/-! ## Errors and limits -/

namespace Actions

def errObjectExists : GoError := .new ⟨"actions", "ErrObjectExists"⟩ "object already exists"

def errObjectNotFound : GoError := .new ⟨"actions", "ErrObjectNotFound"⟩ "object not found"

def errInvalidID : GoError := .new ⟨"actions", "ErrInvalidID"⟩ "invalid object ID"

def errInvalidFunction : GoError :=
  .new ⟨"actions", "ErrInvalidFunction"⟩ "invalid function call"

def errCodeTooLarge : GoError := .new ⟨"actions", "ErrCodeTooLarge"⟩ "code size exceeds maximum"

def errStorageTooLarge : GoError :=
  .new ⟨"actions", "ErrStorageTooLarge"⟩ "storage size exceeds maximum"

def errRegionRequired : GoError := .new ⟨"actions", "ErrRegionRequired"⟩ "region ID required"

def errRegionNotFound : GoError := .new ⟨"actions", "ErrRegionNotFound"⟩ "region not found"

def errMissingAttestation : GoError :=
  .new ⟨"actions", "ErrMissingAttestation"⟩ "missing TEE attestation"

def errAttestationMismatch : GoError :=
  .new ⟨"actions", "ErrAttestationMismatch"⟩ "attestation pair mismatch"

def maxCodeSize : ℕ := 1024 * 1024

def maxStorageSize : ℕ := 1024 * 1024

def maxIDLength : ℕ := 256

def validateCode : Bytes → Except GoError Unit
  | [] => .error (.plain (ascii "empty code"))
  | start :: _ => refuse (start = 0) (.plain (ascii "invalid code start byte"))

def verifyAttestationPair (attestations : TEEAttestation × TEEAttestation) :
    Except GoError Unit := do
  let (first, second) := attestations
  refuse (first.enclaveID = [] ∨ second.enclaveID = []) errMissingAttestation
  refuse (first.timestamp ≠ second.timestamp) errAttestationMismatch
  refuse (first.data ≠ second.data) errAttestationMismatch
  refuse (first.measurement = [] ∨ second.measurement = []) errMissingAttestation
  refuse (first.signature = [] ∨ second.signature = []) errMissingAttestation

end Actions

open Actions StateManager

/-! ## The actions -/

structure CreateObjectAction where
  id : Bytes
  code : Bytes
  storage : Bytes
  regionID : Bytes

structure CreateObjectResult where
  id : Bytes
  regionID : Bytes
deriving DecidableEq

structure SendEventAction where
  idTo : Bytes
  functionCall : Bytes
  parameters : Bytes
  attestations : TEEAttestation × TEEAttestation
  regionID : Bytes

structure SendEventResult where
  success : Bool
  idTo : Bytes
  eventID : Bytes
  stateHash : Bytes
  timestamp : Bytes
  regionID : Bytes
deriving DecidableEq

/-- What the three calls of a creation rely on. -/
structure CreateEnv where
  region : RegionEnv
  existing : RegionEnv
  set : RegionEnv

/-- What the three calls of an event rely on. -/
structure SendEnv where
  get : RegionEnv
  event : RegionEnv
  set : RegionEnv

structure SetInputObjectAction where
  id : Bytes
  regionID : Bytes

structure SetInputObjectResult where
  id : Bytes
  success : Bool
  regionID : Bytes
deriving DecidableEq

/-- The outcomes of what `SetInputObjectAction.Execute` relies on, call by call. -/
structure SetInputEnv where
  existing : RegionEnv
  set : RegionEnv

def SetInputEnv.ok : SetInputEnv := ⟨.ok, .ok⟩

section Execute

variable {Region : Type} (codec : StateCodec Region)

namespace CreateObjectAction

/-- The checks of `Execute` that do not read the state. -/
def checkFields (action : CreateObjectAction) : Except GoError Unit := do
  refuse (action.regionID = []) errRegionRequired
  refuse (action.id.length = 0 ∨ action.id.length > maxIDLength) errInvalidID
  refuse (action.code.length > maxCodeSize) errCodeTooLarge
  refuse (action.storage.length > maxStorageSize) errStorageTooLarge

def object (action : CreateObjectAction) (timestamp : Int64) : ObjectState where
  code := action.code
  storage := action.storage
  regionID := action.regionID
  events := []
  lastUpdated := Time.unixUTC timestamp.toInt
  status := ascii "active"

def execute (action : CreateObjectAction) (env : CreateEnv) (timestamp : Int64) :
    Call StateManager CreateObjectResult := do
  Call.lift action.checkFields
  let region ← getRegion codec env.region action.regionID
  Call.lift (refuse region.isNone errRegionNotFound)
  let existing ← objectExists env.existing action.id action.regionID
  Call.lift (refuse existing errObjectExists)
  Call.lift (validateCode action.code)
  setObject codec env.set action.id (action.object timestamp)
  return { id := action.id, regionID := action.regionID }

end CreateObjectAction

namespace SendEventAction

/-- The checks of `Execute` between reading the object and writing the event. -/
def check (action : SendEventAction) (obj : ObjectState) : Except GoError Unit := do
  refuse (action.functionCall.length = 0 ∨ action.functionCall.length > maxIDLength)
    errInvalidFunction
  refuse (action.parameters.length > maxStorageSize) errStorageTooLarge
  refuse (obj.regionID ≠ action.regionID)
    (.plain (ascii "object region " ++ obj.regionID ++ ascii " does not match event region " ++
      action.regionID))
  verifyAttestationPair action.attestations

def eventID (action : SendEventAction) : Bytes :=
  action.idTo ++ ascii ":" ++ action.attestations.1.timestamp.formatRFC3339

def event (action : SendEventAction) : Event where
  functionCall := action.functionCall
  parameters := action.parameters
  attestations := action.attestations
  timestamp := action.attestations.1.timestamp.formatRFC3339
  status := ascii "pending"

def update (action : SendEventAction) (timestamp : Int64) (obj : ObjectState) : ObjectState :=
  { obj with
    events := obj.events ++ [action.eventID]
    lastUpdated := Time.unixUTC timestamp.toInt }

def execute (action : SendEventAction) (env : SendEnv) (timestamp : Int64) :
    Call StateManager SendEventResult := do
  Call.lift (refuse (action.regionID = []) errRegionRequired)
  match ← getObject codec env.get action.idTo action.regionID with
  | none => Call.fail errObjectNotFound
  | some obj => do
    Call.lift (action.check obj)
    setEvent codec env.event action.eventID action.event action.regionID
    setObject codec env.set action.idTo (action.update timestamp obj)
    return {
      success := true
      idTo := action.idTo
      eventID := action.eventID
      stateHash := action.attestations.1.data
      timestamp := action.attestations.1.timestamp.utc.formatRFC3339
      regionID := action.regionID }

end SendEventAction

namespace SetInputObjectAction

def object (action : SetInputObjectAction) (timestamp : Int64) : ObjectState where
  code := []
  storage := []
  regionID := action.regionID
  events := []
  lastUpdated := Time.unixUTC timestamp.toInt
  status := ascii "input"

def execute (action : SetInputObjectAction) (env : SetInputEnv) (timestamp : Int64) :
    Call StateManager SetInputObjectResult := do
  Call.lift (refuse (action.id.length = 0 ∨ action.id.length > maxIDLength) errInvalidID)
  let existing ← objectExists env.existing action.id action.regionID
  Call.lift (refuse (¬ existing) errObjectNotFound)
  setObject codec env.set (ascii "input:" ++ action.id) (action.object timestamp)
  return { id := action.id, success := true, regionID := action.regionID }

end SetInputObjectAction

/-! ## What one call can leave behind -/

def CreateObjectAction.record (action : CreateObjectAction) : ObjectRecord where
  code := action.code
  storage := action.storage
  status := ascii "active"

variable {sm : StateManager}

section

variable (action : CreateObjectAction) (env : CreateEnv) (timestamp : Int64)
    (wellKeyed : WellKeyed sm)

include wellKeyed

/-- **Creating an object** fails with nothing written, or writes the record of an
object that was absent; in the second case it can still report an error. -/
theorem create_ends :
    Call.Ends (action.execute codec env timestamp) sm fun outcome after =>
      (Effect sm after [] ∧ ¬ outcome.Succeeded) ∨
        (action.regionID ≠ [] ∧ Cached after action.regionID ∧
          sm.merkleDB (objectKey action.regionID action.id) = none ∧
          Effect sm after [(objectKey action.regionID action.id,
            some (codec.marshalObject action.record))]) := by
  refine ends_lift_bind (fun _ checked => ?_) fun error _ =>
    Or.inl ⟨Effect.refl wellKeyed, not_false⟩
  have named : action.regionID ≠ [] := refuse_eq_ok.mp (except_seq_eq_ok.mp checked).1
  refine ends_bind (getRegion_ends codec env.region action.regionID wellKeyed) ?_
    (fun error after post => Or.inl ⟨post.1, not_false⟩) (fun after post => absurd rfl post.2.1)
  rintro region afterRegion ⟨regionRead, -⟩
  refine ends_lift_bind (fun _ _ => ?_) fun error _ => Or.inl ⟨regionRead, not_false⟩
  refine ends_bind (objectExists_ends env.existing action.id action.regionID
      regionRead.wellKeyed) ?_
    (fun error after post => Or.inl ⟨regionRead.trans post.1, not_false⟩)
    (fun after post => absurd rfl post.2.1)
  rintro found afterExists ⟨existsRead, -, answered⟩
  have read := regionRead.trans existsRead
  refine ends_lift_bind (fun _ absent => ?_) fun error _ => Or.inl ⟨read, not_false⟩
  have free : sm.merkleDB (objectKey action.regionID action.id) = none := by
    have unanswered : ¬ found = true := refuse_eq_ok.mp absent
    rw [answered found rfl, regionRead.db] at unanswered
    simpa using unanswered
  refine ends_lift_bind (fun _ _ => ?_) fun error _ => Or.inl ⟨read, not_false⟩
  -- whatever the write reports, its log is one of the two
  have wrote := setObject_ends codec env.set action.id (action.object timestamp) read.wellKeyed
  refine ends_bind wrote ?_ ?_ fun after post => absurd rfl post.1
  · rintro _ after ⟨-, ⟨-, failed⟩ | ⟨effect, cached⟩⟩
    · exact absurd trivial failed
    · exact Or.inr ⟨named, cached, free, read.trans effect⟩
  · rintro error after ⟨-, ⟨effect, -⟩ | ⟨effect, cached⟩⟩
    · exact Or.inl ⟨read.trans effect, not_false⟩
    · exact Or.inr ⟨named, cached, free, read.trans effect⟩

/-- A creation that succeeds had a region, and code. -/
theorem create_requires :
    Call.Ends (action.execute codec env timestamp) sm fun outcome _ => outcome.Succeeded →
      sm.merkleDB (makeRegionalKey action.regionID (regionKey action.regionID)) ≠ none ∧
        action.code ≠ [] := by
  refine ends_lift_bind (fun _ _ => ?_) fun error _ => False.elim
  refine ends_bind (getRegion_ends codec env.region action.regionID wellKeyed) ?_
    (fun error after _ => False.elim) (fun after _ => False.elim)
  rintro region afterRegion ⟨read, -, stored⟩
  refine ends_lift_bind (fun _ present => ?_) fun error _ => False.elim
  obtain ⟨region, rfl⟩ := Option.ne_none_iff_exists'.mp
    (fun missing => refuse_eq_ok.mp present (Option.isNone_iff_eq_none.mpr missing))
  refine ends_bind (objectExists_ends env.existing action.id action.regionID read.wellKeyed)
    ?_ (fun error after _ => False.elim) (fun after _ => False.elim)
  intro found afterExists _
  refine ends_lift_bind (fun _ _ => ?_) fun error _ => False.elim
  refine ends_lift_bind (fun _ valid => ?_) fun error _ => False.elim
  intro _
  refine ⟨stored region rfl, ?_⟩
  intro empty
  rw [empty] at valid
  cases valid

end

/-- A write that an event to `(regionID, id)` can make: an event, or the object's record
as it was read. -/
def SendWrite (sm : StateManager) (regionID id : Bytes) (write : Write Bytes Bytes) : Prop :=
  (∃ eventID, write.1 = eventKey regionID eventID) ∨
    (write.1 = objectKey regionID id ∧ ∃ value record,
      sm.merkleDB (objectKey regionID id) = some value ∧
        codec.unmarshalObject value = .ok record ∧
        write.2 = some (codec.marshalObject record))

/-- The state left by a part of sending an event: everything written so far is
admissible. -/
def Sends (sm : StateManager) (regionID id : Bytes) (after : StateManager) : Prop :=
  ∃ log, Effect sm after log ∧ ∀ write ∈ log, SendWrite codec sm regionID id write

variable {id : Bytes} {after : StateManager}

variable {codec} in
/-- Stores that are cached belong to their regions. -/
theorem Sends.wellKeyed {regionID : Bytes} (sends : Sends codec sm regionID id after) :
    WellKeyed after := by
  obtain ⟨log, effect, -⟩ := sends
  exact effect.wellKeyed

variable {middle : StateManager}

variable {codec} in
/-- Further writes are admissible if each is. -/
theorem Sends.append {regionID : Bytes} {log : List (Write Bytes Bytes)}
    (sends : Sends codec sm regionID id middle) (effect : Effect middle after log)
    (admissible : ∀ write ∈ log, SendWrite codec sm regionID id write) :
    Sends codec sm regionID id after := by
  obtain ⟨earlier, before, allowed⟩ := sends
  refine ⟨earlier ++ log, before.trans effect, fun write mem => ?_⟩
  rcases List.mem_append.mp mem with old | new
  · exact allowed write old
  · exact admissible write new

/-- **Sending an event** writes events and the record of its object as it was read. -/
theorem send_ends (action : SendEventAction) (env : SendEnv) (timestamp : Int64)
    (wellKeyed : WellKeyed sm) :
    Call.Ends (action.execute codec env timestamp) sm fun _ after =>
      ∃ log, Effect sm after log ∧
        ∀ write ∈ log, SendWrite codec sm action.regionID action.idTo write := by
  show Call.Ends _ sm fun _ after => Sends codec sm action.regionID action.idTo after
  refine ends_lift_bind (fun _ _ => ?_) fun error _ =>
    ⟨[], Effect.refl wellKeyed, nofun⟩
  refine ends_bind (getObject_ends codec env.get action.idTo action.regionID wellKeyed) ?_
    (fun error after post => ⟨[], post.1, nofun⟩) (fun after post => ⟨[], post.1, nofun⟩)
  rintro obj afterGet ⟨read, -, -, decoded⟩
  have sends : Sends codec sm action.regionID action.idTo afterGet := ⟨[], read, nofun⟩
  cases obj with
  | none => exact sends
  | some obj =>
    obtain ⟨value, record, stored, unmarshalled, rfl⟩ := decoded obj rfl
    refine ends_lift_bind (fun _ _ => ?_) fun error _ => sends
    -- the event is written first, and stays when writing the object fails
    have queued : Call.Ends (setEvent codec env.event action.eventID action.event action.regionID)
        afterGet fun _ after => Sends codec sm action.regionID action.idTo after := by
      refine (setEvent_ends codec env.event action.eventID action.event action.regionID
        sends.wellKeyed).mono ?_
      rintro outcome after ⟨-, unwritten | ⟨value, written⟩⟩
      · exact sends.append unwritten nofun
      · refine sends.append written fun write mem => Or.inl ⟨action.eventID, ?_⟩
        rw [List.mem_singleton.mp mem]
    refine ends_bind queued ?_ (fun error after post => post) (fun after post => post)
    intro _ afterEvent sent
    have updated : Call.Ends (setObject codec env.set action.idTo
          (action.update timestamp (record.toObject action.regionID))) afterEvent
        fun _ after => Sends codec sm action.regionID action.idTo after := by
      refine (setObject_ends codec env.set action.idTo _ sent.wellKeyed).mono ?_
      intro outcome after wrote
      rcases wrote.effect with unwritten | written
      · exact sent.append unwritten nofun
      · refine sent.append written fun write mem => Or.inr ?_
        rw [List.mem_singleton.mp mem]
        exact ⟨rfl, value, record, stored, unmarshalled, rfl⟩
    exact ends_bind updated (fun _ after post => post) (fun error after post => post)
      (fun after post => post)

/-! ## Runs -/

inductive Step where
  | create (action : CreateObjectAction) (env : CreateEnv) (timestamp : Int64)
  | send (action : SendEventAction) (env : SendEnv) (timestamp : Int64)

namespace Step

def regionID : Step → Bytes
  | create action _ _ => action.regionID
  | send action _ _ => action.regionID

def apply (sm : StateManager) : Step → StateManager
  | create action env timestamp => (action.execute codec env timestamp sm).2
  | send action env timestamp => (action.execute codec env timestamp sm).2

/-- Every call keeps them so, -/
theorem wellKeyed_apply {sm : StateManager} (wellKeyed : WellKeyed sm) (step : Step) :
    WellKeyed (apply codec sm step) := by
  cases step with
  | create action env timestamp =>
    rcases create_ends codec action env timestamp wellKeyed with
      ⟨effect, -⟩ | ⟨-, -, -, effect⟩
    · exact effect.wellKeyed
    · exact effect.wellKeyed
  | send action env timestamp =>
    obtain ⟨log, effect, -⟩ := send_ends codec action env timestamp wellKeyed
    exact effect.wellKeyed

/-- and every run. -/
theorem wellKeyed_run {sm : StateManager} (wellKeyed : WellKeyed sm) (steps : List Step) :
    WellKeyed (run (apply codec) sm steps) := by
  have preserved : ∀ (sm : StateManager) (step : Step), WellKeyed sm →
      WellKeyed (apply codec sm step) := fun _ step holds => wellKeyed_apply codec holds step
  exact run_preserves preserved wellKeyed steps

end Step

/-- The database holds the record of an object, and the store of its region is cached. -/
structure Holds (regionID id : Bytes) (record : ObjectRecord) (sm : StateManager) : Prop where
  wellKeyed : WellKeyed sm
  cached : Cached sm regionID
  stored : sm.merkleDB (objectKey regionID id) = some (codec.marshalObject record)

section

variable {regionID : Bytes} {record : ObjectRecord} (holds : Holds codec regionID id record sm)
    (plain : slash ∉ regionID)

include holds plain

/-- **A record is never replaced**: no call on a region without a slash changes it. -/
theorem Holds.apply {step : Step}
    (plainStep : slash ∉ step.regionID) :
    Holds codec regionID id record (step.apply codec sm) := by
  -- it is enough that the writes to the object's key repeat its record
  suffices h : ∃ log, Effect sm (step.apply codec sm) log ∧
      ∀ write ∈ log, write.1 = objectKey regionID id →
        write.2 = some (codec.marshalObject record) by
    obtain ⟨log, effect, repeats⟩ := h
    refine ⟨effect.wellKeyed, effect.cached regionID holds.cached, ?_⟩
    rw [effect.db]
    exact applyWrites_of_repeats holds.stored repeats
  cases step with
  | create action env timestamp =>
    rcases create_ends codec action env timestamp holds.wellKeyed with
      ⟨effect, -⟩ | ⟨-, -, free, effect⟩
    · exact ⟨_, effect, nofun⟩
    · refine ⟨_, effect, fun write mem same => ?_⟩
      have key : objectKey action.regionID action.id = objectKey regionID id := by
        rw [← same, List.mem_singleton.mp mem]
      rw [key, holds.stored] at free
      cases free
  | send action env timestamp =>
    obtain ⟨log, effect, admissible⟩ := send_ends codec action env timestamp holds.wellKeyed
    refine ⟨log, effect, fun write mem same => ?_⟩
    rcases admissible write mem with ⟨eventID, key⟩ | ⟨key, value, found, stored, decoded, new⟩
    · exact absurd (same.symm.trans key) (objectKey_ne_eventKey plain plainStep)
    · rw [← key, same, holds.stored] at stored
      cases stored
      rw [codec.unmarshal_marshalObject] at decoded
      cases decoded
      exact new

/-- **A record stays over every run.** -/
theorem Holds.run {steps : List Step}
    (plainSteps : ∀ step ∈ steps, slash ∉ step.regionID) :
    Holds codec regionID id record (run (Step.apply codec) sm steps) := by
  exact run_invariant (fun _ _ plainStep holds => Holds.apply codec holds plain plainStep) holds
    plainSteps

end

/-- **Objects are created once and kept.**  In a run over regions whose IDs contain no
slash, once a creation has succeeded, then in every later state of the run `GetObject`
returns the code, storage and status of that creation, and every further creation of
the same object fails. -/
theorem created_once_and_kept (store : Mutable) (merkleDB : MerkleDB)
    (before middle : List Step) (action : CreateObjectAction) (env : CreateEnv)
    (timestamp : Int64)
    (plain : ∀ step ∈ before ++ .create action env timestamp :: middle, slash ∉ step.regionID)
    (created : (action.execute codec env timestamp
      (run (Step.apply codec) (new store merkleDB) before)).1.Succeeded) :
    let sm := run (Step.apply codec) (new store merkleDB)
      (before ++ .create action env timestamp :: middle)
    (∀ env, (getObject codec env action.id action.regionID sm).1 =
        .ok (some {
          code := action.code
          storage := action.storage
          regionID := action.regionID
          events := []
          lastUpdated := Time.zero
          status := ascii "active" })) ∧
      ∀ (again : CreateObjectAction) (env : CreateEnv) (timestamp : Int64),
        again.regionID = action.regionID → again.id = action.id →
          ¬ (again.execute codec env timestamp sm).1.Succeeded := by
  intro sm
  have start := Step.wellKeyed_run codec (wellKeyed_new store merkleDB) before
  obtain ⟨named, first⟩ : action.regionID ≠ [] ∧ Holds codec action.regionID action.id
      action.record (action.execute codec env timestamp _).2 := by
    rcases create_ends codec action env timestamp start with
      ⟨-, failed⟩ | ⟨named, cached, -, effect⟩
    · exact absurd created failed
    · refine ⟨named, effect.wellKeyed, cached, ?_⟩
      rw [effect.db]
      simp
  have holds : Holds codec action.regionID action.id action.record sm := by
    have plainAction : slash ∉ action.regionID := plain (.create action env timestamp) (by simp)
    have plainMiddle : ∀ step ∈ middle, slash ∉ step.regionID :=
      fun step mem => plain step (by simp [mem])
    have later := first.run codec plainAction plainMiddle
    rwa [show sm = run (Step.apply codec) _ middle from run_append _ _ _ _]
  refine ⟨fun env => ?_, fun again env timestamp sameRegion sameID succeeded => ?_⟩
  · have readable : Readable codec env action.regionID action.id action.record sm :=
      ⟨named, Or.inl holds.cached, _, holds.stored, codec.unmarshal_marshalObject _⟩
    rw [getObject_of_readable holds.wellKeyed readable]
    rfl
  · rcases create_ends codec again env timestamp holds.wellKeyed with
      ⟨-, failed⟩ | ⟨-, -, free, -⟩
    · exact failed succeeded
    · rw [sameRegion, sameID, holds.stored] at free
      cases free

end Execute

/-! ### A concrete run -/

def createO : CreateObjectAction :=
  { id := ascii "o", code := [1, 2], storage := [3], regionID := ascii "a" }

def attestationO : TEEAttestation where
  enclaveID := [1]
  measurement := [2]
  timestamp := Time.unixUTC 0
  data := [3]
  signature := [4]
  regionProof := [5]

def sendO : SendEventAction where
  idTo := ascii "o"
  functionCall := ascii "f"
  parameters := [6]
  attestations := (attestationO, attestationO)
  regionID := ascii "a"

def regionA : MerkleDB :=
  KeyValue.insert (fun _ => none) (makeRegionalKey (ascii "a") (regionKey (ascii "a")))
    (ascii "\x7b\x7d")

def managerA : StateManager := new (fun _ => none) regionA

def CreateEnv.ok : CreateEnv := ⟨.ok, .ok, .ok⟩

def SendEnv.ok : SendEnv := ⟨.ok, .ok, .ok⟩

/-- The object `o` is created, and an event to it leaves it as it was. -/
theorem created_once_and_kept_after_event :
    (createO.execute Records.codec .ok 0 managerA).1.Succeeded ∧
      (getObject Records.codec .ok (ascii "o") (ascii "a")
        (run (Step.apply Records.codec) managerA [.create createO .ok 0, .send sendO .ok 0])).1 =
        .ok (some {
          code := [1, 2]
          storage := [3]
          regionID := ascii "a"
          events := []
          lastUpdated := Time.zero
          status := ascii "active" }) := by
  have created : (createO.execute Records.codec .ok 0 managerA).1.Succeeded := by decide
  have kept := created_once_and_kept Records.codec (fun _ => none) regionA []
    [.send sendO .ok 0] createO .ok 0 (by decide) created
  exact ⟨created, kept.1 .ok⟩

end Aristo
