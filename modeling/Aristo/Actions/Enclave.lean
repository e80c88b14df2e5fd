import Aristo.Actions.Region

/-!
# Updating the valid enclaves

`UpdateValidEnclavesAction.Execute` of `actions/enclave.go`.  There is no table of enclaves: the
information about an enclave is the storage of an object of the region, whose ID is `enclave/` and
the hexadecimal digits of the enclave's ID.  In the same way `SetInputObjectAction` marks an object
as input by an object whose ID is `input:` and that of the object.
-/

namespace Aristo

open GoBase Call Storage Actions StateManager

structure EnclaveInfo where
  measurement : Bytes
  validFrom : Time
  validUntil : Time
  enclaveType : Bytes
  regionID : Bytes

structure UpdateValidEnclavesAction where
  enclaveID : Bytes
  info : EnclaveInfo
  regionID : Bytes

structure UpdateValidEnclavesResult where
  enclaveID : Bytes
  regionID : Bytes
  success : Bool
deriving DecidableEq

/-- What the two calls of an update rely on. -/
structure EnclaveEnv where
  region : RegionEnv
  set : RegionEnv

def EnclaveEnv.ok : EnclaveEnv := ⟨.ok, .ok⟩

def Records.enclaveInfo (info : EnclaveInfo) : Except GoError Json := do
  let validFrom ← Records.time info.validFrom
  let validUntil ← Records.time info.validUntil
  return .object [
    ("measurement".toList, .ofBytes info.measurement),
    ("valid_from".toList, validFrom),
    ("valid_until".toList, validUntil),
    ("enclave_type".toList, .ofString info.enclaveType),
    ("region_id".toList, .ofString info.regionID)]

/-- `marshalEnclaveInfo`, which returns nil for what cannot be encoded. -/
def marshalEnclaveInfo (info : EnclaveInfo) : Bytes :=
  match Records.enclaveInfo info with
  | .ok json => json.render
  | .error _ => []

def enclaveObjectID (enclaveID : Bytes) : Bytes :=
  ascii "enclave/" ++ enclaveID.flatMap hexByte

section Codec

variable {Region : Type} (codec : StateCodec Region)

namespace UpdateValidEnclavesAction

def object (action : UpdateValidEnclavesAction) (timestamp : Int64) : ObjectState where
  code := []
  storage := marshalEnclaveInfo action.info
  regionID := action.regionID
  events := []
  lastUpdated := Time.unixUTC timestamp.toInt
  status := ascii "active"

def execute (action : UpdateValidEnclavesAction) (env : EnclaveEnv) (timestamp : Int64) :
    Call StateManager UpdateValidEnclavesResult := do
  let found ← regionExists codec env.region action.regionID
  Call.lift (refuse (¬ found) errRegionNotFound)
  Call.wrapping (ascii "failed to store enclave info")
    (setObject codec env.set (enclaveObjectID action.enclaveID) (action.object timestamp))
  return { enclaveID := action.enclaveID, regionID := action.regionID, success := true }

end UpdateValidEnclavesAction

/-! ## What a successful call leaves -/

def UpdateValidEnclavesAction.record (action : UpdateValidEnclavesAction) : ObjectRecord where
  code := []
  storage := marshalEnclaveInfo action.info
  status := ascii "active"

def SetInputObjectAction.record : ObjectRecord where
  code := []
  storage := []
  status := ascii "input"

theorem setObject_ends_of_succeeded (env : RegionEnv) (id : Bytes) (obj : ObjectState)
    {sm : StateManager} (wellKeyed : WellKeyed sm) :
    Call.Ends (setObject codec env id obj) sm fun outcome after => outcome.Succeeded →
      obj.regionID ≠ [] ∧ Effect sm after
        [(objectKey obj.regionID id, some (codec.marshalObject obj.record))] := by
  refine ends_lift_bind (fun _ checked => ?_) fun error _ => False.elim
  refine (onRegionStore_insert_ends env obj.regionID _ _ wellKeyed).mono ?_
  rintro outcome after ⟨-, ⟨-, failed⟩ | ⟨effect, -⟩⟩ succeeded
  · exact absurd succeeded failed
  · exact ⟨refuse_eq_ok.mp checked, effect⟩

theorem setInput_ends (action : SetInputObjectAction) (env : SetInputEnv) (timestamp : Int64)
    {sm : StateManager} (wellKeyed : WellKeyed sm) :
    Call.Ends (action.execute codec env timestamp) sm fun outcome after => outcome.Succeeded →
      action.regionID ≠ [] ∧ sm.merkleDB (objectKey action.regionID action.id) ≠ none ∧
        Effect sm after [(objectKey action.regionID (ascii "input:" ++ action.id),
          some (codec.marshalObject SetInputObjectAction.record))] := by
  refine ends_lift_bind (fun _ _ => ?_) fun error _ => False.elim
  refine ends_bind (objectExists_ends env.existing action.id action.regionID wellKeyed) ?_
    (fun error after _ => False.elim) (fun after _ => False.elim)
  rintro found middle ⟨read, -, answered⟩
  refine ends_lift_bind (fun _ present => ?_) fun error _ => False.elim
  have stored : sm.merkleDB (objectKey action.regionID action.id) ≠ none := by
    have isThere : found = true := not_not.mp (refuse_eq_ok.mp present)
    rw [answered found rfl] at isThere
    exact Option.isSome_iff_ne_none.mp isThere
  refine ends_bind (setObject_ends_of_succeeded codec env.set (ascii "input:" ++ action.id)
    (action.object timestamp) read.wellKeyed) ?_ (fun error after _ => False.elim)
    (fun after _ => False.elim)
  rintro _ after wrote -
  obtain ⟨named, effect⟩ := wrote trivial
  exact ⟨named, stored, read.trans effect⟩

theorem updateEnclaves_ends (action : UpdateValidEnclavesAction) (env : EnclaveEnv)
    (timestamp : Int64) {sm : StateManager} (wellKeyed : WellKeyed sm) :
    Call.Ends (action.execute codec env timestamp) sm fun outcome after => outcome.Succeeded →
      action.regionID ≠ [] ∧
        sm.merkleDB (makeRegionalKey action.regionID (regionKey action.regionID)) ≠ none ∧
        Effect sm after [(objectKey action.regionID (enclaveObjectID action.enclaveID),
          some (codec.marshalObject action.record))] := by
  refine ends_bind (regionExists_ends codec env.region action.regionID wellKeyed) ?_
    (fun error after _ => False.elim) (fun after _ => False.elim)
  rintro found middle ⟨read, -, stored⟩
  refine ends_lift_bind (fun _ present => ?_) fun error _ => False.elim
  have isThere : found = true := not_not.mp (refuse_eq_ok.mp present)
  have wrote := ends_wrapping (ascii "failed to store enclave info")
    (setObject_ends_of_succeeded codec env.set (enclaveObjectID action.enclaveID)
      (action.object timestamp) read.wellKeyed)
  refine ends_bind wrote ?_ (fun error after _ => False.elim) (fun after _ => False.elim)
  rintro _ after wrote -
  obtain ⟨named, effect⟩ := wrote trivial
  exact ⟨named, stored (by rw [isThere]), read.trans effect⟩

end Codec

end Aristo
