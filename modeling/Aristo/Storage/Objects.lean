import Aristo.Base.Time
import Aristo.Storage.StateManager

/-!
# Objects and events of a region

The region-aware half of `storage/state_manager.go`.  All calls go through
`getRegionalStoreInternal`, which caches one store per region over the merkle database that all
regions share.  An object is kept under `r/<region>/<region>/object/<id>` and an event under
`r/<region>/<region>/event/<id>`.

What a call leaves behind is a log of writes to the shared database (`Effect`); each function has
one lemma `…_ends`, its postcondition over every way it can end.
-/

namespace Aristo

open GoBase Call Storage List MerkleStore

/-! ## What is stored -/

structure TEEAttestation where
  enclaveID : Bytes
  measurement : Bytes
  timestamp : Time
  data : Bytes
  signature : Bytes
  regionProof : Bytes
deriving DecidableEq

structure ObjectState where
  code : Bytes
  storage : Bytes
  regionID : Bytes
  events : List Bytes
  lastUpdated : Time
  status : Bytes
deriving DecidableEq

structure Event where
  functionCall : Bytes
  parameters : Bytes
  attestations : TEEAttestation × TEEAttestation
  timestamp : Bytes
  status : Bytes
deriving DecidableEq

/-- The entries `code`, `storage` and `status` of the map that `SetObject` encodes. -/
structure ObjectRecord where
  code : Bytes
  storage : Bytes
  status : Bytes
deriving DecidableEq

/-- The map entries that `SetObject` takes from an object. -/
def ObjectState.record (obj : ObjectState) : ObjectRecord where
  code := obj.code
  storage := obj.storage
  status := obj.status

/-- The object that `GetObject` builds: its events and the time of its last update are not stored.
-/
def ObjectRecord.toObject (record : ObjectRecord) (regionID : Bytes) : ObjectState where
  code := record.code
  storage := record.storage
  regionID := regionID
  events := []
  lastUpdated := Time.zero
  status := record.status

/-- `marshalState` and `unmarshalState` at the types they are used with.  A missing entry is read as
empty, and the map of a region can decode to nil. -/
structure StateCodec (Region : Type) where
  marshalObject : ObjectRecord → Bytes
  unmarshalObject : Bytes → Except GoError ObjectRecord
  /-- Fails for a time whose year JSON cannot express. -/
  marshalEvent : Event → Except GoError Bytes
  unmarshalRegion : Bytes → Except GoError (Option Region)
  /-- A `map[string][]byte` survives encoding and decoding. -/
  unmarshal_marshalObject : ∀ record, unmarshalObject (marshalObject record) = .ok record

/-- The outcomes of what one region-aware call relies on. -/
structure RegionEnv where
  /-- `coordinator.GetTEEPair`. -/
  pair : Except GoError Unit
  /-- What the calls of the region's store rely on. -/
  store : StoreEnv

def RegionEnv.ok : RegionEnv := { pair := .ok (), store := .ok }

namespace Storage

def errInvalidRegionID : GoError :=
  GoError.new ⟨"storage", "ErrInvalidRegionID"⟩ "invalid region ID"

def makeRegionKey (regionID kind id : Bytes) : Bytes :=
  regionID ++ slash :: (kind ++ slash :: id)

def regionKey (id : Bytes) : Bytes :=
  7 :: id

/-- A read of a region's store that takes `database.ErrNotFound` for an absent
value. -/
def find (key : Bytes) : Call Opened (Option Bytes) := do
  match ← Call.attempt (get key) with
  | .ok value => return some value
  | .error error =>
    if error.is databaseErrNotFound then return none else Call.fail error

/-- A read finds what the database has under the key of the region. -/
@[simp] theorem find_apply (key : Bytes) (opened : Opened) :
    find key opened =
      (.ok (opened.db (makeRegionalKey opened.store.regionID key)), opened) := by
  have read : get key opened =
      (answer (opened.db (makeRegionalKey opened.store.regionID key)), opened) := rfl
  unfold find
  rw [bind_apply, Call.attempt, read]
  cases opened.db (makeRegionalKey opened.store.regionID key) with
  | none | some => rfl

/-! ## The keys -/

def objectKey (regionID id : Bytes) : Bytes :=
  makeRegionalKey regionID (makeRegionKey regionID (ascii "object") id)

def eventKey (regionID id : Bytes) : Bytes :=
  makeRegionalKey regionID (makeRegionKey regionID (ascii "event") id)

/-- Regions without a slash can be read off a key, so that no object has the key of an event, -/
theorem objectKey_ne_eventKey {region region' id id' : Bytes} (plain : slash ∉ region)
    (plain' : slash ∉ region') : objectKey region id ≠ eventKey region' id' := by
  intro h
  unfold objectKey eventKey makeRegionalKey makeRegionKey at h
  rw [append_assoc, append_assoc] at h
  obtain ⟨-, rest⟩ := append_sep_inj plain plain' (append_cancel_left h)
  obtain ⟨-, tail⟩ := append_sep_inj plain plain' rest
  exact absurd (append_sep_inj (by decide) (by decide) tail).1 (by decide)

/-- nor in any region of its own. -/
theorem objectKey_ne_eventKey_of_region (region id id' : Bytes) :
    objectKey region id ≠ eventKey region id' := by
  intro equal
  have inner := makeRegionalKey_inj equal
  unfold makeRegionKey at inner
  have kinds := (List.cons.inj (append_cancel_left inner)).2
  cases (List.cons.inj kinds).1

/-- The ID of an event can be read off its key. -/
theorem eventKey_inj {region id id' : Bytes} (h : eventKey region id = eventKey region id') :
    id = id' := by
  have inner := makeRegionalKey_inj h
  unfold makeRegionKey at inner
  have kinds := (List.cons.inj (append_cancel_left inner)).2
  exact (List.cons.inj (append_cancel_left kinds)).2

end Storage

namespace StateManager

/-! ## The functions -/

def getRegionalStoreInternal (env : RegionEnv) (regionID : Bytes) :
    Call StateManager MerkleStore := do
  let sm ← Call.read
  match sm.regionStores regionID with
  | some store => return store
  | none => do
    Call.wrapping (ascii "failed to get TEE pair") (Call.lift env.pair)
    Call.modify fun sm =>
      { sm with regionStores := sm.regionStores.insert regionID (.new regionID) }
    return .new regionID

/-- The manager after a call on the store of a region, which stays in the cache. -/
def afterStore (sm : StateManager) (regionID : Bytes) (opened : Opened) : StateManager :=
  { sm with
    regionStores := sm.regionStores.insert regionID opened.store
    merkleDB := opened.db }

/-- A call on the store that `getRegionalStoreInternal` returns. -/
def onRegionStore {α : Type} (env : RegionEnv) (regionID : Bytes) (call : Call Opened α) :
    Call StateManager α := do
  let store ← Call.wrapping (ascii "failed to get regional store")
    (getRegionalStoreInternal env regionID)
  Call.focus (fun sm => { store, db := sm.merkleDB })
    (fun sm opened => sm.afterStore regionID opened) call

section Codec

variable {Region : Type} (codec : StateCodec Region)

def getObject (env : RegionEnv) (id regionID : Bytes) :
    Call StateManager (Option ObjectState) := do
  Call.lift (refuse (regionID = []) errInvalidRegionID)
  match ← onRegionStore env regionID (find (makeRegionKey regionID (ascii "object") id)) with
  | none => return none
  | some value => do
    let record ← Call.lift (codec.unmarshalObject value)
    return some (record.toObject regionID)

def setObject (env : RegionEnv) (id : Bytes) (obj : ObjectState) : Call StateManager Unit := do
  Call.lift (refuse (obj.regionID = []) errInvalidRegionID)
  onRegionStore env obj.regionID
    (MerkleStore.insert env.store (makeRegionKey obj.regionID (ascii "object") id)
      (codec.marshalObject obj.record))

/-- `ObjectExists`.  A value that the database returns is never nil. -/
def objectExists (env : RegionEnv) (id regionID : Bytes) : Call StateManager Bool := do
  Call.lift (refuse (regionID = []) errInvalidRegionID)
  let value ← onRegionStore env regionID (find (makeRegionKey regionID (ascii "object") id))
  return value.isSome

def setEvent (env : RegionEnv) (id : Bytes) (event : Event) (regionID : Bytes) :
    Call StateManager Unit := do
  Call.lift (refuse (regionID = []) errInvalidRegionID)
  onRegionStore env regionID do
    let value ← Call.wrapping (ascii "failed to marshal event")
      (Call.lift (codec.marshalEvent event))
    MerkleStore.insert env.store (makeRegionKey regionID (ascii "event") id) value

def getRegion (env : RegionEnv) (regionID : Bytes) : Call StateManager (Option Region) := do
  Call.lift (refuse (regionID = []) errInvalidRegionID)
  match ← onRegionStore env regionID (find (regionKey regionID)) with
  | none => return none
  | some value => Call.lift (codec.unmarshalRegion value)

def regionExists (env : RegionEnv) (regionID : Bytes) : Call StateManager Bool := do
  let region ← getRegion codec env regionID
  return region.isSome

end Codec

/-! ## What a call leaves behind -/

/-- Every cached store is the store of its region and has a coordinator. -/
def WellKeyed (sm : StateManager) : Prop :=
  ∀ regionID store, sm.regionStores regionID = some store →
    store.regionID = regionID ∧ store.coordinated = true

def Cached (sm : StateManager) (regionID : Bytes) : Prop :=
  (sm.regionStores regionID).isSome

/-- The database has taken a log of writes, and the cache has only grown. -/
structure Effect (before after : StateManager) (log : List (Write Bytes Bytes)) : Prop where
  wellKeyed : WellKeyed after
  cached : ∀ regionID, Cached before regionID → Cached after regionID
  db : after.merkleDB = applyWrites before.merkleDB log

/-- No store is cached at first. -/
theorem wellKeyed_new (store : Mutable) (merkleDB : MerkleDB) : WellKeyed (new store merkleDB) :=
  fun _ _ cached => nomatch cached

variable {sm : StateManager}

theorem Effect.refl (wellKeyed : WellKeyed sm) : Effect sm sm [] :=
  ⟨wellKeyed, fun _ cached => cached, rfl⟩

/-- One log follows the other. -/
theorem Effect.trans {first second third : StateManager} {log log' : List (Write Bytes Bytes)}
    (h : Effect first second log) (h' : Effect second third log') :
    Effect first third (log ++ log') := by
  refine ⟨h'.wellKeyed, fun regionID cached => h'.cached regionID (h.cached regionID cached), ?_⟩
  rw [applyWrites_append, ← h.db, h'.db]

/-- The store that was used is cached, -/
theorem cached_afterStore (sm : StateManager) (regionID : Bytes) (opened : Opened) :
    Cached (sm.afterStore regionID opened) regionID := by
  simp [Cached, afterStore]

variable {regionID : Bytes}

theorem regionStores_afterStore_of_ne (sm : StateManager) {other : Bytes} (opened : Opened)
    (h : other ≠ regionID) :
    (sm.afterStore regionID opened).regionStores other = sm.regionStores other :=
  KeyValue.insert_of_ne _ _ h

/-- and what it wrote is the log. -/
theorem effect_afterStore (wellKeyed : WellKeyed sm) {opened : Opened}
    {log : List (Write Bytes Bytes)} (region : opened.store.regionID = regionID)
    (coordinated : opened.store.coordinated = true) (db : opened.db = applyWrites sm.merkleDB log) :
    Effect sm (sm.afterStore regionID opened) log := by
  refine ⟨fun other store cached => ?_, fun other cached => ?_, db⟩
  · by_cases equal : other = regionID
    · subst equal
      have stored : opened.store = store := by simpa [afterStore] using cached
      exact stored ▸ ⟨region, coordinated⟩
    · rw [regionStores_afterStore_of_ne sm opened equal] at cached
      exact wellKeyed other store cached
  · by_cases equal : other = regionID
    · rw [equal]
      exact cached_afterStore sm regionID opened
    · rwa [Cached, regionStores_afterStore_of_ne sm opened equal]

/-- The store of a region: the cached one, or the new one that is made on first use. -/
def storeOf (sm : StateManager) (regionID : Bytes) : MerkleStore :=
  (sm.regionStores regionID).getD (.new regionID)

/-- The store of a region can be had: it is cached, or its worker pair is known. -/
def Available (env : RegionEnv) (sm : StateManager) (regionID : Bytes) : Prop :=
  Cached sm regionID ∨ env.pair = .ok ()

/-- The store of a region has its ID and a coordinator. -/
theorem WellKeyed.storeOf (wellKeyed : WellKeyed sm) (regionID : Bytes) :
    (sm.storeOf regionID).regionID = regionID ∧ (sm.storeOf regionID).coordinated = true := by
  unfold StateManager.storeOf
  cases cached : sm.regionStores regionID with
  | none => exact ⟨rfl, rfl⟩
  | some store => exact wellKeyed regionID store cached

/-- The other regions keep their store. -/
theorem storeOf_afterStore (sm : StateManager) (regionID other : Bytes) (opened : Opened) :
    (sm.afterStore regionID opened).storeOf other =
      if other = regionID then opened.store else sm.storeOf other := by
  unfold storeOf
  by_cases equal : other = regionID
  · subst equal
    simp [afterStore]
  · rw [regionStores_afterStore_of_ne sm opened equal, if_neg equal]

variable {env : RegionEnv}

/-- A call runs on the store of the region, -/
theorem onRegionStore_of_available {α : Type} (available : Available env sm regionID)
    (call : Call Opened α) :
    onRegionStore env regionID call sm =
      ((call { store := sm.storeOf regionID, db := sm.merkleDB }).1,
        sm.afterStore regionID
          (call { store := sm.storeOf regionID, db := sm.merkleDB }).2) := by
  cases cached : sm.regionStores regionID with
  | some store =>
    have same : sm.storeOf regionID = store := by simp [storeOf, cached]
    have found : getRegionalStoreInternal env regionID sm = (.ok store, sm) := by
      simp [getRegionalStoreInternal, bind_apply, cached]
    rw [same]
    exact bind_of_ok (wrapping_of_ok found)
  | none =>
    have pair : env.pair = .ok () := available.resolve_left (by simp [Cached, cached])
    -- the new store enters the cache, and the call then replaces it there
    simp [onRegionStore, getRegionalStoreInternal, bind_apply, Call.wrapping, cached, pair,
      Call.focus, afterStore, storeOf]

/-- or fails without a change. -/
theorem onRegionStore_of_unavailable {α : Type} (unavailable : ¬ Available env sm regionID)
    (call : Call Opened α) :
    ∃ error, onRegionStore env regionID call sm = (.err error, sm) := by
  obtain ⟨uncached, noPair⟩ := not_or.mp unavailable
  have cached : sm.regionStores regionID = none := by simpa [Cached] using uncached
  obtain ⟨pair, store⟩ := env
  cases pair with
  | ok => exact absurd rfl noPair
  | error error =>
    refine ⟨(error.wrap (ascii "failed to get TEE pair")).wrap
      (ascii "failed to get regional store"), ?_⟩
    simp [onRegionStore, getRegionalStoreInternal, bind_apply, Call.wrapping, cached]

/-- **A call on a region's store.**  The store cannot be had, or the call runs on one that has a
coordinator. -/
theorem onRegionStore_cases {α : Type} (env : RegionEnv) (regionID : Bytes) (call : Call Opened α)
    (wellKeyed : WellKeyed sm) :
    (¬ Cached sm regionID ∧ ∃ error, onRegionStore env regionID call sm = (.err error, sm)) ∨
      ∃ store : MerkleStore, store.regionID = regionID ∧ store.coordinated = true ∧
        onRegionStore env regionID call sm =
          ((call { store, db := sm.merkleDB }).1,
            sm.afterStore regionID (call { store, db := sm.merkleDB }).2) := by
  by_cases available : Available env sm regionID
  · right
    obtain ⟨region, coordinated⟩ := wellKeyed.storeOf regionID
    exact ⟨_, region, coordinated, onRegionStore_of_available available call⟩
  · left
    obtain ⟨uncached, -⟩ := not_or.mp available
    exact ⟨uncached, onRegionStore_of_unavailable available call⟩

/-- **A read** changes no value, and returns the one that is there. -/
theorem onRegionStore_find_ends (env : RegionEnv) (regionID key : Bytes)
    (wellKeyed : WellKeyed sm) :
    Call.Ends (onRegionStore env regionID (find key)) sm fun outcome after =>
      Effect sm after [] ∧ outcome ≠ .panicked ∧
        (Cached sm regionID → outcome.Succeeded) ∧
        ∀ value, outcome = .ok value → value = sm.merkleDB (makeRegionalKey regionID key) := by
  rcases onRegionStore_cases env regionID (find key) wellKeyed with
    ⟨uncached, error, failed⟩ | ⟨store, rfl, coordinated, run⟩
  · refine ends_of_eq failed ⟨Effect.refl wellKeyed, nofun, ?_, nofun⟩
    exact fun cached => absurd cached uncached
  · rw [find_apply] at run
    refine ends_of_eq run ⟨?_, nofun, fun _ => trivial, fun value equal => ?_⟩
    · exact effect_afterStore wellKeyed rfl coordinated rfl
    · exact (Outcome.ok.inj equal).symm

/-- What a write of one value can leave: nothing and an error, or the value, with or without an
error. -/
def WritesOne (sm : StateManager) (regionID key value : Bytes) (outcome : Outcome Unit)
    (after : StateManager) : Prop :=
  outcome ≠ .panicked ∧
    ((Effect sm after [] ∧ ¬ outcome.Succeeded) ∨
      (Effect sm after [(key, some value)] ∧ Cached after regionID))

theorem WritesOne.effect {after : StateManager} {key value : Bytes} {outcome : Outcome Unit}
    (h : WritesOne sm regionID key value outcome after) :
    Effect sm after [] ∨ Effect sm after [(key, some value)] :=
  h.2.imp And.left And.left

/-- **A write** of one value. -/
theorem onRegionStore_insert_ends (env : RegionEnv) (regionID key value : Bytes)
    (wellKeyed : WellKeyed sm) :
    Call.Ends (onRegionStore env regionID (MerkleStore.insert env.store key value)) sm
      (WritesOne sm regionID (makeRegionalKey regionID key) value) := by
  rcases onRegionStore_cases env regionID (MerkleStore.insert env.store key value) wellKeyed with
    ⟨-, error, failed⟩ | ⟨store, rfl, coordinated, run⟩
  · exact ends_of_eq failed ⟨nofun, Or.inl ⟨Effect.refl wellKeyed, id⟩⟩
  · refine ends_of_eq run ?_
    rcases insert_cases env.store key value { store, db := sm.merkleDB } with
      ⟨uncoordinated, -⟩ | ⟨error, failed⟩ | ⟨noPanic, same, db⟩
    · rw [coordinated] at uncoordinated
      cases uncoordinated
    · rw [failed]
      refine ⟨nofun, Or.inl ⟨?_, id⟩⟩
      exact effect_afterStore wellKeyed rfl coordinated rfl
    · refine ⟨noPanic, Or.inr ⟨?_, cached_afterStore _ _ _⟩⟩
      exact effect_afterStore wellKeyed same.1 (same.2.trans coordinated) db

/-! ## How the functions end -/

section Codec

variable {Region : Type} (codec : StateCodec Region) {sm : StateManager}

variable (env : RegionEnv)

/-- **`GetObject`** writes nothing, and returns no object only when there is none. -/
theorem getObject_ends (id regionID : Bytes) (wellKeyed : WellKeyed sm) :
    Call.Ends (getObject codec env id regionID) sm fun outcome after =>
      Effect sm after [] ∧ outcome ≠ .panicked ∧
        (outcome = .ok none → sm.merkleDB (objectKey regionID id) = none) ∧
        ∀ obj, outcome = .ok (some obj) → ∃ value record,
          sm.merkleDB (objectKey regionID id) = some value ∧
            codec.unmarshalObject value = .ok record ∧ obj = record.toObject regionID := by
  refine ends_lift_bind (fun _ _ => ?_) fun error _ =>
    ⟨Effect.refl wellKeyed, nofun, nofun, nofun⟩
  refine ends_bind (onRegionStore_find_ends env regionID _ wellKeyed) ?_
    (fun error after post => ⟨post.1, nofun, nofun, nofun⟩)
    (fun after post => absurd rfl post.2.1)
  rintro value after ⟨effect, -, -, found⟩
  have stored := found value rfl
  cases value with
  | none => exact ⟨effect, nofun, fun _ => stored.symm, nofun⟩
  | some value =>
    refine ends_lift_bind (fun record decoded => ?_) fun error _ =>
      ⟨effect, nofun, nofun, nofun⟩
    refine ⟨effect, nofun, nofun, fun obj equal => ?_⟩
    exact ⟨value, record, stored.symm, decoded, (Option.some.inj (Outcome.ok.inj equal)).symm⟩

/-- `ObjectExists` only looks. -/
theorem objectExists_ends (id regionID : Bytes) (wellKeyed : WellKeyed sm) :
    Call.Ends (objectExists env id regionID) sm fun outcome after =>
      Effect sm after [] ∧ outcome ≠ .panicked ∧
        ∀ found, outcome = .ok found →
          found = (sm.merkleDB (objectKey regionID id)).isSome := by
  refine ends_lift_bind (fun _ _ => ?_) fun error _ =>
    ⟨Effect.refl wellKeyed, nofun, nofun⟩
  refine ends_bind (onRegionStore_find_ends env regionID _ wellKeyed) ?_
    (fun error after post => ⟨post.1, nofun, nofun⟩)
    (fun after post => absurd rfl post.2.1)
  rintro value after ⟨effect, -, -, found⟩
  refine ⟨effect, nofun, fun answer equal => ?_⟩
  rw [← Outcome.ok.inj equal, found value rfl]
  rfl

/-- So does `GetRegion`, which returns a map only when something is stored. -/
theorem getRegion_ends (regionID : Bytes) (wellKeyed : WellKeyed sm) :
    Call.Ends (getRegion codec env regionID) sm fun outcome after =>
      Effect sm after [] ∧ outcome ≠ .panicked ∧ ∀ region, outcome = .ok (some region) →
        sm.merkleDB (makeRegionalKey regionID (regionKey regionID)) ≠ none := by
  refine ends_lift_bind (fun _ _ => ?_) fun error _ => ⟨Effect.refl wellKeyed, nofun, nofun⟩
  refine ends_bind (onRegionStore_find_ends env regionID _ wellKeyed) ?_
    (fun error after post => ⟨post.1, nofun, nofun⟩)
    (fun after post => absurd rfl post.2.1)
  rintro value after ⟨effect, -, -, found⟩
  have stored := found value rfl
  cases value with
  | none => exact ⟨effect, nofun, nofun⟩
  | some value =>
    show Call.Ends (Call.lift (codec.unmarshalRegion value)) after _
    rw [← stored]
    cases codec.unmarshalRegion value with
    | ok => exact ⟨effect, nofun, fun _ _ => nofun⟩
    | error => exact ⟨effect, nofun, nofun⟩

/-- `RegionExists` says so. -/
theorem regionExists_ends (regionID : Bytes) (wellKeyed : WellKeyed sm) :
    Call.Ends (regionExists codec env regionID) sm fun outcome after =>
      Effect sm after [] ∧ outcome ≠ .panicked ∧ (outcome = .ok true →
        sm.merkleDB (makeRegionalKey regionID (regionKey regionID)) ≠ none) := by
  refine ends_bind (getRegion_ends codec env regionID wellKeyed) ?_
    (fun error after post => ⟨post.1, nofun, nofun⟩) (fun after post => absurd rfl post.2.1)
  rintro region after ⟨effect, -, stored⟩
  refine ⟨effect, nofun, fun present => ?_⟩
  obtain ⟨region, rfl⟩ := Option.isSome_iff_exists.mp (Outcome.ok.inj present)
  exact stored region rfl

/-- **`SetObject`** writes the record under the key of the object. -/
theorem setObject_ends (id : Bytes) (obj : ObjectState)
    (wellKeyed : WellKeyed sm) :
    Call.Ends (setObject codec env id obj) sm
      (WritesOne sm obj.regionID (objectKey obj.regionID id)
        (codec.marshalObject obj.record)) := by
  refine ends_lift_bind (fun _ _ => ?_) fun error _ =>
    ⟨nofun, Or.inl ⟨Effect.refl wellKeyed, not_false⟩⟩
  exact onRegionStore_insert_ends env obj.regionID _ _ wellKeyed

/-- **`SetEvent`** writes the event, if it can be encoded. -/
theorem setEvent_ends (id : Bytes) (event : Event) (regionID : Bytes)
    (wellKeyed : WellKeyed sm) :
    Call.Ends (setEvent codec env id event regionID) sm fun outcome after =>
      outcome ≠ .panicked ∧
        (Effect sm after [] ∨ ∃ value, Effect sm after [(eventKey regionID id, some value)]) := by
  refine ends_lift_bind (fun _ _ => ?_) fun error _ =>
    ⟨nofun, Or.inl (Effect.refl wellKeyed)⟩
  cases encoded : codec.marshalEvent event with
  | ok value =>
    have same : (do
        let value ← Call.wrapping (ascii "failed to marshal event")
          (Call.lift (.ok value))
        MerkleStore.insert env.store (makeRegionKey regionID (ascii "event") id) value) =
        MerkleStore.insert env.store (makeRegionKey regionID (ascii "event") id) value := rfl
    rw [same]
    refine (onRegionStore_insert_ends env regionID _ _ wellKeyed).mono ?_
    intro outcome after wrote
    exact ⟨wrote.1, wrote.effect.imp_right fun effect => ⟨value, effect⟩⟩
  | error error =>
    rcases onRegionStore_cases env regionID (do
        let value ← Call.wrapping (ascii "failed to marshal event")
          (Call.lift (.error error))
        MerkleStore.insert env.store (makeRegionKey regionID (ascii "event") id) value)
      wellKeyed with ⟨-, error, failed⟩ | ⟨store, rfl, coordinated, run⟩
    · exact ends_of_eq failed ⟨nofun, Or.inl (Effect.refl wellKeyed)⟩
    · refine ends_of_eq run ⟨nofun, Or.inl ?_⟩
      exact effect_afterStore wellKeyed rfl coordinated rfl

end Codec

/-! ## Exactly when they succeed

The postconditions above hold however a call ends.  Below are the equations: what a call
computes once it is known which of the things it relies on go well. -/

/-- The manager after a region's store was only read. -/
def afterRead (sm : StateManager) (regionID : Bytes) : StateManager :=
  sm.afterStore regionID { store := sm.storeOf regionID, db := sm.merkleDB }

/-- The manager after a value was put in a region's store. -/
def afterInsert (sm : StateManager) (regionID key value : Bytes)
    (root : Except GoError Bytes) : StateManager :=
  sm.afterStore regionID {
    store := (sm.storeOf regionID).updated root
    db := sm.merkleDB.insert key value }

/-- A read leaves no write, -/
theorem effect_afterRead (wellKeyed : WellKeyed sm) (regionID : Bytes) :
    Effect sm (sm.afterRead regionID) [] :=
  effect_afterStore wellKeyed (wellKeyed.storeOf regionID).1 (wellKeyed.storeOf regionID).2 rfl

theorem WellKeyed.afterRead (wellKeyed : WellKeyed sm) (regionID : Bytes) :
    WellKeyed (sm.afterRead regionID) :=
  (effect_afterRead wellKeyed regionID).wellKeyed

/-- and an insert one. -/
theorem effect_afterInsert (wellKeyed : WellKeyed sm) (regionID key value : Bytes)
    (root : Except GoError Bytes) :
    Effect sm (sm.afterInsert regionID key value root) [(key, some value)] :=
  effect_afterStore wellKeyed (wellKeyed.storeOf regionID).1 (wellKeyed.storeOf regionID).2 rfl

theorem available_afterRead {env : RegionEnv} {regionID : Bytes} :
    Available env (sm.afterRead regionID) regionID :=
  Or.inl (cached_afterStore _ _ _)

theorem cached_afterInsert (sm : StateManager) (regionID key value : Bytes)
    (root : Except GoError Bytes) : Cached (sm.afterInsert regionID key value root) regionID :=
  cached_afterStore _ _ _

@[simp] theorem storeOf_afterRead (sm : StateManager) (regionID other : Bytes) :
    (sm.afterRead regionID).storeOf other = sm.storeOf other := by
  rw [afterRead, storeOf_afterStore]
  split
  · next equal => rw [equal]
  · rfl

@[simp] theorem storeOf_afterInsert_self (sm : StateManager) (regionID key value : Bytes)
    (root : Except GoError Bytes) :
    (sm.afterInsert regionID key value root).storeOf regionID =
      (sm.storeOf regionID).updated root := by
  rw [afterInsert, storeOf_afterStore, if_pos rfl]

@[simp] theorem merkleDB_afterRead (sm : StateManager) (regionID : Bytes) :
    (sm.afterRead regionID).merkleDB = sm.merkleDB := rfl

section

variable (wellKeyed : WellKeyed sm) (available : Available env sm regionID)

include wellKeyed available

/-- A read returns the value under the key. -/
theorem onRegionStore_find (key : Bytes) :
    onRegionStore env regionID (find key) sm =
      (.ok (sm.merkleDB (makeRegionalKey regionID key)), sm.afterRead regionID) := by
  rw [onRegionStore_of_available available, find_apply]
  simp only [(wellKeyed.storeOf regionID).1]
  rfl

/-- A write puts the value there, and reports on the root, -/
theorem onRegionStore_insert_of_writes (writes : env.store.Writes) (key value : Bytes) :
    onRegionStore env regionID (MerkleStore.insert env.store key value) sm =
      (MerkleStore.reported env.store.root,
        sm.afterInsert regionID (makeRegionalKey regionID key) value env.store.root) := by
  obtain ⟨region, coordinated⟩ := wellKeyed.storeOf regionID
  rw [onRegionStore_of_available available,
    insert_of_writes writes key value coordinated]
  simp only [region]
  rfl

/-- or fails without a change; -/
theorem onRegionStore_insert_of_not_writes (fails : ¬ env.store.Writes) (key value : Bytes) :
    ∃ error, onRegionStore env regionID (MerkleStore.insert env.store key value) sm =
      (.err error, sm.afterRead regionID) := by
  obtain ⟨-, coordinated⟩ := wellKeyed.storeOf regionID
  let opened : Opened := { store := sm.storeOf regionID, db := sm.merkleDB }
  have inserted : ∃ error, MerkleStore.insert env.store key value opened = (.err error, opened) :=
    MerkleStore.insert_of_not_writes fails key value coordinated
  obtain ⟨error, failed⟩ := inserted
  rw [onRegionStore_of_available available, failed]
  exact ⟨error, rfl⟩

/-- it succeeds when the root can be had as well, -/
theorem onRegionStore_insert_of_inserts (inserts : env.store.Inserts) (key value : Bytes) :
    onRegionStore env regionID (MerkleStore.insert env.store key value) sm =
      (.ok (), sm.afterInsert regionID (makeRegionalKey regionID key) value env.store.root) := by
  rw [onRegionStore_insert_of_writes wellKeyed available inserts.writes,
    reported_of_isOk inserts.root]

/-- and only then. -/
theorem inserts_of_onRegionStore {key value : Bytes} {after : StateManager}
    (put : onRegionStore env regionID (MerkleStore.insert env.store key value) sm =
      (.ok (), after)) : env.store.Inserts := by
  by_cases writes : env.store.Writes
  · refine ⟨writes, ?_⟩
    by_contra noRoot
    obtain ⟨error, failed⟩ := reported_of_not_isOk noRoot
    rw [onRegionStore_insert_of_writes wellKeyed available writes, failed] at put
    cases put
  · obtain ⟨error, failed⟩ :=
      onRegionStore_insert_of_not_writes wellKeyed available writes key value
    cases failed.symm.trans put

end

section Codec

variable {Region : Type} (codec : StateCodec Region)

/-- The record of an object can be read. -/
structure Readable (env : RegionEnv) (regionID id : Bytes) (record : ObjectRecord)
    (sm : StateManager) : Prop where
  named : regionID ≠ []
  available : Available env sm regionID
  stored : ∃ value, sm.merkleDB (objectKey regionID id) = some value ∧
    codec.unmarshalObject value = .ok record

variable {codec} {env : RegionEnv} {regionID id : Bytes} {sm : StateManager} {obj : ObjectState}
  {event : Event}

theorem Readable.afterRead {record : ObjectRecord}
    (readable : Readable codec env regionID id record sm) :
    Readable codec env regionID id record (sm.afterRead regionID) :=
  ⟨readable.named, available_afterRead, readable.stored⟩

/-- One record is stored. -/
theorem Readable.unique {record record' : ObjectRecord}
    (first : Readable codec env regionID id record sm)
    (second : Readable codec env regionID id record' sm) : record = record' := by
  obtain ⟨value, stored, decoded⟩ := first.stored
  obtain ⟨value', stored', decoded'⟩ := second.stored
  cases stored.symm.trans stored'
  exact Except.ok.inj (decoded.symm.trans decoded')

/-- A record that can be read is returned. -/
theorem getObject_of_readable {record : ObjectRecord} (wellKeyed : WellKeyed sm)
    (readable : Readable codec env regionID id record sm) :
    getObject codec env id regionID sm =
      (.ok (some (record.toObject regionID)), sm.afterRead regionID) := by
  obtain ⟨value, stored, decoded⟩ := readable.stored
  have found := onRegionStore_find wellKeyed readable.available
    (makeRegionKey regionID (ascii "object") id)
  rw [show sm.merkleDB (makeRegionalKey regionID _) = some value from stored] at found
  unfold getObject
  rw [refuse_bind_of_not readable.named, bind_of_ok found]
  dsimp only
  rw [lift_bind_of_ok decoded]
  rfl

variable (codec) in
/-- **When `GetObject` returns an object**: the store of its region can be had and holds a record of
it. -/
theorem getObject_eq_some_iff (env : RegionEnv) (id regionID : Bytes) (wellKeyed : WellKeyed sm)
    (obj : ObjectState) :
    (getObject codec env id regionID sm).1 = .ok (some obj) ↔
      ∃ record, Readable codec env regionID id record sm ∧ obj = record.toObject regionID := by
  constructor
  · intro returned
    obtain ⟨-, -, -, decoded⟩ := getObject_ends codec env id regionID wellKeyed
    obtain ⟨value, record, stored, unmarshalled, rfl⟩ := decoded obj returned
    refine ⟨record, ⟨?_, ?_, value, stored, unmarshalled⟩, rfl⟩
    · rintro rfl
      cases returned
    · by_contra unavailable
      obtain ⟨error, failed⟩ := onRegionStore_of_unavailable unavailable
        (find (makeRegionKey regionID (ascii "object") id))
      unfold getObject at returned
      by_cases named : regionID = []
      · rw [refuse_bind_of named] at returned
        cases returned
      · rw [refuse_bind_of_not named, bind_of_err failed] at returned
        cases returned
  · rintro ⟨record, readable, rfl⟩
    rw [getObject_of_readable wellKeyed readable]

/-- `SetObject` inserts the record of the object in the store of its region, -/
theorem setObject_of_named (id : Bytes) (named : obj.regionID ≠ []) :
    setObject codec env id obj sm = onRegionStore env obj.regionID
      (MerkleStore.insert env.store (makeRegionKey obj.regionID (ascii "object") id)
        (codec.marshalObject obj.record)) sm :=
  refuse_bind_of_not named

/-- and `SetEvent` the encoded event; -/
theorem setEvent_of_encoded (id : Bytes) (named : regionID ≠ []) {value : Bytes}
    (encoded : codec.marshalEvent event = .ok value) :
    setEvent codec env id event regionID sm =
      onRegionStore env regionID
        (MerkleStore.insert env.store (makeRegionKey regionID (ascii "event") id) value) sm := by
  unfold setEvent
  rw [refuse_bind_of_not named, encoded]
  rfl

/-- an event that cannot be encoded is not stored. -/
theorem setEvent_of_not_encoded (id : Bytes) (named : regionID ≠ [])
    (available : Available env sm regionID) {error : GoError}
    (encoded : codec.marshalEvent event = .error error) :
    setEvent codec env id event regionID sm =
      (.err (error.wrap (ascii "failed to marshal event")), sm.afterRead regionID) := by
  unfold setEvent
  rw [refuse_bind_of_not named, encoded, onRegionStore_of_available available]
  rfl

/-- So a call that succeeds has encoded and inserted its event. -/
theorem inserts_of_setEvent (wellKeyed : WellKeyed sm) (named : regionID ≠ [])
    (available : Available env sm regionID) {after : StateManager}
    (put : setEvent codec env id event regionID sm = (.ok (), after)) :
    (∃ value, codec.marshalEvent event = .ok value) ∧ env.store.Inserts := by
  cases encoded : codec.marshalEvent event with
  | error => cases (setEvent_of_not_encoded id named available encoded).symm.trans put
  | ok value =>
    rw [setEvent_of_encoded id named encoded] at put
    exact ⟨⟨value, rfl⟩, inserts_of_onRegionStore wellKeyed available put⟩

variable (codec) in
/-- The region exists: its store can be had and holds a map of it. -/
structure Exists (env : RegionEnv) (regionID : Bytes) (sm : StateManager) : Prop where
  named : regionID ≠ []
  available : Available env sm regionID
  stored : ∃ value region,
    sm.merkleDB (makeRegionalKey regionID (regionKey regionID)) = some value ∧
      codec.unmarshalRegion value = .ok (some region)

/-- A region that exists is returned. -/
theorem getRegion_of_exists (wellKeyed : WellKeyed sm) (found : Exists codec env regionID sm) :
    ∃ region, getRegion codec env regionID sm = (.ok (some region), sm.afterRead regionID) := by
  obtain ⟨value, region, stored, decoded⟩ := found.stored
  have read := onRegionStore_find wellKeyed found.available (regionKey regionID)
  rw [stored] at read
  refine ⟨region, ?_⟩
  unfold getRegion
  rw [refuse_bind_of_not found.named, bind_of_ok read]
  dsimp only
  rw [decoded]
  rfl

/-- Whether an object exists is what the database says, -/
theorem objectExists_of_available (id : Bytes) (wellKeyed : WellKeyed sm) (named : regionID ≠ [])
    (available : Available env sm regionID) :
    objectExists env id regionID sm =
      (.ok (sm.merkleDB (objectKey regionID id)).isSome, sm.afterRead regionID) := by
  have read := onRegionStore_find wellKeyed available (makeRegionKey regionID (ascii "object") id)
  unfold objectExists
  rw [refuse_bind_of_not named, bind_of_ok read]
  rfl

variable (codec) in
/-- and without a value there is none. -/
theorem getObject_of_absent (wellKeyed : WellKeyed sm) (named : regionID ≠ [])
    (available : Available env sm regionID) (absent : sm.merkleDB (objectKey regionID id) = none) :
    getObject codec env id regionID sm = (.ok none, sm.afterRead regionID) := by
  have read := onRegionStore_find wellKeyed available (makeRegionKey regionID (ascii "object") id)
  rw [show sm.merkleDB (makeRegionalKey regionID _) = none from absent] at read
  unfold getObject
  rw [refuse_bind_of_not named, bind_of_ok read]
  rfl

end Codec

end StateManager

end Aristo
