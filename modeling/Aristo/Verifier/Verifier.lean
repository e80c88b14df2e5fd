import Aristo.Actions.Runs
import Aristo.Coordination.Channel
import Aristo.Storage.State

/-!
# The state verifier

`StateVerifier` of `verifier/verifier.go` checks actions against the state before they are executed,
and the state as a whole, through the functions of `storage/storage.go`.  The state it is given is
the `StateManager` in `vm.New` and the database wrapper under it after `Initialize`; `Source` is the
choice.

The actions keep their records in the merkle database of the manager, under keys that `GetValue` of
neither source looks at, so the verifier sees what was there before the run (`sees_iff`).
-/

namespace Aristo

open GoBase Call Storage Actions StateManager Records

namespace Verifier

/-! ## The verifier -/

def errInputObjectMissing : GoError :=
  .new ⟨"verifier", "ErrInputObjectMissing"⟩ "input object not found"

/-- A `chain.Action`; of those that the verifier does not know only the type counts. -/
inductive Action where
  | createObject (action : CreateObjectAction)
  | sendEvent (action : SendEventAction)
  | setInputObject (action : SetInputObjectAction)
  | other (type : Bytes)

def verifyObjectState (obj : List (List Char × Bytes)) : Except GoError Unit := do
  refuse ((Json.entry obj "code").any (·.length > maxCodeSize)) errCodeTooLarge
  refuse ((Json.entry obj "storage").any (·.length > maxStorageSize)) errStorageTooLarge

/-- `VerifyAttestationPair`: a channel between the enclaves takes the data of the first attestation.
-/
def verifyAttestationPair (random : Except Bytes Bytes)
    (attestations : TEEAttestation × TEEAttestation) : Except GoError Unit := do
  let channel := Coordination.SecureChannel.new attestations.1.enclaveID attestations.2.enclaveID
  let channel ← channel.establishSecure random
  let _ ← channel.send attestations.1.data

section State

variable {σ : Type} (state : Bytes → Call σ Bytes) (random : Except Bytes Bytes)

def verifySystemState : Call σ Unit := do
  let inputID ← getInputObject state
  Call.lift (refuse (inputID = []) errInputObjectMissing)
  let inputObject ← getObject state inputID []
  Call.lift (refuse inputObject.isNone errInputObjectMissing)

def verifyCreateObject (action : CreateObjectAction) : Call σ Unit := do
  let existing ← getObject state action.id action.regionID
  Call.lift (refuse existing.isSome errObjectExists)
  Call.lift (verifyObjectState
    [("code".toList, action.code), ("storage".toList, action.storage)])

/-- `verifyEvent`; `verifyFunctionExists` accepts everything. -/
def verifyEvent (action : SendEventAction) : Call σ Unit := do
  let targetObj ← getObject state action.idTo action.regionID
  Call.lift (refuse targetObj.isNone errObjectNotFound)
  let region ← getRegion state action.regionID
  Call.lift (refuse region.isNone errRegionNotFound)
  Call.lift (verifyAttestationPair random action.attestations)
  Call.lift (refuse (action.parameters.length > maxStorageSize) errStorageTooLarge)

def verifySetInputObject (action : SetInputObjectAction) : Call σ Unit := do
  let obj ← getObject state action.id action.regionID
  Call.lift (refuse obj.isNone errObjectNotFound)

def verifyStateTransition : Action → Call σ Unit
  | .createObject action => verifyCreateObject state action
  | .sendEvent action => verifyEvent state random action
  | .setInputObject action => verifySetInputObject state action
  | .other type => Call.fail (.plain (ascii "unknown action type: " ++ type))

end State

/-! ## What the verifier sees -/

/-- The map has the record of an object, which is a map that is not nil. -/
def Visible (contents : Bytes → Option Bytes) (regionID id : Bytes) : Prop :=
  ∃ map, recordAt unmarshalBytesMap (contents (makeObjectKey regionID id)) =
    .ok (some map)

/-- The map names an input object and has a record for it that is not a nil map. -/
def InputVisible (contents : Bytes → Option Bytes) : Prop :=
  ∃ inputID, contents inputObjectKey = some inputID ∧ inputID ≠ [] ∧
    recordAt unmarshalBytesMap (contents (makeObjectKey [] inputID)) ≠ .ok none

section Reads

variable {σ : Type} {state : Bytes → Call σ Bytes} {view : σ → Bytes → Option Bytes}

variable {error : GoError}

/-- Another error does not count, -/
theorem not_failsWith {α : Type} {expected : GoError}
    (other : ¬ ∀ sentinel ∈ expected.wraps, error.is sentinel) :
    ¬ FailsWith (.err error : Outcome α) expected := by
  rintro ⟨found, equal, wrapped⟩
  cases equal
  exact other wrapped

/-- nor does a result, -/
theorem not_failsWith_ok {α : Type} (value : α) (expected : GoError) :
    ¬ FailsWith (.ok value) expected := by
  rintro ⟨error, equal, -⟩
  cases equal

/-- nor a record that is not read. -/
theorem not_failsWith_errJSON {value : Option Bytes}
    (broken : recordAt unmarshalBytesMap value = .error error) {α : Type}
    {expected : GoError} (known : expected.wraps ≠ []) :
    ¬ FailsWith (.err error : Outcome α) expected := by
  cases recordAt_error (fun _ _ => unmarshalBytesMap_error) broken
  obtain ⟨sentinel, mem⟩ := List.exists_mem_of_ne_nil _ known
  have unknown : ¬ errJSON.is sentinel = true := by
    simp [GoError.is, errJSON, GoError.plain]
  exact not_failsWith fun wrapped => unknown (wrapped sentinel mem)

variable (reads : Reads state view)

include reads

/-- A creation is refused exactly when the object is visible, -/
theorem verifyCreateObject_failsWith_iff (action : CreateObjectAction)
    (s : σ) :
    FailsWith (verifyCreateObject state action s).1 errObjectExists ↔
      Visible (view s) action.regionID action.id := by
  suffices ends : Call.Ends (verifyCreateObject state action) s fun outcome _ =>
      FailsWith outcome errObjectExists ↔ Visible (view s) action.regionID action.id from ends
  refine reads.ends_getRecord_bind _ ?_ ?_
  · intro existing after found _
    cases existing with
    | some map => exact iff_of_true ⟨_, rfl, by decide⟩ ⟨map, found⟩
    | none =>
      refine iff_of_false ?_ ?_
      · suffices ends : Call.Ends (Call.lift (verifyObjectState
            [("code".toList, action.code), ("storage".toList, action.storage)])) after
            fun outcome _ => ¬ FailsWith outcome errObjectExists from ends
        refine ends_lift (fun _ _ => not_failsWith_ok _ _) fun error refused => ?_
        rw [verifyObjectState, refuse] at refused
        split at refused
        · cases refused
          exact not_failsWith (by decide)
        · cases eq_of_refuse_eq_error refused
          exact not_failsWith (by decide)
      · rintro ⟨map, visible⟩
        cases found.symm.trans visible
  · intro error after broken
    refine iff_of_false (not_failsWith_errJSON broken (by decide)) ?_
    rintro ⟨map, visible⟩
    cases broken.symm.trans visible

/-- an event to a visible object is not refused because of the object, -/
theorem verifyEvent_of_visible (random : Except Bytes Bytes)
    (action : SendEventAction) {s : σ} (visible : Visible (view s) action.regionID action.idTo) :
    ¬ FailsWith (verifyEvent state random action s).1 errObjectNotFound := by
  obtain ⟨map, visible⟩ := visible
  suffices ends : Call.Ends (verifyEvent state random action) s fun outcome _ =>
      ¬ FailsWith outcome errObjectNotFound from ends
  refine reads.ends_getRecord_bind _ ?_ ?_
  · intro existing after found _
    cases found.symm.trans visible
    refine reads.ends_getRecord_bind _ ?_ fun error _ broken => ?_
    · intro region after _ _
      refine ends_lift_bind (fun _ _ => ?_) fun error refused => ?_
      · refine ends_lift_bind (fun _ _ => ?_) fun error failed => ?_
        · refine ends_lift (fun _ _ => not_failsWith_ok _ _) fun error refused => ?_
          cases eq_of_refuse_eq_error refused
          exact not_failsWith (by decide)
        · obtain ⟨text, rfl⟩ : ∃ text, error = .plain text := by
            cases random with
            | ok => cases failed
            | error text =>
              cases failed
              exact ⟨text, rfl⟩
          exact not_failsWith (by simp [errObjectNotFound, GoError.new, GoError.is, GoError.plain])
      · cases eq_of_refuse_eq_error refused
        exact not_failsWith (by decide)
    · cases recordAt_error (fun _ _ => unmarshalMap_error) broken
      exact not_failsWith (by decide)
  · intro error after broken
    cases broken.symm.trans visible

/-- nor is setting it as input. -/
theorem verifySetInputObject_of_visible (action : SetInputObjectAction)
    {s : σ} (visible : Visible (view s) action.regionID action.id) :
    ¬ FailsWith (verifySetInputObject state action s).1 errObjectNotFound := by
  obtain ⟨map, visible⟩ := visible
  suffices ends : Call.Ends (verifySetInputObject state action) s fun outcome _ =>
      ¬ FailsWith outcome errObjectNotFound from ends
  refine reads.ends_getRecord_bind _ ?_ ?_
  · intro existing after found _
    cases found.symm.trans visible
    exact not_failsWith_ok () _
  · intro error after broken
    cases broken.symm.trans visible

/-- The input object is missed exactly when it is not visible. -/
theorem verifySystemState_failsWith_iff (s : σ) :
    FailsWith (verifySystemState state s).1 errInputObjectMissing ↔ ¬ InputVisible (view s) := by
  suffices ends : Call.Ends (verifySystemState state) s fun outcome _ =>
      FailsWith outcome errInputObjectMissing ↔ ¬ InputVisible (view s) from ends
  refine reads.ends_getInputObject_bind fun after same => ?_
  by_cases named : (view s inputObjectKey).getD [] = []
  · refine ends_of_eq (refuse_bind_of named)
      (iff_of_true ⟨_, rfl, by decide⟩ ?_)
    rintro ⟨inputID, found, nonempty, -⟩
    rw [found] at named
    exact nonempty named
  · obtain ⟨inputID, found⟩ : ∃ inputID, view s inputObjectKey = some inputID := by
      cases found : view s inputObjectKey with
      | none =>
        rw [found] at named
        exact absurd rfl named
      | some inputID => exact ⟨inputID, rfl⟩
    have visible_iff : InputVisible (view s) ↔
        recordAt unmarshalBytesMap (view s (makeObjectKey [] inputID)) ≠ .ok none := by
      constructor
      · rintro ⟨inputID', found', -, visible⟩
        cases found.symm.trans found'
        exact visible
      · intro visible
        rw [found] at named
        exact ⟨inputID, found, named, visible⟩
    rw [visible_iff]
    rw [found] at named ⊢
    refine ends_lift_bind (fun _ _ => ?_) fun error refused => ?_
    · refine reads.ends_getRecord_bind _ ?_ ?_
      · intro object after' decoded _
        rw [same] at decoded
        cases object with
        | none => exact iff_of_true ⟨_, rfl, by decide⟩ (not_not.mpr decoded)
        | some =>
          refine iff_of_false (not_failsWith_ok () _) (not_not.mpr ?_)
          intro missing
          cases decoded.symm.trans missing
      · intro error after' broken
        refine iff_of_false (not_failsWith_errJSON broken (by decide)) (not_not.mpr ?_)
        rw [same] at broken
        intro missing
        cases broken.symm.trans missing
    · cases (refuse_eq_ok.mpr named).symm.trans refused

end Reads

/-! ## The state that the verifier is given -/

/-- `v.state`: the manager, or the wrapper of the database that is its backing store. -/
inductive Source where
  | manager
  | wrapper

namespace Source

def getValue : Source → Bytes → Call StateManager Bytes
  | manager => StateManager.getValue
  | wrapper => fun key sm => (answer (sm.backingStore key), sm)

def contents : Source → StateManager → Bytes → Option Bytes
  | manager, sm, key =>
    match isRegionalKey key with
    | some regionID =>
      (sm.getRegionalStore regionID).db
        (makeRegionalKey (sm.getRegionalStore regionID).store.regionID key)
    | none => sm.backingStore key
  | wrapper, sm, key => sm.backingStore key

/-- A store that is made on the way is empty, as it was read before. -/
theorem contents_manager_insert (sm : StateManager) (regionID : Bytes) :
    contents manager { sm with
      regionalStores := sm.regionalStores.insert regionID (sm.getRegionalStore regionID) } =
        contents manager sm := by
  have same (other : Bytes) : getRegionalStore { sm with
      regionalStores := sm.regionalStores.insert regionID (sm.getRegionalStore regionID) } other =
        sm.getRegionalStore other := by
    rw [getRegionalStore_insert]
    split
    · rename_i equal
      rw [equal]
    · rfl
  funext key
  simp only [contents, same]

/-- Both sources are read without a change. -/
theorem reads (source : Source) : Reads source.getValue source.contents := by
  cases source with
  | wrapper => exact ⟨fun _ _ => rfl, fun _ _ => rfl⟩
  | manager =>
    refine ⟨fun key sm => ?_, fun key sm => ?_⟩
    · simp only [getValue, StateManager.getValue, contents]
      cases StateManager.isRegionalKey key with
      | none | some => rfl
    · simp only [getValue, StateManager.getValue]
      cases StateManager.isRegionalKey key with
      | none => rfl
      | some regionID => exact contents_manager_insert sm regionID

/-- What the verifier reads is kept outside of the merkle database. -/
theorem contents_congr (source : Source) {sm sm' : StateManager} (same : global sm = global sm') :
    source.contents sm = source.contents sm' := by
  obtain ⟨backing, regional⟩ := Prod.mk.inj same
  funext key
  cases source with
  | wrapper => exact congrFun backing key
  | manager => simp only [contents, getRegionalStore, backing, regional]

end Source

/-! ## The verifier and the executor -/

abbrev after (sm : StateManager) (calls : List ActionCall) : StateManager :=
  run (ActionCall.apply codec) sm calls

/-- The run has created the object. -/
def Created (sm : StateManager) (calls : List ActionCall) (regionID id : Bytes) : Prop :=
  ∃ earlier action env timestamp later,
    calls = earlier ++ .createObject action env timestamp :: later ∧
      action.regionID = regionID ∧ action.id = id ∧
      (action.execute codec env timestamp (after sm earlier)).1.Succeeded

/-- The run has set an input object. -/
def InputSet (sm : StateManager) (calls : List ActionCall) : Prop :=
  ∃ earlier action env timestamp later,
    calls = earlier ++ .setInputObject action env timestamp :: later ∧
      (SetInputObjectAction.execute codec action env timestamp
        (after sm earlier)).1.Succeeded

/-- The verifier knows about an object. -/
structure Knows (source : Source) (random : Except Bytes Bytes) (regionID id : Bytes)
    (sm : StateManager) : Prop where
  create : ∀ action : CreateObjectAction, action.regionID = regionID → action.id = id →
    FailsWith (verifyStateTransition source.getValue random (.createObject action) sm).1
      errObjectExists
  send : ∀ action : SendEventAction, action.regionID = regionID → action.idTo = id →
    ¬ FailsWith (verifyStateTransition source.getValue random (.sendEvent action) sm).1
      errObjectNotFound
  setInput : ∀ action : SetInputObjectAction, action.regionID = regionID → action.id = id →
    ¬ FailsWith (verifyStateTransition source.getValue random (.setInputObject action) sm).1
      errObjectNotFound

/-- **The verifier knows the objects that are visible.** -/
theorem knows_iff (source : Source) (random : Except Bytes Bytes) (regionID id : Bytes)
    (sm : StateManager) :
    Knows source random regionID id sm ↔ Visible (source.contents sm) regionID id := by
  constructor
  · intro knows
    exact (verifyCreateObject_failsWith_iff source.reads
      { id, code := [], storage := [], regionID } sm).mp (knows.create _ rfl rfl)
  · intro visible
    refine ⟨?_, ?_, ?_⟩
    · rintro action rfl rfl
      exact (verifyCreateObject_failsWith_iff source.reads action sm).mpr visible
    · rintro action rfl rfl
      exact verifyEvent_of_visible source.reads random action visible
    · rintro action rfl rfl
      exact verifySetInputObject_of_visible source.reads action visible

/-- The verifier sees what a run has done. -/
structure Sees (source : Source) (random : Except Bytes Bytes) (sm : StateManager)
    (calls : List ActionCall) : Prop where
  objects : ∀ regionID id, Created sm calls regionID id →
    Knows source random regionID id (after sm calls)
  input : InputSet sm calls →
    ¬ FailsWith (verifySystemState source.getValue (after sm calls)).1 errInputObjectMissing

/-- **The verifier sees what was there before the run.**  It agrees with the executor exactly
when the records of the objects that the run creates, and of an input object if the run
sets one, had been put where the verifier looks before the run. -/
theorem sees_iff (source : Source) (random : Except Bytes Bytes) (sm : StateManager)
    (calls : List ActionCall) :
    Sees source random sm calls ↔
      (∀ regionID id, Created sm calls regionID id → Visible (source.contents sm) regionID id) ∧
        (InputSet sm calls → InputVisible (source.contents sm)) := by
  have same : source.contents (after sm calls) = source.contents sm :=
    source.contents_congr (global_run codec sm calls)
  have objects (regionID id : Bytes) : Knows source random regionID id (after sm calls) ↔
      Visible (source.contents sm) regionID id := by
    rw [knows_iff, same]
  have input : ¬ FailsWith (verifySystemState source.getValue (after sm calls)).1
      errInputObjectMissing ↔ InputVisible (source.contents sm) := by
    rw [verifySystemState_failsWith_iff source.reads, same, not_not]
  rw [← input]
  simp only [← objects]
  exact ⟨fun sees => ⟨sees.objects, sees.input⟩, fun sees => ⟨sees.1, sees.2⟩⟩

/-- **Over a new manager the verifier never sees an object that was created**, and an input
object only where the backing store has one. -/
theorem sees_manager_iff (random : Except Bytes Bytes) (store : Mutable) (merkleDB : MerkleDB)
    (calls : List ActionCall) :
    Sees .manager random (new store merkleDB) calls ↔
      (∀ regionID id, ¬ Created (new store merkleDB) calls regionID id) ∧
        (InputSet (new store merkleDB) calls → InputVisible store) := by
  rw [sees_iff]
  have hidden (regionID id : Bytes)
      (created : Created (new store merkleDB) calls regionID id) :
      ¬ Visible (Source.manager.contents (new store merkleDB)) regionID id := by
    -- an object that was created is in a region, and the store of the region is empty
    have named : regionID ≠ [] := by
      obtain ⟨earlier, action, env, timestamp, later, -, rfl, -, succeeded⟩ := created
      intro unnamed
      have refused : action.checkFields = .error errRegionRequired := by
        rw [CreateObjectAction.checkFields, refuse, if_pos unnamed]
        rfl
      rw [CreateObjectAction.execute, lift_bind_of_error refused] at succeeded
      exact succeeded
    have starts : hasPrefix (makeObjectKey regionID id) (ascii "r/") = true := by
      rw [makeObjectKey, makeKey, if_neg named, List.append_assoc]
      exact hasPrefix_iff.mpr ⟨_, rfl⟩
    rintro ⟨map, visible⟩
    simp only [Source.contents, isRegionalKey, if_pos starts] at visible
    cases visible
  -- neither of the keys that are read for an input object starts with `r/`
  have input : InputVisible (Source.manager.contents (new store merkleDB)) ↔
      InputVisible store := Iff.rfl
  rw [input]
  exact and_congr_left fun _ => forall_congr' fun regionID => forall_congr' fun id =>
    ⟨fun visible created => hidden regionID id created (visible created),
      fun absent created => absurd created absent⟩

/-! ### Object `o` -/

def createAndSet : List ActionCall :=
  [.createObject createO .ok 0, .setInputObject { id := ascii "o", regionID := ascii "a" } .ok 0]

/-- Both calls succeed.  Then the verifier accepts a second creation of `o`, refuses an event
to it because it is missing, and misses the input object. -/
theorem not_sees_createAndSet :
    (createO.execute codec .ok 0 managerA).1.Succeeded ∧
      (SetInputObjectAction.execute codec { id := ascii "o", regionID := ascii "a" } .ok 0
        (after managerA [.createObject createO .ok 0])).1.Succeeded ∧
      ∀ source : Source,
        (verifyStateTransition source.getValue (.ok []) (.createObject createO)
          (after managerA createAndSet)).1 = .ok () ∧
        (verifyStateTransition source.getValue (.ok []) (.sendEvent sendO)
          (after managerA createAndSet)).1 = .err errObjectNotFound ∧
        (verifySystemState source.getValue (after managerA createAndSet)).1 =
          .err errInputObjectMissing ∧
        ¬ Sees source (.ok []) managerA createAndSet := by
  have created : (createO.execute codec .ok 0 managerA).1.Succeeded := by decide +kernel
  refine ⟨created, by decide +kernel, fun source => ?_⟩
  have accepted : (verifyStateTransition source.getValue (.ok []) (.createObject createO)
      (after managerA createAndSet)).1 = .ok () := by
    cases source <;> decide +kernel
  refine ⟨accepted, by cases source <;> decide +kernel, by cases source <;> decide +kernel, ?_⟩
  intro sees
  have known := sees.objects (ascii "a") (ascii "o")
    ⟨[], createO, .ok, 0, _, rfl, rfl, rfl, created⟩
  have refused := known.create createO rfl rfl
  rw [accepted] at refused
  exact not_failsWith_ok () _ refused

end Verifier

end Aristo
