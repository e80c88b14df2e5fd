import Aristo.Actions.ShuttleEvents

/-!
# The regional executor

`RegionalExecutor.ExecuteAction` of `vm/execution.go` is a second implementation of the two actions
on objects, over the same state manager and without their checks.  An event goes under the bare ID
of its object, and the object is not written back.  Creations agree when the action passes the
checks of its own `Execute`, or fails in both; events that are accepted agree only if they change
nothing.  One `RegionEnv` stands for every call of both.
-/

namespace Aristo

open GoBase Call Storage Actions StateManager Records

/-- The actions that the executor knows. -/
inductive ObjectAction where
  | create (action : CreateObjectAction)
  | send (action : SendEventAction)

inductive ObjectResult where
  | created (result : CreateObjectResult)
  | sent (result : SendEventResult)
deriving DecidableEq

def ObjectAction.getActionRegion : ObjectAction → Bytes
  | create action => action.regionID
  | send action => action.regionID

section Execute

variable {Region : Type} (codec : StateCodec Region)

def ObjectAction.execute (action : ObjectAction) (env : RegionEnv) (timestamp : Int64) :
    Call StateManager ObjectResult :=
  match action with
  | create action => do
    let result ← action.execute codec ⟨env, env, env⟩ timestamp
    return .created result
  | send action => do
    let result ← action.execute codec ⟨env, env, env⟩ timestamp
    return .sent result

namespace RegionalExecutor

def executeSendEvent (env : RegionEnv) (action : SendEventAction) :
    Call StateManager SendEventResult := do
  match ← getObject codec env action.idTo action.regionID with
  | none => Call.fail (.plain (ascii "target object not found in region"))
  | some _ => do
    setEvent codec env action.idTo action.event action.regionID
    return {
      success := true
      idTo := action.idTo
      eventID := []
      stateHash := action.attestations.1.data
      timestamp := action.event.timestamp
      regionID := action.regionID }

def object (action : CreateObjectAction) : ObjectState where
  code := action.code
  storage := action.storage
  regionID := action.regionID
  events := []
  lastUpdated := Time.zero
  status := ascii "active"

def executeCreateObject (env : RegionEnv) (action : CreateObjectAction) :
    Call StateManager CreateObjectResult := do
  let existing ← getObject codec env action.id action.regionID
  Call.lift (refuse existing.isSome (.plain (ascii "object already exists in region")))
  setObject codec env action.id (object action)
  return { id := action.id, regionID := action.regionID }

/-- The switch of `ExecuteAction` on the type of the action. -/
def dispatch (env : RegionEnv) : ObjectAction → Call StateManager ObjectResult
  | .send action => do
    let result ← executeSendEvent codec env action
    return .sent result
  | .create action => do
    let result ← executeCreateObject codec env action
    return .created result

def executeAction (env : RegionEnv) (action : ObjectAction) : Call StateManager ObjectResult := do
  let regionID := action.getActionRegion
  Call.lift (refuse (regionID = []) (.plain (ascii "no region specified for action")))
  match ← getRegion codec env regionID with
  | none => Call.fail (.plain (ascii "region " ++ regionID ++ ascii " not found"))
  | some _ => dispatch codec env action

end RegionalExecutor

open RegionalExecutor

/-! ## Agreement -/

/-- The same objects and events of a region. -/
def SameRecords (regionID : Bytes) (first second : StateManager) : Prop :=
  ∀ id, first.merkleDB (objectKey regionID id) = second.merkleDB (objectKey regionID id) ∧
    first.merkleDB (eventKey regionID id) = second.merkleDB (eventKey regionID id)

/-- Both calls fail, or both succeed and leave the same records of the region. -/
def EndAlike {α β : Type} (regionID : Bytes) (first : Outcome α × StateManager)
    (second : Outcome β × StateManager) : Prop :=
  (¬ first.1.Succeeded ∧ ¬ second.1.Succeeded) ∨
    (first.1.Succeeded ∧ second.1.Succeeded ∧ SameRecords regionID first.2 second.2)

variable {sm : StateManager}

/-- Packing the results up does not matter. -/
theorem endAlike_repack {α β γ δ : Type} {regionID : Bytes} {first : Call StateManager α}
    {second : Call StateManager β} {pack : α → γ} {pack' : β → δ} {sm' : StateManager} :
    EndAlike regionID (((do let result ← first; return pack result) : Call StateManager γ) sm)
        (((do let result ← second; return pack' result) : Call StateManager δ) sm') ↔
      EndAlike regionID (first sm) (second sm') := by
  have repack {α β : Type} (call : Call StateManager α) (pack : α → β) (sm : StateManager) :
      ((((do let result ← call; return pack result) : Call StateManager β) sm).1.Succeeded ↔
          (call sm).1.Succeeded) ∧
        (((do let result ← call; return pack result) : Call StateManager β) sm).2 =
          (call sm).2 := by
    rw [bind_apply]
    rcases call sm with ⟨_ | _ | _, after⟩ <;> exact ⟨Iff.rfl, rfl⟩
  obtain ⟨succeeded, state⟩ := repack first pack sm
  obtain ⟨succeeded', state'⟩ := repack second pack' sm'
  unfold EndAlike
  rw [succeeded, succeeded', state, state']

variable {env : RegionEnv}

/-! ### Creations -/

/-- The action passes the checks of its own `Execute` on its fields. -/
def CreateObjectAction.Passes (action : CreateObjectAction) : Prop :=
  action.checkFields = .ok () ∧ validateCode action.code = .ok ()

instance decidablePasses (action : CreateObjectAction) : Decidable action.Passes :=
  inferInstanceAs (Decidable (_ ∧ _))

variable {action : CreateObjectAction}

/-- The object is stored under the condition, and otherwise the call fails. -/
def CreatesWhen {α : Type} (action : CreateObjectAction) (sm : StateManager) (condition : Prop)
    (ended : Outcome α × StateManager) : Prop :=
  (ended.1.Succeeded → condition) ∧ (condition → ended.1.Succeeded ∧
    ended.2.merkleDB = sm.merkleDB.insert (objectKey action.regionID action.id)
      (codec.marshalObject action.record))

/-- The action creates its object if it passes its checks, under a free key. -/
theorem create_createsWhen (wellKeyed : WellKeyed sm) (found : Exists codec env action.regionID sm)
    (timestamp : Int64) :
    CreatesWhen codec action sm (sm.merkleDB (objectKey action.regionID action.id) = none ∧
        action.Passes ∧ env.store.Inserts)
      (action.execute codec ⟨env, env, env⟩ timestamp sm) := by
  obtain ⟨region, read⟩ := getRegion_of_exists wellKeyed found
  have looked := objectExists_of_available action.id (wellKeyed.afterRead _) found.named
    (available_afterRead : Available env _ action.regionID)
  constructor
  · intro created
    obtain ⟨result, equal⟩ := Outcome.succeeded_iff.mp created
    obtain ⟨_, after, checked, rest⟩ := bind_eq_ok.mp (Prod.ext equal rfl)
    obtain ⟨passed, rfl⟩ := lift_eq_ok.mp checked
    rw [bind_of_ok read, refuse_bind_of_not (by simp), bind_of_ok looked] at rest
    obtain ⟨_, _, free, rest⟩ := bind_eq_ok.mp rest
    obtain ⟨unheld, rfl⟩ := lift_eq_ok.mp free
    obtain ⟨_, _, validated, rest⟩ := bind_eq_ok.mp rest
    obtain ⟨valid, rfl⟩ := lift_eq_ok.mp validated
    obtain ⟨_, _, put, -⟩ := bind_eq_ok.mp rest
    refine ⟨by simpa using refuse_eq_ok.mp unheld, ⟨passed, valid⟩, ?_⟩
    exact inserts_of_onRegionStore ((wellKeyed.afterRead _).afterRead _) available_afterRead
      ((setObject_of_named _ found.named).symm.trans put)
  · rintro ⟨absent, passes, inserts⟩
    rw [merkleDB_afterRead, absent] at looked
    have put : setObject codec env action.id (action.object timestamp)
        ((sm.afterRead action.regionID).afterRead action.regionID) = (.ok (), _) :=
      (setObject_of_named action.id found.named).trans
        (onRegionStore_insert_of_inserts ((wellKeyed.afterRead _).afterRead _) available_afterRead
          inserts _ _)
    unfold CreateObjectAction.execute
    rw [lift_bind_of_ok passes.1, bind_of_ok read, refuse_bind_of_not (by simp), bind_of_ok looked,
      refuse_bind_of_not (by simp), lift_bind_of_ok passes.2, bind_of_ok put]
    exact ⟨trivial, rfl⟩

/-- The executor creates it under a free key, whatever it is. -/
theorem executor_createsWhen (wellKeyed : WellKeyed sm) (named : action.regionID ≠ [])
    (available : Available env sm action.regionID) :
    CreatesWhen codec action sm
      (sm.merkleDB (objectKey action.regionID action.id) = none ∧ env.store.Inserts)
      (executeCreateObject codec env action sm) := by
  constructor
  · intro created
    obtain ⟨result, equal⟩ := Outcome.succeeded_iff.mp created
    obtain ⟨existing, after, looked, afterGet⟩ := bind_eq_ok.mp (Prod.ext equal rfl)
    obtain ⟨_, _, passed, afterCheck⟩ := bind_eq_ok.mp afterGet
    obtain ⟨unheld, rfl⟩ := lift_eq_ok.mp passed
    have nothing : existing = none := by simpa using refuse_eq_ok.mp unheld
    subst nothing
    obtain ⟨-, -, absent, -⟩ := getObject_ends codec env action.id action.regionID wellKeyed
    have free : sm.merkleDB (objectKey action.regionID action.id) = none :=
      absent (congrArg Prod.fst looked)
    rw [getObject_of_absent codec wellKeyed named available free] at looked
    cases looked
    obtain ⟨_, _, put, -⟩ := bind_eq_ok.mp afterCheck
    exact ⟨free, inserts_of_onRegionStore (wellKeyed.afterRead _) available_afterRead
      ((setObject_of_named _ named).symm.trans put)⟩
  · rintro ⟨absent, inserts⟩
    have looked := getObject_of_absent codec wellKeyed named available absent
    have put : setObject codec env action.id (object action) (sm.afterRead action.regionID) =
        (.ok (), _) :=
      (setObject_of_named action.id named).trans
        (onRegionStore_insert_of_inserts (wellKeyed.afterRead _) available_afterRead inserts _ _)
    unfold executeCreateObject
    rw [bind_of_ok looked, refuse_bind_of_not (by simp), bind_of_ok put]
    exact ⟨trivial, rfl⟩

variable {codec} in
/-- **When the two ways to create an object agree.** -/
theorem createAgrees_iff (wellKeyed : WellKeyed sm) (found : Exists codec env action.regionID sm)
    (timestamp : Int64) :
    EndAlike action.regionID (action.execute codec ⟨env, env, env⟩ timestamp sm)
        (executeCreateObject codec env action (sm.afterRead action.regionID)) ↔
      (sm.merkleDB (objectKey action.regionID action.id) = none → env.store.Inserts →
        action.Passes) := by
  obtain ⟨needs, creates⟩ := create_createsWhen codec wellKeyed found timestamp
  obtain ⟨needs', creates'⟩ := executor_createsWhen codec (wellKeyed.afterRead _) found.named
    (available_afterRead : Available env _ action.regionID)
  rw [merkleDB_afterRead] at needs' creates'
  constructor
  · rintro (⟨-, failed⟩ | ⟨created, -⟩) absent inserts
    · exact absurd (creates' ⟨absent, inserts⟩).1 failed
    · exact (needs created).2.1
  · intro condition
    by_cases both : sm.merkleDB (objectKey action.regionID action.id) = none ∧ env.store.Inserts
    · obtain ⟨created, ownDB⟩ := creates ⟨both.1, condition both.1 both.2, both.2⟩
      obtain ⟨created', otherDB⟩ := creates' both
      refine Or.inr ⟨created, created', fun id => ?_⟩
      rw [ownDB, otherDB]
      exact ⟨rfl, rfl⟩
    · exact Or.inl ⟨fun created => both ⟨(needs created).1, (needs created).2.2⟩,
        fun created => both (needs' created)⟩

/-! ### Events -/

variable {codec} in
/-- The executor stores an event that is encoded, for an object that is read, -/
theorem executor_send_of_readable {action : SendEventAction} (wellKeyed : WellKeyed sm)
    {record : ObjectRecord} (readable : Readable codec env action.regionID action.idTo record sm)
    {value : Bytes} (encoded : codec.marshalEvent action.event = .ok value)
    (inserts : env.store.Inserts) :
    ∃ result after, executeSendEvent codec env action sm = (.ok result, after) ∧
      after.merkleDB = sm.merkleDB.insert (eventKey action.regionID action.idTo) value := by
  have put := (setEvent_of_encoded action.idTo readable.named encoded).trans
    (onRegionStore_insert_of_inserts (wellKeyed.afterRead _) available_afterRead inserts _ _)
  unfold executeSendEvent
  rw [bind_of_ok (getObject_of_readable wellKeyed readable)]
  dsimp only
  rw [bind_of_ok put]
  exact ⟨_, _, rfl, rfl⟩

variable {codec} in
/-- and fails otherwise. -/
theorem readable_of_executor_sent {action : SendEventAction} (wellKeyed : WellKeyed sm)
    (sent : (executeSendEvent codec env action sm).1.Succeeded) :
    (∃ record, Readable codec env action.regionID action.idTo record sm) ∧
      (∃ value, codec.marshalEvent action.event = .ok value) ∧ env.store.Inserts := by
  obtain ⟨result, equal⟩ := Outcome.succeeded_iff.mp sent
  obtain ⟨obj, after, looked, rest⟩ := bind_eq_ok.mp (Prod.ext equal rfl)
  cases obj with
  | none => cases rest
  | some obj =>
    obtain ⟨record, readable, -⟩ :=
      (getObject_eq_some_iff codec env action.idTo action.regionID wellKeyed obj).mp
        (congrArg Prod.fst looked)
    rw [getObject_of_readable wellKeyed readable] at looked
    cases looked
    obtain ⟨_, _, put, -⟩ := bind_eq_ok.mp rest
    have stored : (∃ value, codec.marshalEvent action.event = .ok value) ∧ env.store.Inserts :=
      inserts_of_setEvent (wellKeyed.afterRead _) readable.named available_afterRead put
    exact ⟨⟨record, readable⟩, stored⟩

/-- The store already holds what either way to send the event would write. -/
structure HoldsBoth (action : SendEventAction) (record : ObjectRecord) (value : Bytes)
    (sm : StateManager) : Prop where
  event : sm.merkleDB (eventKey action.regionID action.eventID) = some value
  bareEvent : sm.merkleDB (eventKey action.regionID action.idTo) = some value
  object : sm.merkleDB (objectKey action.regionID action.idTo) =
    some (codec.marshalObject record)

/-- Two writes and one leave the same records only where none of the three is new. -/
theorem sameRecords_iff {regionID id eventID value record : Bytes} (apart : eventID ≠ id)
    {db : MerkleDB} {first second : StateManager}
    (own : first.merkleDB =
      (db.insert (eventKey regionID eventID) value).insert (objectKey regionID id) record)
    (other : second.merkleDB = db.insert (eventKey regionID id) value) :
    SameRecords regionID first second ↔
      db (eventKey regionID eventID) = some value ∧ db (eventKey regionID id) = some value ∧
        db (objectKey regionID id) = some record := by
  have kinds : ∀ i e, objectKey regionID i ≠ eventKey regionID e :=
    objectKey_ne_eventKey_of_region regionID
  have events : ∀ e e', e ≠ e' → eventKey regionID e ≠ eventKey regionID e' :=
    fun e e' ne equal => ne (eventKey_inj equal)
  constructor
  · intro same
    have atID := same id
    have atEvent := (same eventID).2
    rw [own, other, KeyValue.insert_self, KeyValue.insert_of_ne _ _ (kinds id id).symm,
      KeyValue.insert_of_ne _ _ (events _ _ apart.symm), KeyValue.insert_self,
      KeyValue.insert_of_ne _ _ (kinds id id)] at atID
    rw [own, other, KeyValue.insert_of_ne _ _ (kinds id eventID).symm, KeyValue.insert_self,
      KeyValue.insert_of_ne _ _ (events _ _ apart)] at atEvent
    exact ⟨atEvent.symm, atID.2, atID.1.symm⟩
  · -- nothing that is written is new
    rintro ⟨event, bareEvent, object⟩
    have unchanged : db.insert (eventKey regionID eventID) value = db :=
      Function.update_eq_self_iff.mpr event.symm
    have unchanged' : db.insert (objectKey regionID id) record = db :=
      Function.update_eq_self_iff.mpr object.symm
    have unchanged'' : db.insert (eventKey regionID id) value = db :=
      Function.update_eq_self_iff.mpr bareEvent.symm
    intro i
    rw [own, other, unchanged, unchanged', unchanged'']
    exact ⟨rfl, rfl⟩

variable {codec} in
/-- **When the two ways to send an event agree**: the executor fails, or the action passes its
checks and nothing that either writes is new. -/
theorem sendAgrees_iff {action : SendEventAction} (wellKeyed : WellKeyed sm)
    (found : Exists codec env action.regionID sm) (timestamp : Int64) :
    EndAlike action.regionID (action.execute codec ⟨env, env, env⟩ timestamp sm)
        (executeSendEvent codec env action (sm.afterRead action.regionID)) ↔
      ∀ record value, Readable codec env action.regionID action.idTo record sm →
        codec.marshalEvent action.event = .ok value → env.store.Inserts →
          action.check (record.toObject action.regionID) = .ok () ∧
            HoldsBoth codec action record value sm := by
  have apart : action.eventID ≠ action.idTo := by
    intro equal
    have lengths := congrArg List.length equal
    simp [SendEventAction.eventID, ascii] at lengths
  have ownDB (record : ObjectRecord) (value : Bytes) : (afterObject codec action ⟨env, env, env⟩
      record (afterEvent action ⟨env, env, env⟩ value sm)).merkleDB = _ := rfl
  constructor
  · intro agree record value readable encoded inserts
    obtain ⟨_, after, done, otherDB⟩ :=
      executor_send_of_readable (wellKeyed.afterRead _) readable.afterRead encoded inserts
    rw [done] at agree
    rcases agree with ⟨-, failed⟩ | ⟨sent, -, same⟩
    · exact absurd trivial failed
    · obtain ⟨record', value', readable', passed, encoded', -, own⟩ := send_succeeded wellKeyed sent
      cases readable.unique readable'
      cases encoded.symm.trans encoded'
      rw [own] at same
      obtain ⟨event, bareEvent, object⟩ :=
        (sameRecords_iff apart (ownDB record value) otherDB).mp same
      exact ⟨passed, event, bareEvent, object⟩
  · intro condition
    by_cases sends : (∃ record, Readable codec env action.regionID action.idTo record sm) ∧
        (∃ value, codec.marshalEvent action.event = .ok value) ∧ env.store.Inserts
    · obtain ⟨⟨record, readable⟩, ⟨value, encoded⟩, inserts⟩ := sends
      obtain ⟨passed, event, bareEvent, object⟩ := condition record value readable encoded inserts
      obtain ⟨_, after, done, otherDB⟩ :=
        executor_send_of_readable (wellKeyed.afterRead _) readable.afterRead encoded inserts
      have completes : Completes ⟨env, env, env⟩ := ⟨inserts.root, inserts⟩
      have steps := @send_of_stores Region codec action ⟨env, env, env⟩ sm wellKeyed record value
        readable passed encoded inserts.writes timestamp
      rcases steps with ⟨-, own⟩ | ⟨incomplete, -⟩
      · rw [own, done]
        exact Or.inr ⟨trivial, trivial,
          (sameRecords_iff apart (ownDB record value) otherDB).mpr ⟨event, bareEvent, object⟩⟩
      · exact absurd completes incomplete
    · refine Or.inl ⟨fun sent => sends ?_, fun sent => sends ?_⟩
      · obtain ⟨record, value, readable, -, encoded, completes, -⟩ := send_succeeded wellKeyed sent
        exact ⟨⟨record, readable⟩, ⟨value, encoded⟩, completes.set⟩
      · obtain ⟨⟨record, readable⟩, encoded, inserts⟩ :=
          readable_of_executor_sent (wellKeyed.afterRead _) sent
        exact ⟨⟨record, readable.named, found.available, readable.stored⟩, encoded, inserts⟩

/-! ### Both actions -/

/-- What makes the two implementations agree on an action. -/
def AgreesWhen (env : RegionEnv) (sm : StateManager) : ObjectAction → Prop
  | .create action =>
    sm.merkleDB (objectKey action.regionID action.id) = none → env.store.Inserts →
      action.Passes
  | .send action =>
    ∀ record value, Readable codec env action.regionID action.idTo record sm →
      codec.marshalEvent action.event = .ok value → env.store.Inserts →
        action.check (record.toObject action.regionID) = .ok () ∧
          HoldsBoth codec action record value sm

/-- **When the executor and the action agree.** On an action that names an existing region,
`ExecuteAction` and the action's own `Execute` both fail, or both succeed and leave the same objects
and events, exactly under `AgreesWhen`. -/
theorem agrees_iff (action : ObjectAction) (env : RegionEnv) (timestamp : Int64)
    (sm : StateManager) (wellKeyed : WellKeyed sm)
    (found : Exists codec env action.getActionRegion sm) :
    EndAlike action.getActionRegion (action.execute codec env timestamp sm)
        (executeAction codec env action sm) ↔ AgreesWhen codec env sm action := by
  obtain ⟨region, read⟩ := getRegion_of_exists wellKeyed found
  unfold executeAction
  rw [refuse_bind_of_not found.named, bind_of_ok read]
  cases action with
  | create => exact endAlike_repack.trans (createAgrees_iff wellKeyed found timestamp)
  | send => exact endAlike_repack.trans (sendAgrees_iff wellKeyed found timestamp)

end Execute

/-! ### Region `a` -/

theorem exists_managerA : Exists codec .ok (ascii "a") managerA :=
  ⟨by decide, Or.inr rfl, ascii "\x7b\x7d", [], by decide, rfl⟩

/-- Both create the object `o`. -/
theorem agrees_createO :
    WellKeyed managerA ∧ Exists codec .ok (ascii "a") managerA ∧
      EndAlike (ascii "a") ((ObjectAction.create createO).execute codec .ok 0 managerA)
        (RegionalExecutor.executeAction codec .ok (.create createO) managerA) :=
  ⟨wellKeyed_new _ _, exists_managerA,
    (agrees_iff codec (.create createO) .ok 0 managerA (wellKeyed_new _ _)
      exists_managerA).mpr fun _ _ => by decide⟩

def createZero : CreateObjectAction := { createO with code := [0] }

/-- Only the executor creates an object whose code starts with zero; and both accept the event
to `o`, but store it under different keys. -/
theorem not_agree_create_send :
    (Exists codec .ok (ascii "a") managerA ∧
      ¬ ((ObjectAction.create createZero).execute codec .ok 0 managerA).1.Succeeded ∧
      (RegionalExecutor.executeAction codec .ok (.create createZero)
        managerA).1.Succeeded) ∧
    (Exists codec .ok (ascii "a") managerO ∧
      ((ObjectAction.send sendO).execute codec .ok 0 managerO).1.Succeeded ∧
      (RegionalExecutor.executeAction codec .ok (.send sendO) managerO).1.Succeeded ∧
      ((ObjectAction.send sendO).execute codec .ok 0 managerO).2.merkleDB
        (eventKey (ascii "a") (ascii "o")) ≠
      (RegionalExecutor.executeAction codec .ok (.send sendO) managerO).2.merkleDB
        (eventKey (ascii "a") (ascii "o"))) := by
  have still : Exists codec .ok (ascii "a") managerO :=
    ⟨by decide, Or.inr rfl, ascii "\x7b\x7d", [], by decide +kernel, rfl⟩
  exact ⟨⟨exists_managerA, by decide +kernel, by decide +kernel⟩, still, by decide +kernel,
    by decide +kernel, by decide +kernel⟩

end Aristo
