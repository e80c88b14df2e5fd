import Aristo.Actions.Shuttle

/-!
# What becomes of an event

`SendEventAction.Execute` stores an event, notes its ID in the list of its object, and writes the
object back.

* `bookKept_iff`: `SetObject` encodes the code, storage and status of an object and `GetObject`
  fills in nothing else, so the list of events is empty whenever it is read.
* `send_undone_iff`: the event and the object are written one after the other, straight to the
  database that all regions share; `StoresEvent` lists what it takes to store the event.
-/

namespace Aristo

open GoBase Call Storage Actions StateManager MerkleStore

section Execute

variable {Region : Type} (codec : StateCodec Region)

/-! ## The history of an object -/

/-- An accepted event: its ID, and the timestamp its call was given. -/
structure Accepted where
  eventID : Bytes
  timestamp : Int64
deriving DecidableEq

/-- The event that a call has accepted for an object, if it has. -/
def Step.accepted (regionID id : Bytes) (sm : StateManager) : Step → List Accepted
  | .create _ _ _ => []
  | .send action env timestamp =>
    if action.regionID = regionID ∧ action.idTo = id ∧
        (action.execute codec env timestamp sm).1.Succeeded then
      [{ eventID := action.eventID, timestamp }]
    else
      []

/-- The events that a run has accepted for an object, in the order of the calls. -/
def history (regionID id : Bytes) (sm : StateManager) : List Step → List Accepted
  | [] => []
  | step :: steps =>
    step.accepted codec regionID id sm ++ history regionID id (step.apply codec sm) steps

/-- `GetObject` returns an object with the events of the history and the time of the last
of them. -/
def BookKept (env : RegionEnv) (regionID id : Bytes) (events : List Accepted)
    (sm : StateManager) : Prop :=
  ∃ obj, (getObject codec env id regionID sm).1 = .ok (some obj) ∧
    obj.events = events.map Accepted.eventID ∧
    ∀ last, events.getLast? = some last →
      obj.lastUpdated = Time.unixUTC last.timestamp.toInt

variable {sm : StateManager}

/-- **The events of an object are not kept.**  After a run of calls on any objects, an
object agrees with its history exactly when its record can be read and no event was
accepted for it. -/
theorem bookKept_iff (store : Mutable) (merkleDB : MerkleDB) (steps : List Step)
    (env : RegionEnv) (regionID id : Bytes) :
    let sm := run (Step.apply codec) (new store merkleDB) steps
    let events := history codec regionID id (new store merkleDB) steps
    BookKept codec env regionID id events sm ↔
      events = [] ∧ ∃ record, Readable codec env regionID id record sm := by
  intro sm events
  have wellKeyed : WellKeyed sm := Step.wellKeyed_run codec (wellKeyed_new store merkleDB) steps
  constructor
  · rintro ⟨obj, returned, listed, -⟩
    obtain ⟨record, readable, rfl⟩ :=
      (getObject_eq_some_iff codec env id regionID wellKeyed obj).mp returned
    have unlisted : events.map Accepted.eventID = [] := listed.symm
    exact ⟨List.map_eq_nil_iff.mp unlisted, record, readable⟩
  · rintro ⟨none, record, readable⟩
    rw [none]
    refine ⟨record.toObject regionID, ?_, rfl, nofun⟩
    rw [getObject_of_readable wellKeyed readable]

/-- After a creation and one accepted event the list of the object is empty. -/
theorem not_bookKept_after_event :
    let steps : List Step := [.create createO .ok 0, .send sendO .ok 1]
    history Records.codec (ascii "a") (ascii "o") managerA steps =
        [{ eventID := ascii "o:1970-01-01T00:00:00Z", timestamp := 1 }] ∧
      ¬ BookKept Records.codec .ok (ascii "a") (ascii "o")
        (history Records.codec (ascii "a") (ascii "o") managerA steps)
        (run (Step.apply Records.codec) managerA steps) := by
  intro steps
  have accepted : history Records.codec (ascii "a") (ascii "o") managerA steps =
      [{ eventID := ascii "o:1970-01-01T00:00:00Z", timestamp := 1 }] := by decide +kernel
  have returned : (getObject Records.codec .ok (ascii "o") (ascii "a")
      (run (Step.apply Records.codec) managerA steps)).1 = .ok (some {
        code := [1, 2]
        storage := [3]
        regionID := ascii "a"
        events := []
        lastUpdated := Time.zero
        status := ascii "active" }) := by decide +kernel
  refine ⟨accepted, ?_⟩
  rintro ⟨obj, same, listed, -⟩
  rw [returned] at same
  cases same
  rw [accepted] at listed
  cases listed

/-! ## What a failed call leaves behind -/

/-- Every regional store, and the database that the regions share, is as it was. -/
structure Unchanged (before after : StateManager) : Prop where
  stores : ∀ regionID, after.storeOf regionID = before.storeOf regionID
  regional : after.regionalStores = before.regionalStores
  db : after.merkleDB = before.merkleDB

/-- The state after the chain discards what a call wrote to `mu`, which is the store
behind the manager. -/
def discardMutable (before after : StateManager) : StateManager :=
  { after with backingStore := before.backingStore }

theorem Unchanged.refl (sm : StateManager) : Unchanged sm sm :=
  ⟨fun _ => rfl, rfl, rfl⟩

/-- Reading changes nothing of this, -/
theorem unchanged_afterRead (sm : StateManager) (regionID : Bytes) :
    Unchanged sm (sm.afterRead regionID) :=
  ⟨storeOf_afterRead sm regionID, rfl, rfl⟩

/-- whether it succeeds or not. -/
theorem getObject_unchanged (env : RegionEnv) (id regionID : Bytes) (sm : StateManager) :
    Unchanged sm (getObject codec env id regionID sm).2 := by
  suffices ends : Call.Ends (getObject codec env id regionID) sm fun _ after =>
      Unchanged sm after from ends
  refine ends_lift_bind (fun _ _ => ?_) fun _ _ => Unchanged.refl sm
  have read : Call.Ends (onRegionStore env regionID
      (find (makeRegionKey regionID (ascii "object") id))) sm
      fun _ after => Unchanged sm after := by
    by_cases available : Available env sm regionID
    · rw [Call.Ends, onRegionStore_of_available available, find_apply]
      exact unchanged_afterRead sm regionID
    · obtain ⟨error, failed⟩ := onRegionStore_of_unavailable available _
      exact ends_of_eq failed (Unchanged.refl sm)
  refine ends_bind read ?_ (fun _ _ same => same) (fun _ same => same)
  intro value after same
  cases value with
  | none => exact same
  | some => exact ends_lift_bind (fun _ _ => same) fun _ _ => same

/-- The call gets as far as storing its event: the object passes the checks, and nothing fails
before the database has the event. -/
structure StoresEvent (action : SendEventAction) (env : SendEnv) (sm : StateManager) :
    Prop where
  object : ∃ record, Readable codec env.get action.regionID action.idTo record sm ∧
    action.check (record.toObject action.regionID) = .ok ()
  encoded : ∃ value, codec.marshalEvent action.event = .ok value
  writes : env.event.store.Writes

variable {action : SendEventAction} {env : SendEnv}

/-- **A call that does not store its event** fails, and changes nothing. -/
theorem send_of_not_stores (wellKeyed : WellKeyed sm) (stops : ¬ StoresEvent codec action env sm)
    (timestamp : Int64) :
    ¬ (action.execute codec env timestamp sm).1.Succeeded ∧
      Unchanged sm (action.execute codec env timestamp sm).2 := by
  suffices ends : Call.Ends (action.execute codec env timestamp) sm fun outcome after =>
      ¬ outcome.Succeeded ∧ Unchanged sm after from ends
  refine ends_lift_bind (fun _ _ => ?_) fun _ _ => ⟨not_false, Unchanged.refl sm⟩
  have read : Call.Ends (getObject codec env.get action.idTo action.regionID) sm
      fun outcome after => Unchanged sm after ∧
        (∀ obj, outcome = .ok (some obj) → ∃ record,
          Readable codec env.get action.regionID action.idTo record sm ∧
            obj = record.toObject action.regionID ∧ after = sm.afterRead action.regionID) := by
    refine ⟨getObject_unchanged codec env.get action.idTo action.regionID sm, ?_⟩
    intro obj returned
    obtain ⟨record, readable, same⟩ :=
      (getObject_eq_some_iff codec env.get action.idTo action.regionID wellKeyed obj).mp returned
    refine ⟨record, readable, same, ?_⟩
    rw [getObject_of_readable wellKeyed readable]
  refine ends_bind read ?_ (fun _ _ post => ⟨not_false, post.1⟩)
    (fun _ post => ⟨not_false, post.1⟩)
  rintro obj after ⟨same, found⟩
  cases obj with
  | none => exact ⟨not_false, same⟩
  | some obj =>
    obtain ⟨record, readable, rfl, rfl⟩ := found obj rfl
    refine ends_lift_bind (fun _ passed => ?_) fun _ _ => ⟨not_false, same⟩
    -- what is left of the reasons to stop: the encoding, or the way to the database
    have failed : ∃ error, setEvent codec env.event action.eventID action.event action.regionID
        (sm.afterRead action.regionID) =
          (.err error, (sm.afterRead action.regionID).afterRead action.regionID) := by
      cases encoded : codec.marshalEvent action.event with
      | error =>
        exact ⟨_, setEvent_of_not_encoded action.eventID readable.named available_afterRead encoded⟩
      | ok value =>
        have fails : ¬ env.event.store.Writes := fun writes =>
          stops ⟨⟨record, readable, passed⟩, ⟨value, encoded⟩, writes⟩
        rw [setEvent_of_encoded action.eventID readable.named encoded]
        exact onRegionStore_insert_of_not_writes (wellKeyed.afterRead _) available_afterRead
          fails _ _
    obtain ⟨error, failed⟩ := failed
    refine ends_of_eq (bind_of_err failed) ⟨not_false, ?_⟩
    have again := unchanged_afterRead (sm.afterRead action.regionID) action.regionID
    exact ⟨fun regionID => (again.stores regionID).trans (same.stores regionID), same.regional,
      same.db⟩

/-- Everything after the event is stored goes well. -/
structure Completes (env : SendEnv) : Prop where
  root : env.event.store.root.isOk = true
  set : env.set.store.Inserts

def SendEventAction.result (action : SendEventAction) : SendEventResult where
  success := true
  idTo := action.idTo
  eventID := action.eventID
  stateHash := action.attestations.1.data
  timestamp := action.attestations.1.timestamp.utc.formatRFC3339
  regionID := action.regionID

variable {codec} in
def afterEvent (action : SendEventAction) (env : SendEnv) (value : Bytes)
    (sm : StateManager) : StateManager :=
  (sm.afterRead action.regionID).afterInsert action.regionID
    (eventKey action.regionID action.eventID) value env.event.store.root

def afterObject (action : SendEventAction) (env : SendEnv) (record : ObjectRecord)
    (sm : StateManager) : StateManager :=
  sm.afterInsert action.regionID (objectKey action.regionID action.idTo)
    (codec.marshalObject record) env.set.store.root

variable {codec} in
/-- **A call that stores its event** returns its result and has stored the object too, or fails with
the event stored. -/
theorem send_of_stores {action : SendEventAction} {env : SendEnv} {sm : StateManager}
    (wellKeyed : WellKeyed sm) {record : ObjectRecord} {value : Bytes}
    (readable : Readable codec env.get action.regionID action.idTo record sm)
    (passed : action.check (record.toObject action.regionID) = .ok ())
    (encoded : codec.marshalEvent action.event = .ok value) (writes : env.event.store.Writes)
    (timestamp : Int64) :
    let sent := afterEvent action env value sm
    (Completes env ∧ action.execute codec env timestamp sm =
        (.ok action.result, afterObject codec action env record sent)) ∨
      (¬ Completes env ∧ ∃ error after,
        action.execute codec env timestamp sm = (.err error, after) ∧
        (after = sent ∨ after = sent.afterRead action.regionID ∨
          after = afterObject codec action env record sent)) := by
  intro sent
  have named := readable.named
  have wellKeyedSent : WellKeyed sent :=
    (effect_afterInsert (wellKeyed.afterRead _) _ _ _ _).wellKeyed
  have stored : setEvent codec env.event action.eventID action.event action.regionID
      (sm.afterRead action.regionID) = (reported env.event.store.root, sent) := by
    rw [setEvent_of_encoded action.eventID named encoded]
    exact onRegionStore_insert_of_writes (wellKeyed.afterRead _) available_afterRead writes _ _
  have checked : action.execute codec env timestamp sm =
      (do
        setEvent codec env.event action.eventID action.event action.regionID
        setObject codec env.set action.idTo
          (action.update timestamp (record.toObject action.regionID))
        return action.result) (sm.afterRead action.regionID) := by
    unfold SendEventAction.execute
    rw [refuse_bind_of_not readable.named, bind_of_ok (getObject_of_readable wellKeyed readable)]
    dsimp only
    rw [lift_bind_of_ok passed]
    rfl
  rw [checked]
  by_cases root : env.event.store.root.isOk = true
  · rw [reported_of_isOk root] at stored
    rw [bind_of_ok stored]
    have available : Available env.set sent action.regionID := Or.inl (cached_afterInsert _ _ _ _ _)
    by_cases written : env.set.store.Writes
    · have put : setObject codec env.set action.idTo
          (action.update timestamp (record.toObject action.regionID)) sent =
            (reported env.set.store.root, afterObject codec action env record sent) :=
        (setObject_of_named action.idTo named).trans
          (onRegionStore_insert_of_writes wellKeyedSent available written _ _)
      by_cases rootSet : env.set.store.root.isOk = true
      · left
        rw [reported_of_isOk rootSet] at put
        exact ⟨⟨root, written, rootSet⟩, bind_of_ok put⟩
      · right
        obtain ⟨error, failed⟩ := reported_of_not_isOk rootSet
        rw [failed] at put
        exact ⟨fun completes => rootSet completes.set.root, error, _, bind_of_err put,
          Or.inr (Or.inr rfl)⟩
    · right
      obtain ⟨error, failed⟩ :=
        onRegionStore_insert_of_not_writes wellKeyedSent available written _ _
      exact ⟨fun completes => written completes.set.writes, error, _,
        bind_of_err ((setObject_of_named _ named).trans failed), Or.inr (Or.inl rfl)⟩
  · right
    obtain ⟨error, failed⟩ := reported_of_not_isOk root
    rw [failed] at stored
    exact ⟨fun completes => root completes.root, error, _, bind_of_err stored, Or.inl rfl⟩

variable {codec} in
/-- **Inversion of a successful call**: the record passed the checks, the event was stored, and the
record was written back. -/
theorem send_succeeded {timestamp : Int64} (wellKeyed : WellKeyed sm)
    (succeeded : (action.execute codec env timestamp sm).1.Succeeded) :
    ∃ record value, Readable codec env.get action.regionID action.idTo record sm ∧
      action.check (record.toObject action.regionID) = .ok () ∧
      codec.marshalEvent action.event = .ok value ∧ Completes env ∧
      action.execute codec env timestamp sm =
        (.ok action.result,
          afterObject codec action env record (afterEvent action env value sm)) := by
  by_cases stores : StoresEvent codec action env sm
  · obtain ⟨⟨record, readable, passed⟩, ⟨value, encoded⟩, writes⟩ := stores
    rcases send_of_stores wellKeyed readable passed encoded writes timestamp with
      ⟨completes, done⟩ | ⟨-, error, after, failed, -⟩
    · exact ⟨record, value, readable, passed, encoded, completes, done⟩
    · rw [failed] at succeeded
      exact absurd succeeded not_false
  · exact absurd succeeded (send_of_not_stores codec wellKeyed stores timestamp).1

/-- Once the event is stored, the number of updates shows it. -/
theorem not_unchanged_of_stored {record : ObjectRecord} {value : Bytes} {after : StateManager}
    (stored : after = afterEvent action env value sm ∨
      after = (afterEvent action env value sm).afterRead action.regionID ∨
      after = afterObject codec action env record (afterEvent action env value sm)) :
    ¬ Unchanged sm after := by
  intro unchanged
  have same := congrArg updateCount (unchanged.stores action.regionID)
  -- the number of updates is a machine integer, and shows one write and shows two
  have once (count : UInt64) : count + 1 ≠ count := by simp
  have twice (count : UInt64) : count + 1 + 1 ≠ count := by
    rw [UInt64.add_assoc]
    simp
  have count : ((afterEvent action env value sm).storeOf action.regionID).updateCount =
      (sm.storeOf action.regionID).updateCount + 1 := by
    simp [afterEvent, updated]
  rcases stored with rfl | rfl | rfl
  · exact once _ (count.symm.trans same)
  · rw [storeOf_afterRead] at same
    exact once _ (count.symm.trans same)
  · rw [afterObject, storeOf_afterInsert_self] at same
    have recount : ((afterEvent action env value sm).storeOf action.regionID).updateCount + 1 =
        (sm.storeOf action.regionID).updateCount := same
    rw [count] at recount
    exact twice _ recount

/-- **When a failed call is undone.** From every state in which each cached store belongs to its
region: if the call fails, the regional stores are as before once `mu` is discarded, exactly when
the call stops before its event is stored or everything after that goes well. -/
theorem send_undone_iff (action : SendEventAction) (env : SendEnv) (timestamp : Int64)
    (sm : StateManager) (wellKeyed : WellKeyed sm) :
    ((action.execute codec env timestamp sm).1.Failed →
        Unchanged sm (discardMutable sm (action.execute codec env timestamp sm).2)) ↔
      (StoresEvent codec action env sm → Completes env) := by
  -- discarding `mu` gives back nothing of a regional store
  have discard {after : StateManager} : Unchanged sm (discardMutable sm after) ↔
      Unchanged sm after :=
    ⟨fun h => ⟨h.stores, h.regional, h.db⟩, fun h => ⟨h.stores, h.regional, h.db⟩⟩
  rw [discard]
  constructor
  · rintro undone ⟨⟨record, readable, passed⟩, ⟨value, encoded⟩, writes⟩
    rcases send_of_stores wellKeyed readable passed encoded writes timestamp with
      ⟨completes, -⟩ | ⟨-, error, after, failed, stored⟩
    · exact completes
    · rw [failed] at undone
      exact absurd (undone trivial) (not_unchanged_of_stored codec stored)
  · intro condition failed
    by_cases stores : StoresEvent codec action env sm
    · obtain ⟨⟨record, readable, passed⟩, ⟨value, encoded⟩, writes⟩ := stores
      rcases send_of_stores wellKeyed readable passed encoded writes timestamp with
        ⟨-, done⟩ | ⟨incomplete, -⟩
      · rw [done] at failed
        exact absurd failed not_false
      · exact absurd (condition ⟨⟨record, readable, passed⟩, ⟨value, encoded⟩, writes⟩) incomplete
    · exact (send_of_not_stores codec wellKeyed stores timestamp).2

end Execute

/-! ### A failure between the two writes -/

def SendEnv.objectFails : SendEnv :=
  { SendEnv.ok with
    set := { RegionEnv.ok with
      store := { StoreEnv.ok with write := .error (.plain (ascii "disk full")) } } }

def managerO : StateManager := (createO.execute Records.codec .ok 0 managerA).2

theorem wellKeyed_managerO : WellKeyed managerO :=
  Step.wellKeyed_apply Records.codec (wellKeyed_new _ _) (.create createO .ok 0)

/-- The condition at the event to `o`, when nothing fails. -/
theorem send_undone_iff_sendO :
    WellKeyed managerO ∧
      (((sendO.execute Records.codec .ok 1 managerO).1.Failed →
          Unchanged managerO
            (discardMutable managerO (sendO.execute Records.codec .ok 1 managerO).2)) ↔
        (StoresEvent Records.codec sendO .ok managerO → Completes .ok)) :=
  ⟨wellKeyed_managerO, send_undone_iff Records.codec sendO .ok 1 managerO wellKeyed_managerO⟩

/-- The database refuses the object: the call fails and its event stays. -/
theorem not_undone_sendO :
    (sendO.execute Records.codec .objectFails 1 managerO).1.Failed ∧
      managerO.merkleDB (eventKey (ascii "a") sendO.eventID) = none ∧
      ((sendO.execute Records.codec .objectFails 1 managerO).2.merkleDB
        (eventKey (ascii "a") sendO.eventID)).isSome ∧
      ¬ Unchanged managerO
        (discardMutable managerO (sendO.execute Records.codec .objectFails 1 managerO).2) := by
  have failed : (sendO.execute Records.codec .objectFails 1 managerO).1 =
      .err (.plain (ascii "failed to store value: disk full")) := by decide +kernel
  have absent : managerO.merkleDB (eventKey (ascii "a") sendO.eventID) = none := by decide +kernel
  have stays : ((sendO.execute Records.codec .objectFails 1 managerO).2.merkleDB
      (eventKey (ascii "a") sendO.eventID)).isSome := by decide +kernel
  refine ⟨by rw [failed]; trivial, absent, stays, fun unchanged => ?_⟩
  have same := congrFun unchanged.db (eventKey (ascii "a") sendO.eventID)
  rw [absent] at same
  change (sendO.execute Records.codec .objectFails 1 managerO).2.merkleDB _ = none at same
  rw [same] at stays
  cases stays

end Aristo
