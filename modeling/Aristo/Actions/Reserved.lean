import Aristo.Actions.Enclave
import Aristo.Actions.EventLog

/-!
# Reserved names

Input markers and enclave records are objects of their region, told from the objects of users only
by their ID: `input:` and the ID of an object, or `enclave/` and hexadecimal digits.  Nothing keeps
a user from creating an object with such an ID.  `apart_iff` says when the two kinds stay apart over
any run of successful calls: an object that was created keeps its code, or an event of a region
above it takes its place (`Held`), and no reserved record has code.
-/

namespace Aristo

open GoBase Storage Actions StateManager List Records

/-! ## What `GetObject` returns -/

/-- Code, storage and status of the object that `GetObject` returns. -/
def shown (sm : StateManager) (regionID id : Bytes) : Option ObjectRecord :=
  match (getObject codec .ok id regionID sm).1 with
  | .ok (some obj) => some obj.record
  | _ => none

variable {regionID : Bytes} {record : ObjectRecord}

/-- An object is returned when its key holds a record that is read. -/
theorem shown_eq_some_iff {sm : StateManager} (wellKeyed : WellKeyed sm) {id : Bytes} :
    shown sm regionID id = some record ↔
      regionID ≠ [] ∧ ∃ value, sm.merkleDB (objectKey regionID id) = some value ∧
        codec.unmarshalObject value = .ok record := by
  constructor
  · intro returned
    unfold shown at returned
    split at returned
    · next obj got =>
        obtain ⟨decoded, readable, rfl⟩ :=
          (getObject_eq_some_iff codec .ok id regionID wellKeyed obj).mp got
        cases returned
        exact ⟨readable.named, readable.stored⟩
    · cases returned
  · rintro ⟨named, stored⟩
    have readable : Readable codec .ok regionID id record sm := ⟨named, Or.inr rfl, stored⟩
    rw [shown, getObject_of_readable wellKeyed readable]
    rfl

/-- A record that was written is returned, -/
theorem shown_of_effect {before after : StateManager} {id : Bytes} (effect : Effect before after
      [(objectKey regionID id, some (codec.marshalObject record))])
    (named : regionID ≠ []) :
    shown after regionID id = some record := by
  refine (shown_eq_some_iff effect.wellKeyed).mpr
    ⟨named, _, ?_, codec.unmarshal_marshalObject record⟩
  rw [effect.db]
  exact Function.update_self ..

/-- and only the key of an object matters. -/
theorem shown_congr {before after : StateManager} (wellKeyed : WellKeyed before)
    (wellKeyedAfter : WellKeyed after) {id : Bytes}
    (same : after.merkleDB (objectKey regionID id) = before.merkleDB (objectKey regionID id)) :
    shown after regionID id = shown before regionID id := by
  ext record
  rw [shown_eq_some_iff wellKeyedAfter, shown_eq_some_iff wellKeyed, same]

/-! ## Runs -/

/-- The ID of an input marker or of an enclave record. -/
def Reserved (id : Bytes) : Prop :=
  (∃ object, id = ascii "input:" ++ object) ∨ ∃ enclaveID, id = enclaveObjectID enclaveID

inductive ObjectCall where
  | createObject (action : CreateObjectAction) (env : CreateEnv) (timestamp : Int64)
  | sendEvent (send : Send)
  | setInputObject (action : SetInputObjectAction) (env : SetInputEnv) (timestamp : Int64)
  | updateValidEnclaves (action : UpdateValidEnclavesAction) (env : EnclaveEnv) (timestamp : Int64)

namespace ObjectCall

def apply (sm : StateManager) : ObjectCall → StateManager
  | createObject action env timestamp => (action.execute codec env timestamp sm).2
  | sendEvent send => send.apply sm
  | setInputObject action env timestamp => (action.execute codec env timestamp sm).2
  | updateValidEnclaves action env timestamp => (action.execute codec env timestamp sm).2

def Succeeds (sm : StateManager) : ObjectCall → Prop
  | createObject action env timestamp =>
    (action.execute codec env timestamp sm).1.Succeeded
  | sendEvent send => send.Succeeds sm
  | setInputObject action env timestamp =>
    (action.execute codec env timestamp sm).1.Succeeded
  | updateValidEnclaves action env timestamp =>
    (action.execute codec env timestamp sm).1.Succeeded

instance decidableSucceeds (sm : StateManager) : (c : ObjectCall) → Decidable (c.Succeeds sm)
  | createObject .. => Outcome.decidableSucceeded _
  | sendEvent send => Send.decidableSucceeds sm send
  | setInputObject .. => Outcome.decidableSucceeded _
  | updateValidEnclaves .. => Outcome.decidableSucceeded _

/-- Region and ID of the object that the call creates. -/
def creates : ObjectCall → List (Bytes × Bytes)
  | createObject action _ _ => [(action.regionID, action.id)]
  | _ => []

end ObjectCall

/-- A state of a run: the manager, and region and ID of the objects that were created. -/
structure Names where
  manager : StateManager
  created : List (Bytes × Bytes)

namespace Names

def step (state : Names) (c : ObjectCall) : Names :=
  ⟨c.apply state.manager, state.created ++ c.creates⟩

def Succeeds (state : Names) (c : ObjectCall) : Prop :=
  c.Succeeds state.manager

instance decidableSucceeds (state : Names) (c : ObjectCall) : Decidable (state.Succeeds c) :=
  c.decidableSucceeds state.manager

/-- The call keeps reserved records and user objects apart. -/
def Apart (state : Names) (c : ObjectCall) : Prop :=
  match c with
  | .createObject action _ _ => ∀ regionID id, Reserved id →
      shown (c.apply state.manager) regionID id = some action.record →
        shown state.manager regionID id = some action.record
  | .sendEvent _ => True
  | .setInputObject .. | .updateValidEnclaves .. => ∀ object ∈ state.created,
      shown (c.apply state.manager) object.1 object.2 = shown state.manager object.1 object.2

/-- What is created is not stored where a marker or an enclave record is, nor the other way round.
-/
def NoClash (state : Names) : ObjectCall → Prop
  | .createObject action _ _ => ∀ regionID id, regionID ≠ [] → Reserved id →
      objectKey action.regionID action.id ≠ objectKey regionID id
  | .sendEvent _ => True
  | .setInputObject action _ _ => ∀ object ∈ state.created,
      objectKey action.regionID (ascii "input:" ++ action.id) ≠ objectKey object.1 object.2
  | .updateValidEnclaves action _ _ => ∀ object ∈ state.created,
      objectKey action.regionID (enclaveObjectID action.enclaveID) ≠ objectKey object.1 object.2

/-! ## What happens to an object that was created -/

/-- The database holds a record with code under the key of the object, or an event. -/
def Held (sm : StateManager) (object : Bytes × Bytes) : Prop :=
  ∃ value, sm.merkleDB (objectKey object.1 object.2) = some value ∧
    ((∃ record : ObjectRecord, record.code ≠ [] ∧ value = codec.marshalObject record) ∨
      ∃ event, codec.marshalEvent event = .ok value)

variable {before after : StateManager} {object : Bytes × Bytes}

/-- Only the key matters here too. -/
theorem Held.congr (held : Held before object)
    (same : after.merkleDB (objectKey object.1 object.2) =
      before.merkleDB (objectKey object.1 object.2)) : Held after object := by
  rw [Held, same]
  exact held

/-- What the invariant says of a state: the objects that were created are held. -/
structure Holds (state : Names) : Prop where
  wellKeyed : WellKeyed state.manager
  named : ∀ object ∈ state.created, object.1 ≠ []
  held : ∀ object ∈ state.created, Held state.manager object

/-- **A record without code leaves a held object as it was** exactly when it has another key. -/
theorem shown_write_iff {key : Bytes} {record : ObjectRecord} (wellKeyed : WellKeyed before)
    (effect : Effect before after [(key, some (codec.marshalObject record))])
    (codeless : record.code = []) (named : object.1 ≠ []) (held : Held before object) :
    shown after object.1 object.2 = shown before object.1 object.2 ↔
      key ≠ objectKey object.1 object.2 := by
  constructor
  · rintro same rfl
    rw [shown_of_effect effect named] at same
    obtain ⟨-, value, found, decoded⟩ := (shown_eq_some_iff wellKeyed).mp same.symm
    obtain ⟨stored, there, ⟨own, code, rfl⟩ | ⟨event, encoded⟩⟩ := held
    · cases there.symm.trans found
      rw [codec.unmarshal_marshalObject] at decoded
      cases decoded
      exact code codeless
    · cases there.symm.trans found
      exact unmarshalObject_event encoded record decoded
  · intro apart
    refine shown_congr wellKeyed effect.wellKeyed ?_
    rw [effect.db]
    exact Function.update_of_ne apart.symm ..

/-- A write to another key keeps the object held. -/
theorem Held.write {key : Bytes} {contents : Option Bytes} (held : Held before object)
    (effect : Effect before after [(key, contents)]) (apart : key ≠ objectKey object.1 object.2) :
    Held after object := by
  refine held.congr ?_
  rw [effect.db]
  exact Function.update_of_ne apart.symm ..

/-- An event keeps it held too: it takes the place of the object, or the object is written back as
it was read. -/
theorem Held.send {sm : StateManager} {send : Send} (wellKeyed : WellKeyed sm)
    (held : Held sm object) (succeeds : send.Succeeds sm) :
    Held (send.apply sm) object := by
  obtain ⟨record, value, stored, -, encoded, found, decoded, db⟩ := succeeds.effect wellKeyed
  by_cases back : objectKey object.1 object.2 =
      objectKey send.action.regionID send.action.idTo
  · obtain ⟨contents, there, ⟨own, code, rfl⟩ | ⟨event, encodedEvent⟩⟩ := held
    · rw [back] at there
      cases there.symm.trans found
      rw [codec.unmarshal_marshalObject] at decoded
      cases decoded
      refine ⟨_, ?_, Or.inl ⟨record, code, rfl⟩⟩
      rw [db, back, KeyValue.insert_self]
    · rw [back] at there
      cases there.symm.trans found
      exact absurd decoded (unmarshalObject_event encodedEvent record)
  · by_cases replaced : objectKey object.1 object.2 = send.key
    · refine ⟨value, ?_, Or.inr ⟨_, encoded⟩⟩
      rw [db, KeyValue.insert_of_ne _ _ back, replaced, KeyValue.insert_self]
    · refine held.congr ?_
      rw [db, KeyValue.insert_of_ne _ _ back, KeyValue.insert_of_ne _ _ replaced]

/-! ## What a successful call does -/

/-- A creation that succeeds writes a record with code under a free key. -/
theorem create_succeeded {action : CreateObjectAction} {env : CreateEnv} {timestamp : Int64}
    {sm : StateManager} (wellKeyed : WellKeyed sm)
    (succeeds : (action.execute codec env timestamp sm).1.Succeeded) :
    action.regionID ≠ [] ∧ action.code ≠ [] ∧
      sm.merkleDB (objectKey action.regionID action.id) = none ∧
      Effect sm (action.execute codec env timestamp sm).2
        [(objectKey action.regionID action.id,
          some (codec.marshalObject action.record))] := by
  have code := (create_requires codec action env timestamp wellKeyed succeeds).2
  rcases create_ends codec action env timestamp wellKeyed with
    ⟨-, failed⟩ | ⟨named, -, free, effect⟩
  · exact absurd succeeds failed
  · exact ⟨named, code, free, effect⟩

variable {state : Names} {c : ObjectCall}

section

variable (holds : Holds state)

include holds

/-- **One call.**  A call that succeeds keeps the two kinds apart exactly when it names no key of
the other kind. -/
theorem apart_step_iff (succeeds : state.Succeeds c) :
    state.Apart c ↔ state.NoClash c := by
  cases c with
  | createObject =>
    obtain ⟨-, -, free, effect⟩ := create_succeeded holds.wellKeyed succeeds
    refine forall_congr' fun regionID => forall_congr' fun id => ?_
    by_cases named : regionID = []
    · refine iff_of_true (fun _ returned => ?_) fun other => absurd named other
      exact absurd named ((shown_eq_some_iff effect.wellKeyed).mp returned).1
    · rw [imp_iff_right (a := regionID ≠ []) named]
      refine imp_congr_right fun _ => ⟨fun kept equal => ?_, fun apart returned => ?_⟩
      · rw [equal] at free effect
        obtain ⟨-, value, found, -⟩ := (shown_eq_some_iff holds.wellKeyed).mp
          (kept (shown_of_effect effect named))
        cases free.symm.trans found
      · rw [← returned]
        refine (shown_congr holds.wellKeyed effect.wellKeyed ?_).symm
        rw [effect.db]
        exact Function.update_of_ne apart.symm ..
  | sendEvent => exact Iff.rfl
  | setInputObject action env timestamp =>
    obtain ⟨-, -, effect⟩ :=
      setInput_ends codec action env timestamp holds.wellKeyed succeeds
    exact forall₂_congr fun object mem => shown_write_iff holds.wellKeyed effect rfl
      (holds.named object mem) (holds.held object mem)
  | updateValidEnclaves action env timestamp =>
    obtain ⟨-, -, effect⟩ :=
      updateEnclaves_ends codec action env timestamp holds.wellKeyed succeeds
    exact forall₂_congr fun object mem => shown_write_iff holds.wellKeyed effect rfl
      (holds.named object mem) (holds.held object mem)

/-- A call that creates nothing leaves only this to show. -/
theorem Holds.of_held (none_created : c.creates = [])
    (wellKeyed : WellKeyed (c.apply state.manager))
    (held : ∀ object ∈ state.created, Held (c.apply state.manager) object) :
    Holds (state.step c) := by
  have created : (state.step c).created = state.created := by
    rw [Names.step, none_created, append_nil]
  refine ⟨wellKeyed, ?_, ?_⟩
  · rw [created]
    exact holds.named
  · rw [created]
    exact held

/-- A call that succeeds and names no key of the other kind keeps the created objects held. -/
theorem Holds.step (succeeds : state.Succeeds c) (noClash : state.NoClash c) :
    Holds (state.step c) := by
  cases c with
  | createObject action env timestamp =>
    obtain ⟨named, code, free, effect⟩ := create_succeeded holds.wellKeyed succeeds
    have before : ∀ object ∈ state.created,
        objectKey action.regionID action.id ≠ objectKey object.1 object.2 := by
      intro object mem equal
      obtain ⟨value, there, -⟩ := holds.held object mem
      rw [← equal, free] at there
      cases there
    have own : Held (action.execute codec env timestamp state.manager).2
        (action.regionID, action.id) := by
      refine ⟨_, ?_, Or.inl ⟨action.record, code, rfl⟩⟩
      rw [effect.db]
      exact Function.update_self ..
    refine ⟨effect.wellKeyed, ?_, ?_⟩
    · exact forall_mem_append.mpr ⟨holds.named, forall_mem_singleton.mpr named⟩
    · refine forall_mem_append.mpr ⟨fun object mem => ?_, forall_mem_singleton.mpr own⟩
      exact (holds.held object mem).write effect (before object mem)
  | sendEvent =>
    obtain ⟨-, -, -, wellKeyed, -⟩ := Send.Succeeds.effect holds.wellKeyed succeeds
    exact holds.of_held rfl wellKeyed fun object mem =>
      (holds.held object mem).send holds.wellKeyed succeeds
  | setInputObject action env timestamp =>
    obtain ⟨-, -, effect⟩ :=
      setInput_ends codec action env timestamp holds.wellKeyed succeeds
    exact holds.of_held rfl effect.wellKeyed fun object mem =>
      (holds.held object mem).write effect (noClash object mem)
  | updateValidEnclaves action env timestamp =>
    obtain ⟨-, -, effect⟩ :=
      updateEnclaves_ends codec action env timestamp holds.wellKeyed succeeds
    exact holds.of_held rfl effect.wellKeyed fun object mem =>
      (holds.held object mem).write effect (noClash object mem)

end

/-- **When reserved records and user objects stay apart.**  Over every run of calls that succeed,
from any state, they do exactly when no call of the run names a key of the other kind. -/
theorem apart_iff (sm : StateManager) (wellKeyed : WellKeyed sm) (calls : List ObjectCall)
    (succeed : Along step Succeeds ⟨sm, []⟩ calls) :
    Along step Apart ⟨sm, []⟩ calls ↔ Along step NoClash ⟨sm, []⟩ calls := by
  have start : Holds ⟨sm, []⟩ :=
    ⟨wellKeyed, fun _ mem => absurd mem not_mem_nil, fun _ mem => absurd mem not_mem_nil⟩
  have both : Along step (fun state c => state.Succeeds c ∧ state.Apart c) ⟨sm, []⟩ calls ↔
      Along step (fun state c => state.Succeeds c ∧ state.NoClash c) ⟨sm, []⟩ calls := by
    refine along_iff_of_invariant (fun state c holds => ?_) (fun state c holds done => ?_) start
      calls
    · exact and_congr_right fun succeeds => apart_step_iff holds succeeds
    · exact holds.step done.1 ((apart_step_iff holds done.1).mp done.2)
  rw [along_and, along_and, and_iff_right succeed, and_iff_right succeed] at both
  exact both

/-! ### An object and its marker -/

theorem length_of_reserved {id : Bytes} (reserved : Reserved id) : 6 ≤ id.length := by
  have input : (ascii "input:").length = 6 := rfl
  have enclave : (ascii "enclave/").length = 8 := rfl
  rcases reserved with ⟨object, rfl⟩ | ⟨enclaveID, rfl⟩
  · rw [length_append, input]
    omega
  · rw [enclaveObjectID, length_append, enclave]
    omega

def create (id : Bytes) : ObjectCall := .createObject { createO with id := id } .ok 0

def setInputO : ObjectCall := .setInputObject { id := ascii "o", regionID := ascii "a" } .ok 0

def enclaveOne : UpdateValidEnclavesAction where
  enclaveID := [1]
  info := {
    measurement := [2]
    validFrom := Time.unixUTC 0
    validUntil := Time.unixUTC 1
    enclaveType := ascii "sgx"
    regionID := ascii "a" }
  regionID := ascii "a"

def updateEnclaveOne : ObjectCall := .updateValidEnclaves enclaveOne .ok 0

/-- Object `o` is created and set as input: the two stay apart. -/
theorem apart_iff_setInputO :
    Along step Succeeds ⟨managerA, []⟩ [create (ascii "o"), setInputO] ∧
      Along step Apart ⟨managerA, []⟩ [create (ascii "o"), setInputO] := by
  have succeed : Along step Succeeds ⟨managerA, []⟩ [create (ascii "o"), setInputO] := by
    exact along_cons (by decide +kernel) (along_cons (by decide +kernel) (along_nil _ _ _))
  refine ⟨succeed, (apart_iff managerA (wellKeyed_new _ _) _ succeed).mpr ?_⟩
  refine along_cons ?_ (along_cons ?_ (along_nil _ _ _))
  · intro regionID id named reserved equal
    -- the key of a reserved name is longer
    have long := length_of_reserved reserved
    have region := length_pos_of_ne_nil named
    have lengths : 14 = (objectKey regionID id).length := congrArg List.length equal
    have kind : (ascii "object").length = 6 := rfl
    simp only [objectKey, makeRegionalKey, makeRegionKey, length_append, length_cons,
      kind] at lengths
    omega
  · exact forall_mem_singleton.mpr (by decide)

/-- The calls that create `o` and two objects with reserved names. -/
def creations : List ObjectCall :=
  [create (ascii "o"), create (ascii "input:o"), create (ascii "enclave/01")]

/-- Objects `input:o` and `enclave/01` are created by a user; setting `o` as input and updating
enclave 1 then replaces both. -/
theorem objects_replaced :
    Along step Succeeds ⟨managerA, []⟩ (creations ++ [setInputO, updateEnclaveOne]) ∧
      shown (run step ⟨managerA, []⟩ creations).manager (ascii "a") (ascii "input:o") =
        some createO.record ∧
      shown (run step ⟨managerA, []⟩ creations).manager (ascii "a") (ascii "enclave/01") =
        some createO.record ∧
      shown (run step ⟨managerA, []⟩ (creations ++ [setInputO, updateEnclaveOne])).manager
        (ascii "a") (ascii "input:o") = some SetInputObjectAction.record ∧
      shown (run step ⟨managerA, []⟩ (creations ++ [setInputO, updateEnclaveOne])).manager
        (ascii "a") (ascii "enclave/01") = some enclaveOne.record ∧
      ¬ Along step Apart ⟨managerA, []⟩ (creations ++ [setInputO, updateEnclaveOne]) := by
  have succeed :
      Along step Succeeds ⟨managerA, []⟩ (creations ++ [setInputO, updateEnclaveOne]) := by
    refine along_cons ?_ (along_cons ?_ (along_cons ?_ (along_cons ?_ (along_cons ?_
      (along_nil _ _ _)))))
    all_goals decide +kernel
  refine ⟨succeed, by decide +kernel, by decide +kernel, by decide +kernel, by decide +kernel,
    fun apart => ?_⟩
  have same := apart creations setInputO [updateEnclaveOne] rfl (ascii "a", ascii "input:o")
    (by decide)
  have changed : shown (setInputO.apply (run step ⟨managerA, []⟩ creations).manager) (ascii "a")
      (ascii "input:o") ≠
        shown (run step ⟨managerA, []⟩ creations).manager (ascii "a") (ascii "input:o") := by
    decide +kernel
  exact changed same

end Names

end Aristo
