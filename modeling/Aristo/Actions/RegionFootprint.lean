import Aristo.Actions.Runs
import Aristo.Storage.Footprint

/-!
# The keys that object and region actions touch

`StateKeys` of the six actions on objects and regions, beside what their `Execute` touches in the
merkle database.  A call reads a key when its outcome depends on what is there, and writes one when
it leaves something else there.  Even in this weak sense no call that succeeds is inside of its keys
(`declared_iff`), which are spelled in the actions and not as the stores spell them.
-/

namespace Aristo

open GoBase Finmap Call Storage Actions StateManager

/-! ## Declared keys -/

def CreateObjectAction.stateKeys (action : CreateObjectAction) : StateKeys :=
  ((∅ : StateKeys).insert
    (ascii "r/" ++ action.regionID ++ ascii "/obj/" ++ action.id) .write).insert
    (ascii "r/" ++ action.regionID ++ ascii "/info") .read

def SendEventAction.stateKeys (action : SendEventAction) : StateKeys :=
  ((∅ : StateKeys).insert
    (ascii "r/" ++ action.regionID ++ ascii "/obj/" ++ action.idTo)
      (Permissions.read.or .write)).insert
    (ascii "r/" ++ action.regionID ++ ascii "/evt/" ++ action.idTo) .write

def SetInputObjectAction.stateKeys (action : SetInputObjectAction) : StateKeys :=
  ((∅ : StateKeys).insert (ascii "input_object") .write).insert
    (ascii "object:" ++ action.id) .read

def CreateRegionAction.stateKeys (action : CreateRegionAction) : StateKeys :=
  (∅ : StateKeys).insert (ascii "region:" ++ action.regionID) .write

def UpdateRegionAction.stateKeys (action : UpdateRegionAction) : StateKeys :=
  (∅ : StateKeys).insert (ascii "region:" ++ action.regionID) (Permissions.read.or .write)

def UpdateValidEnclavesAction.stateKeys (action : UpdateValidEnclavesAction) : StateKeys :=
  ((∅ : StateKeys).insert (enclaveObjectID action.enclaveID) .write).insert
    (ascii "r/" ++ action.regionID ++ ascii "/info") .read

namespace ActionCall

def stateKeys : ActionCall → StateKeys
  | createObject action _ _ => action.stateKeys
  | sendEvent action _ _ => action.stateKeys
  | setInputObject action _ _ => action.stateKeys
  | createRegion action _ => action.stateKeys
  | updateRegion action _ => action.stateKeys
  | updateValidEnclaves action _ _ => action.stateKeys

section Codec

variable {Region : Type} (codec : StateCodec Region)

def Succeeds (c : ActionCall) (sm : StateManager) : Prop :=
  (c.execute codec sm).1.Succeeded

/-- The outcome of the call depends on what the database holds under the key. -/
def Reads (c : ActionCall) (sm : StateManager) (key : Bytes) : Prop :=
  ∃ contents, (c.execute codec { sm with
    merkleDB := Function.update sm.merkleDB key contents }).1 ≠ (c.execute codec sm).1

def Writes (c : ActionCall) (sm : StateManager) (key : Bytes) : Prop :=
  (c.execute codec sm).2.merkleDB key ≠ sm.merkleDB key

/-- A call that succeeds reads and writes keys that it declares with the permission. -/
structure Declared (c : ActionCall) (sm : StateManager) : Prop where
  reads : c.Succeeds codec sm → ∀ key, c.Reads codec sm key → c.stateKeys.Permits (.read key)
  writes : c.Succeeds codec sm → ∀ key, c.Writes codec sm key → c.stateKeys.Permits (.write key)

/-! ## What a call needs -/

/-- A key without whose record the call fails. -/
def required : ActionCall → Bytes
  | createObject action _ _ => makeRegionalKey action.regionID (regionKey action.regionID)
  | sendEvent action _ _ => objectKey action.regionID action.idTo
  | setInputObject action _ _ => objectKey action.regionID action.id
  | createRegion action _ => makeRegionalKey action.regionID (configKey action.regionID)
  | updateRegion action _ => makeRegionalKey action.regionID (configKey action.regionID)
  | updateValidEnclaves action _ _ => makeRegionalKey action.regionID (regionKey action.regionID)

/-- The record of a region is not under a key that is spelled with another word. -/
theorem regionKey_ne {regionID word rest : Bytes} {c : UInt8} (spelled : word = slash :: c :: rest)
    (other : c ≠ 7) :
    makeRegionalKey regionID (regionKey regionID) ≠ ascii "r/" ++ regionID ++ word := by
  intro equal
  rw [spelled, show ascii "r/" ++ regionID ++ slash :: c :: rest =
    makeRegionalKey regionID (c :: rest) from rfl] at equal
  exact other (List.cons.inj (makeRegionalKey_inj equal)).1.symm

/-- An object is not under a key that is spelled with a shorter word. -/
theorem objectKey_ne_declared (regionID id : Bytes) {word : Bytes} (short : word.length = 5) :
    objectKey regionID id ≠ ascii "r/" ++ regionID ++ word ++ id := by
  intro equal
  have kind : (ascii "object").length = 6 := rfl
  have lengths := congrArg List.length equal
  simp only [objectKey, makeRegionalKey, makeRegionKey, List.length_append, List.length_cons,
    kind, short] at lengths
  omega

theorem notMem_two {key first second : Bytes} {permissions permissions' : Permissions}
    (notFirst : key ≠ first) (notSecond : key ≠ second) :
    key ∉ ((∅ : StateKeys).insert first permissions).insert second permissions' := by
  rw [mem_insert, mem_insert]
  rintro (equal | equal | mem)
  · exact notSecond equal
  · exact notFirst equal
  · exact notMem_empty mem

/-- **What a call needs it does not declare.** -/
theorem required_notMem (c : ActionCall) : c.required ∉ c.stateKeys := by
  have region (regionID key : Bytes) (permissions : Permissions) : makeRegionalKey regionID key ∉
      (∅ : StateKeys).insert (ascii "region:" ++ regionID) permissions := by
    rw [mem_insert]
    rintro (equal | mem)
    · cases (List.cons.inj (List.cons.inj equal).2).1
    · exact notMem_empty mem
  cases c with
  | createObject action =>
    refine notMem_two ?_ (regionKey_ne (rfl : ascii "/info" = slash :: 105 :: ascii "nfo")
      (by decide))
    rw [List.append_assoc _ (ascii "/obj/")]
    exact regionKey_ne (rfl : ascii "/obj/" ++ action.id = slash :: 111 :: (ascii "bj/" ++ _))
      (by decide)
  | sendEvent =>
    exact notMem_two (objectKey_ne_declared _ _ (rfl : (ascii "/obj/").length = 5))
      (objectKey_ne_declared _ _ (rfl : (ascii "/evt/").length = 5))
  | setInputObject =>
    refine notMem_two (fun equal => ?_) fun equal => ?_
    · cases (List.cons.inj equal).1
    · cases (List.cons.inj equal).1
  | createRegion | updateRegion => exact region _ _ _
  | updateValidEnclaves =>
    refine notMem_two (fun equal => ?_)
      (regionKey_ne (rfl : ascii "/info" = slash :: 105 :: ascii "nfo") (by decide))
    cases (List.cons.inj equal).1

/-! ### It has to be there -/

variable {sm : StateManager}

/-- The call has failed, with nothing written. -/
def Inert {α : Type} (sm : StateManager) (outcome : Outcome α) (after : StateManager) : Prop :=
  Effect sm after [] ∧ ¬ outcome.Succeeded

/-- Access to a store writes nothing. -/
theorem getStore_ends (env : RegionActionEnv) (regionID : Bytes) (wellKeyed : WellKeyed sm) :
    Call.Ends (getStore env regionID) sm fun _ after => Effect sm after [] := by
  by_cases available : Available env.region sm regionID
  · exact ends_of_eq (getStore_of_available available) (effect_afterRead wellKeyed regionID)
  · obtain ⟨uncached, noPair⟩ := not_or.mp available
    have cached : sm.regionStores regionID = none := by simpa [Cached] using uncached
    cases pair : env.region.pair with
    | ok => exact absurd pair noPair
    | error =>
      have kept : (getStore env regionID sm).2 = sm := by
        simp [getStore, Call.mapError, getRegionalStoreInternal, bind_apply, cached, pair,
          Call.wrapping]
      rw [Call.Ends, kept]
      exact Effect.refl wellKeyed

/-- The result of a call does not matter, -/
theorem inert_discard {α : Type} {call : Call StateManager α}
    (ends : Call.Ends call sm (Inert sm)) :
    Call.Ends (do let _ ← call) sm (Inert sm) :=
  ends_bind ends (fun _ _ post => absurd trivial post.2) (fun _ _ post => post) fun _ post => post

/-- nor does a check in front of it. -/
theorem inert_lift_bind {α β : Type} {result : Except GoError α} {next : α → Call StateManager β}
    {after : StateManager} (read : Effect sm after [])
    (ok : ∀ value, result = .ok value → Call.Ends (next value) after (Inert sm)) :
    Call.Ends (Call.lift result >>= next) after (Inert sm) :=
  ends_lift_bind ok fun _ _ => ⟨read, not_false⟩

/-- Behind a call that only reads, the rest is inert if it is so for each answer. -/
theorem inert_bind {α β : Type} {call : Call StateManager α} {next : α → Call StateManager β}
    {P : Outcome α → Prop} (first : Call.Ends call sm fun outcome after =>
      Effect sm after [] ∧ P outcome)
    (ok : ∀ value after, Effect sm after [] → P (.ok value) →
      Call.Ends (next value) after (Inert sm)) :
    Call.Ends (call >>= next) sm (Inert sm) :=
  ends_bind first (fun value after post => ok value after post.1 post.2)
    (fun _ _ post => ⟨post.1, not_false⟩) fun _ post => ⟨post.1, not_false⟩

/-- The store of a region is there, and still without the record. -/
theorem inert_getStore {β : Type} {next : Unit → Call StateManager β} {regionID : Bytes}
    (wellKeyed : WellKeyed sm) (absent : record regionID sm = none) (env : RegionActionEnv)
    (rest : ∀ after, Effect sm after [] → record regionID after = none →
      Call.Ends (next ()) after (Inert sm)) :
    Call.Ends (getStore env regionID >>= next) sm (Inert sm) := by
  refine ends_bind (getStore_ends env regionID wellKeyed) (fun _ after read => ?_)
    (fun _ _ read => ⟨read, not_false⟩) fun _ read => ⟨read, not_false⟩
  refine rest after read ?_
  rw [record, read.db]
  exact absent

/-- **A call that does not find its record** fails before it writes anything. -/
theorem inert_of_absent {c : ActionCall} (wellKeyed : WellKeyed sm)
    (absent : sm.merkleDB c.required = none) : Call.Ends (c.execute codec) sm (Inert sm) := by
  have unread := Effect.refl wellKeyed
  cases c with
  | createObject action env timestamp =>
    refine inert_discard (inert_lift_bind unread fun _ _ => ?_)
    refine inert_bind (getRegion_ends codec env.region action.regionID wellKeyed) ?_
    rintro region after read ⟨-, stored⟩
    refine inert_lift_bind read fun _ present => ?_
    cases region with
    | none => exact absurd rfl (refuse_eq_ok.mp present)
    | some region => exact absurd absent (stored region rfl)
  | sendEvent action env timestamp =>
    refine inert_discard (inert_lift_bind unread fun _ _ => ?_)
    refine inert_bind (getObject_ends codec env.get action.idTo action.regionID wellKeyed) ?_
    rintro obj after read ⟨-, -, decoded⟩
    cases obj with
    | none => exact ⟨read, not_false⟩
    | some obj =>
      obtain ⟨value, -, stored, -⟩ := decoded obj rfl
      cases stored.symm.trans absent
  | setInputObject action env timestamp =>
    refine inert_discard (inert_lift_bind unread fun _ _ => ?_)
    refine inert_bind (objectExists_ends env.existing action.id action.regionID wellKeyed) ?_
    rintro found after read ⟨-, answered⟩
    refine inert_lift_bind read fun _ present => ?_
    have missing : found = false := by
      rw [answered found rfl]
      exact Option.isSome_eq_false_iff.mpr (Option.isNone_iff_eq_none.mpr absent)
    rw [missing] at present
    cases present
  | createRegion action env =>
    refine inert_discard (inert_lift_bind unread fun _ _ => ?_)
    refine inert_lift_bind unread fun _ _ => ?_
    refine inert_getStore wellKeyed absent env fun _ read missing => ?_
    rw [Call.Ends, bind_of_err (existing_of_absent read.wellKeyed missing)]
    exact ⟨read.trans (effect_afterRead read.wellKeyed _), not_false⟩
  | updateRegion action env =>
    refine inert_discard (inert_lift_bind unread fun _ _ => ?_)
    refine inert_getStore wellKeyed absent env fun _ read missing => ?_
    refine inert_lift_bind read fun _ _ => ?_
    rw [Call.Ends, bind_of_err (existingData_of_absent read.wellKeyed missing)]
    exact ⟨read.trans (effect_afterRead read.wellKeyed _), not_false⟩
  | updateValidEnclaves action env timestamp =>
    refine inert_discard (inert_bind
      (regionExists_ends codec env.region action.regionID wellKeyed) ?_)
    rintro found after read ⟨-, stored⟩
    refine inert_lift_bind read fun _ present => ?_
    have isThere : found = true := not_not.mp (refuse_eq_ok.mp present)
    exact absurd absent (stored (by rw [isThere]))

/-- **No call that succeeds is inside of its keys**: a call of any of the six actions, in any state,
reads and writes what it declares exactly when it does not succeed. -/
theorem declared_iff (c : ActionCall) (sm : StateManager) (wellKeyed : WellKeyed sm) :
    c.Declared codec sm ↔ ¬ c.Succeeds codec sm := by
  constructor
  · intro declared succeeds
    have reads : c.Reads codec sm c.required := by
      refine ⟨none, fun same => ?_⟩
      have keyed : WellKeyed { sm with
          merkleDB := Function.update sm.merkleDB c.required none } := wellKeyed
      refine (inert_of_absent codec keyed (Function.update_self ..)).2 ?_
      rw [same]
      exact succeeds
    obtain ⟨permissions, found, -⟩ := declared.reads succeeds c.required reads
    exact required_notMem c (mem_iff.mpr ⟨permissions, found⟩)
  · intro fails
    exact ⟨fun succeeds => absurd succeeds fails, fun succeeds => absurd succeeds fails⟩

/-! ## Runs from an empty database -/

/-- **Nothing ever begins**: every action needs a record that only another one could write, so from
an empty database no call of any run succeeds, and the database stays empty. -/
theorem run_new_empty (store : Mutable) (calls : List ActionCall) :
    let sm := run (apply codec) (new store fun _ => none) calls
    (∀ key, sm.merkleDB key = none) ∧ ∀ c : ActionCall, ¬ c.Succeeds codec sm := by
  have step : ∀ (sm : StateManager) (c : ActionCall),
      (WellKeyed sm ∧ ∀ key, sm.merkleDB key = none) →
        WellKeyed (apply codec sm c) ∧ ∀ key, (apply codec sm c).merkleDB key = none := by
    rintro sm c ⟨wellKeyed, empty⟩
    obtain ⟨effect, -⟩ := inert_of_absent codec wellKeyed (empty c.required)
    refine ⟨effect.wellKeyed, fun key => ?_⟩
    rw [apply, effect.db]
    exact empty key
  obtain ⟨wellKeyed, empty⟩ := run_preserves step ⟨wellKeyed_new store _, fun _ => rfl⟩ calls
  exact ⟨empty, fun c => (inert_of_absent codec wellKeyed (empty c.required)).2⟩

end Codec

/-! ### Two calls with different keys -/

def createInputO : ActionCall := .createObject { createO with id := ascii "input:o" } .ok 1

def setInputO : ActionCall := .setInputObject { id := ascii "o", regionID := ascii "a" } .ok 1

theorem succeeds_createInputO : createInputO.Succeeds Records.codec managerO := by
  show Outcome.Succeeded _
  decide +kernel

/-- The creation of `input:o` is outside of its keys. -/
theorem declared_iff_createInputO :
    WellKeyed managerO ∧ createInputO.Succeeds Records.codec managerO ∧
      ¬ createInputO.Declared Records.codec managerO :=
  ⟨wellKeyed_managerO, succeeds_createInputO, fun declared =>
    (declared_iff Records.codec createInputO managerO wellKeyed_managerO).mp declared
      succeeds_createInputO⟩

/-- The two calls declare no common key, and both write the object `input:o`, under a key that
neither of them declares. -/
theorem disjoint_calls_write_one_key :
    createInputO.Succeeds Records.codec managerO ∧
      setInputO.Succeeds Records.codec managerO ∧
      createInputO.stateKeys.Disjoint setInputO.stateKeys ∧
      createInputO.Writes Records.codec managerO (objectKey (ascii "a") (ascii "input:o")) ∧
      setInputO.Writes Records.codec managerO (objectKey (ascii "a") (ascii "input:o")) ∧
      objectKey (ascii "a") (ascii "input:o") ∉ createInputO.stateKeys ∧
      objectKey (ascii "a") (ascii "input:o") ∉ setInputO.stateKeys := by
  refine ⟨succeeds_createInputO, ?_, by decide +kernel, ?_, ?_, by decide +kernel,
    by decide +kernel⟩
  · show Outcome.Succeeded _
    decide +kernel
  · show _ ≠ _
    decide +kernel
  · show _ ≠ _
    decide +kernel

end ActionCall

end Aristo
