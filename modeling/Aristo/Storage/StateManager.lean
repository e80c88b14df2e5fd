import Aristo.Storage.RegionStore

/-!
# The state manager as a key-value map

`StateManager.GetValue`, `Insert` and `Remove` of `storage/state_manager.go`.  A key that starts
with `r/` goes to a store of the `RegionalStateManager`, which creates it on first use over a
database of its own; every other key goes to the backing store.

The stores that are created so have no coordinator, which their `Insert` dereferences:
`likeMap_iff` is what follows.
-/

namespace Aristo

open GoBase Storage MerkleStore

/-- `StateManager`, as far as it stores: the backing store, the stores of the
`RegionalStateManager` with their databases, the cached region stores, and the
merkle database these share. -/
structure StateManager where
  backingStore : Mutable
  regionalStores : KeyValue Bytes Opened
  regionStores : KeyValue Bytes MerkleStore
  merkleDB : MerkleDB

namespace StateManager

def new (store : Mutable) (merkleDB : MerkleDB) : StateManager where
  backingStore := store
  regionalStores := fun _ => none
  regionStores := fun _ => none
  merkleDB := merkleDB

/-- `IsRegionalKey`: the region is the second part of a key that starts with `r/`. -/
def isRegionalKey (key : Bytes) : Option Bytes :=
  if hasPrefix key (ascii "r/") then
    some ((key.drop 2).takeWhile (· ≠ slash))
  else
    none

/-- The store that `RegionalStateManager.GetRegionalStore` creates: a new database
and no coordinator. -/
def newRegionalStore (regionID : Bytes) : Opened where
  store := { regionID, lastHash := [], updateCount := 0, coordinated := false }
  db := fun _ => none

def getRegionalStore (sm : StateManager) (regionID : Bytes) : Opened :=
  (sm.regionalStores regionID).getD (newRegionalStore regionID)

/-- A call on the store that `GetRegionalStore` returns, which stays in the map. -/
def onRegionalStore {α : Type} (regionID : Bytes) (call : Call Opened α) :
    Call StateManager α :=
  Call.focus (fun sm => sm.getRegionalStore regionID)
    (fun sm opened => { sm with regionalStores := sm.regionalStores.insert regionID opened })
    call

/-- A write to the backing store, which changes nothing when it fails. -/
def onBackingStore (env : StoreEnv) (call : Call Mutable Unit) : Call StateManager Unit := do
  Call.lift env.write
  Call.focus StateManager.backingStore (fun sm store => { sm with backingStore := store }) call

def getValue (key : Bytes) : Call StateManager Bytes :=
  match isRegionalKey key with
  | some regionID => onRegionalStore regionID (get key)
  | none => fun sm => (answer (sm.backingStore key), sm)

def insert (env : StoreEnv) (key value : Bytes) : Call StateManager Unit :=
  match isRegionalKey key with
  | some regionID => onRegionalStore regionID (MerkleStore.insert env key value)
  | none => onBackingStore env (Mutable.insert key value)

def remove (env : StoreEnv) (key : Bytes) : Call StateManager Unit :=
  match isRegionalKey key with
  | some regionID => onRegionalStore regionID (delete env key)
  | none => onBackingStore env (Mutable.remove key)

/-! ## The map a run should behave like -/

inductive Operation where
  | insert (env : StoreEnv) (key value : Bytes)
  | remove (env : StoreEnv) (key : Bytes)

namespace Operation

def call : Operation → Call StateManager Unit
  | insert env key value => StateManager.insert env key value
  | remove env key => StateManager.remove env key

/-- What the call means for a key-value map. -/
def effect (contents : KeyValue Bytes Bytes) : Operation → KeyValue Bytes Bytes
  | insert _ key value => contents.insert key value
  | remove _ key => contents.remove key

/-- The call inserts a key that starts with `r/`. -/
def InsertsRegional : Operation → Prop
  | insert _ key _ => (isRegionalKey key).isSome
  | remove _ _ => False

instance decidableInsertsRegional : (op : Operation) → Decidable op.InsertsRegional
  | insert _ key _ => inferInstanceAs (Decidable ((isRegionalKey key).isSome = true))
  | remove _ _ => inferInstanceAs (Decidable False)

end Operation

/-- A manager beside the map it should behave like. -/
structure Tracked where
  manager : StateManager
  contents : KeyValue Bytes Bytes

/-- One call; the map follows the calls that succeed. -/
def Tracked.step (tracked : Tracked) (op : Operation) : Tracked where
  manager := (op.call tracked.manager).2
  contents :=
    if (op.call tracked.manager).1.Succeeded then op.effect tracked.contents
    else tracked.contents

/-- A new manager, beside the contents of its backing store under ordinary keys. -/
def Tracked.start (store : Mutable) (merkleDB : MerkleDB) : Tracked where
  manager := new store merkleDB
  contents := fun key => if (isRegionalKey key).isSome then none else store key

/-- Over the run no call panics, and in every state that is reached every key reads
as the map says. -/
structure LikeMap (start : Tracked) (ops : List Operation) : Prop where
  noPanic : ∀ before op after, ops = before ++ op :: after →
    (op.call (run Tracked.step start before).manager).1 ≠ .panicked
  reads : ∀ before after, ops = before ++ after → ∀ key,
    (getValue key (run Tracked.step start before).manager).1 =
      answer ((run Tracked.step start before).contents key)

/-! ## The invariant -/

/-- The regional stores are empty and without a coordinator, and the map is the backing store on
ordinary keys. -/
structure Agrees (tracked : Tracked) : Prop where
  regional : ∀ regionID,
    (tracked.manager.getRegionalStore regionID).store.coordinated = false ∧
      (tracked.manager.getRegionalStore regionID).db = fun _ => none
  contents : ∀ key, tracked.contents key =
    if (isRegionalKey key).isSome then none else tracked.manager.backingStore key

variable {tracked : Tracked}

/-- Every key reads as the map says. -/
theorem Agrees.reads (agrees : Agrees tracked) (key : Bytes) :
    (getValue key tracked.manager).1 = answer (tracked.contents key) := by
  rw [agrees.contents key]
  unfold getValue
  cases h : isRegionalKey key with
  | none => simp
  | some regionID =>
    show answer ((tracked.manager.getRegionalStore regionID).db _) = _
    rw [(agrees.regional regionID).2]
    simp

/-- Keeping the store of one region leaves the others alone. -/
theorem getRegionalStore_insert (sm : StateManager) (regionID other : Bytes) (opened : Opened) :
    getRegionalStore { sm with
      regionalStores := sm.regionalStores.insert regionID opened } other =
        if other = regionID then opened else sm.getRegionalStore other := by
  unfold getRegionalStore
  by_cases equal : other = regionID
  · subst equal
    simp
  · simp [equal, KeyValue.insert_of_ne _ _ equal]

section

variable (agrees : Agrees tracked)

include agrees

/-- A write under an ordinary key goes to both, -/
theorem Agrees.stepBacking {op : Operation} {env : StoreEnv} {key : Bytes} {contents : Option Bytes}
    (ordinary : isRegionalKey key = none) (call : op.call tracked.manager = onBackingStore env
      (Call.modify fun mu => Function.update mu key contents) tracked.manager)
    (effect : op.effect tracked.contents = Function.update tracked.contents key contents) :
    (op.call tracked.manager).1 ≠ .panicked ∧ Agrees (tracked.step op) := by
  obtain ⟨channel, message, send, write, root⟩ := env
  cases write with
  | error error =>
    have ended : op.call tracked.manager = (.err error, tracked.manager) := call
    refine ⟨by rw [ended]; exact nofun, ?_⟩
    simpa [Tracked.step, ended] using agrees
  | ok =>
    have ended : op.call tracked.manager = (.ok (), { tracked.manager with
      backingStore := Function.update tracked.manager.backingStore key contents }) := call
    refine ⟨by rw [ended]; exact nofun, ?_⟩
    have next : tracked.step op = ⟨{ tracked.manager with
        backingStore := Function.update tracked.manager.backingStore key contents },
        Function.update tracked.contents key contents⟩ := by
      simp [Tracked.step, ended, effect]
    rw [next]
    refine ⟨agrees.regional, fun other => ?_⟩
    by_cases equal : other = key
    · subst equal
      simp [ordinary]
    · simpa [equal] using agrees.contents other

/-- and a regional key is in neither, so that removing it changes nothing. -/
theorem Agrees.stepRegional (env : StoreEnv) {key regionID : Bytes}
    (regional : isRegionalKey key = some regionID) :
    ((Operation.remove env key).call tracked.manager).1 ≠ .panicked ∧
      Agrees (tracked.step (.remove env key)) := by
  -- the store is empty, and stays so
  obtain ⟨noPanic, uncoordinated, empty⟩ :
      (delete env key (tracked.manager.getRegionalStore regionID)).1 ≠ .panicked ∧
        (delete env key
          (tracked.manager.getRegionalStore regionID)).2.store.coordinated = false ∧
        (delete env key (tracked.manager.getRegionalStore regionID)).2.db =
          fun _ => none := by
    obtain ⟨uncoordinated, empty⟩ := agrees.regional regionID
    rcases delete_cases env key (tracked.manager.getRegionalStore regionID) with
      ⟨error, failed⟩ | ⟨noPanic, same, db⟩
    · rw [failed]
      exact ⟨nofun, uncoordinated, empty⟩
    · refine ⟨noPanic, same.2.trans uncoordinated, ?_⟩
      rw [db, empty]
      exact Function.update_eq_self_iff.mpr rfl
  have call : (Operation.remove env key).call tracked.manager =
      onRegionalStore regionID (delete env key) tracked.manager := by
    simp [Operation.call, remove, regional]
  refine ⟨by rw [call]; exact noPanic, fun other => ?_, fun other => ?_⟩
  · show (getRegionalStore ((Operation.remove env key).call tracked.manager).2
      other).store.coordinated = false ∧ _
    rw [Tracked.step, call]
    show (getRegionalStore { tracked.manager with
      regionalStores := tracked.manager.regionalStores.insert regionID _ } other).store.coordinated
        = false ∧ (getRegionalStore { tracked.manager with
          regionalStores := tracked.manager.regionalStores.insert regionID _ } other).db = _
    rw [getRegionalStore_insert]
    split
    · exact ⟨uncoordinated, empty⟩
    · exact agrees.regional other
  · -- the key is regional, so the map had nothing to remove
    have unbound : tracked.contents key = none := by
      rw [agrees.contents key, regional]
      rfl
    have backing : (tracked.step (.remove env key)).manager.backingStore =
        tracked.manager.backingStore := by
      show ((Operation.remove env key).call tracked.manager).2.backingStore = _
      rw [call]
      rfl
    have same : (tracked.step (.remove env key)).contents = tracked.contents := by
      show (if _ then KeyValue.remove tracked.contents key else tracked.contents) = _
      rw [KeyValue.remove, ← unbound, Function.update_eq_self, ite_self]
    rw [same, backing]
    exact agrees.contents other

/-- **One call.**  In agreement, a call that inserts no regional key does not panic
and keeps the agreement. -/
theorem Agrees.step {op : Operation} (allowed : ¬ op.InsertsRegional) :
    (op.call tracked.manager).1 ≠ .panicked ∧ Agrees (tracked.step op) := by
  cases op with
  | insert env key value =>
    have ordinary : isRegionalKey key = none := by
      simpa [Operation.InsertsRegional] using allowed
    have call : (Operation.insert env key value).call tracked.manager =
        onBackingStore env (Mutable.insert key value) tracked.manager := by
      simp [Operation.call, insert, ordinary]
    exact agrees.stepBacking ordinary call rfl
  | remove env key =>
    cases regional : isRegionalKey key with
    | none =>
      have call : (Operation.remove env key).call tracked.manager =
          onBackingStore env (Mutable.remove key) tracked.manager := by
        simp [Operation.call, remove, regional]
      exact agrees.stepBacking regional call rfl
    | some => exact agrees.stepRegional env regional

/-- Inserting a regional key dereferences the missing coordinator. -/
theorem Agrees.insertRegional_panics {op : Operation} (regional : op.InsertsRegional) :
    (op.call tracked.manager).1 = .panicked := by
  cases op with
  | remove => exact False.elim regional
  | insert env key value =>
    obtain ⟨regionID, isRegional⟩ := Option.isSome_iff_exists.mp regional
    have call : (Operation.insert env key value).call tracked.manager =
        onRegionalStore regionID (MerkleStore.insert env key value) tracked.manager := by
      simp [Operation.call, insert, isRegional]
    rw [call]
    show (MerkleStore.insert env key value (tracked.manager.getRegionalStore regionID)).1 = _
    rw [MerkleStore.insert_of_uncoordinated env key value (agrees.regional regionID).1]

/-- The agreement holds over every run without such an insert. -/
theorem agrees_run {ops : List Operation} (allowed : ∀ op ∈ ops, ¬ op.InsertsRegional) :
    Agrees (run Tracked.step tracked ops) := by
  exact run_invariant (fun _ _ ordinary holds => (Agrees.step holds ordinary).2) agrees allowed

end

/-- **When the manager is a key-value map.**  Over a run of a new manager no call
panics and every key reads as the last successful call on it says, exactly when the
run inserts no key that starts with `r/`. -/
theorem likeMap_iff (store : Mutable) (merkleDB : MerkleDB) (ops : List Operation) :
    LikeMap (Tracked.start store merkleDB) ops ↔ ∀ op ∈ ops, ¬ op.InsertsRegional := by
  have start : Agrees (Tracked.start store merkleDB) := ⟨fun _ => ⟨rfl, rfl⟩, fun _ => rfl⟩
  constructor
  · -- the calls before the first regional insert keep the agreement, and it panics
    intro likeMap
    by_contra notAll
    push Not at notAll
    obtain ⟨op, mem, regional⟩ := notAll
    have exists_first : (ops.find? fun op => decide op.InsertsRegional).isSome = true :=
      List.find?_isSome.mpr ⟨op, mem, by simpa using regional⟩
    obtain ⟨first, found⟩ := Option.isSome_iff_exists.mp exists_first
    obtain ⟨isRegional, before, after, rfl, earlier⟩ := List.find?_eq_some_iff_append.mp found
    have ordinary : ∀ op ∈ before, ¬ op.InsertsRegional := fun op mem => by
      simpa using earlier op mem
    exact likeMap.noPanic before first after rfl
      ((agrees_run start ordinary).insertRegional_panics (by simpa using isRegional))
  · intro allowed
    have agreed {before after : List Operation} (split : ops = before ++ after) :
        Agrees (run Tracked.step (Tracked.start store merkleDB) before) :=
      agrees_run start fun op mem => allowed op (split ▸ List.mem_append_left _ mem)
    refine ⟨fun before op after split => ?_, fun before after split => (agreed split).reads⟩
    exact ((agreed split).step (allowed op (by simp [split]))).1

/-- Inserting `r/a/k` panics, so the manager is not a map over this run. -/
theorem not_likeMap_regional :
    ¬ LikeMap (Tracked.start (fun _ => none) fun _ => none)
      [.insert .ok (ascii "r/a/k") (ascii "v")] := by
  intro likeMap
  have noPanic := likeMap.noPanic [] (.insert .ok (ascii "r/a/k") (ascii "v")) [] rfl
  exact noPanic (by decide)

end StateManager

end Aristo
