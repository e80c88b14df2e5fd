import Aristo.Coordination.Restart
import Aristo.Interfaces
import Aristo.Storage.StateManager

/-!
# Two kinds of region records in one database

`New` of `vm/core.go` gives one database to the state manager and to the coordinator.  Both keep
JSON records of regions there, an `interfaces.Region` and a `coordination.Region`, under the same
key: `region/` and the ID.  So a record of the one is what the other loads; `undisturbed_iff` says
for which runs of the three calls that write neither side notices the other.  `RegisterRegion` is
never noticed: over this database it takes a region that is absent for one that cannot be read.
-/

namespace Aristo

open GoBase Call Storage Coordination RegionRegistry

namespace Vm

/-! ## The machine -/

/-- The state manager and the coordinator of `New`; the base of the coordinator is the database. -/
structure Machine where
  coordinator : RegionRegistry
  regionalStores : KeyValue Bytes Opened
  regionStores : KeyValue Bytes MerkleStore
  merkleDB : MerkleDB

/-- The encodings of the coordinator; `json.Unmarshal` knows nothing of the error of another package
that `RegisterRegion` compares against. -/
structure RegionCodecs (State : Type) extends Codecs State where
  foreign : ∀ data error, region.unmarshal data = .error error → ¬ error.is signerErrNotFound

namespace DatabaseWrapper

def getValue (fault : Option GoError) (key : Bytes) : Call BaseStorage Bytes :=
  BaseStorage.get fault key

def insert (fault : Option GoError) (key value : Bytes) : Call BaseStorage Unit :=
  BaseStorage.put fault key value

def remove (fault : Option GoError) (key : Bytes) : Call BaseStorage Unit :=
  BaseStorage.delete fault key

end DatabaseWrapper

/-- What goes wrong with a write to the database. -/
def writeFault (env : StoreEnv) : Option GoError :=
  match env.write with
  | .ok _ => none
  | .error error => some error

namespace Machine

def database (m : Machine) : BaseStorage :=
  m.coordinator.base

/-- The state manager, over what the database has. -/
def manager (m : Machine) : StateManager where
  backingStore key := m.database.lookup key
  regionalStores := m.regionalStores
  regionStores := m.regionStores
  merkleDB := m.merkleDB

def onCoordinator {α : Type} (call : Call RegionRegistry α) : Call Machine α :=
  Call.focus Machine.coordinator (fun m coordinator => { m with coordinator }) call

def onDatabase {α : Type} (call : Call BaseStorage α) : Call Machine α :=
  onCoordinator (onBase call)

/-- A call on the store that `GetRegionalStore` returns. -/
def onRegionalStore {α : Type} (regionID : Bytes) (call : Call Opened α) : Call Machine α :=
  Call.focus (fun m => m.manager.getRegionalStore regionID)
    (fun m opened => { m with regionalStores := m.regionalStores.insert regionID opened }) call

def getValue (fault : Option GoError) (key : Bytes) : Call Machine Bytes :=
  match StateManager.isRegionalKey key with
  | some regionID => onRegionalStore regionID (MerkleStore.get key)
  | none => onDatabase (DatabaseWrapper.getValue fault key)

def insert (env : StoreEnv) (key value : Bytes) : Call Machine Unit :=
  match StateManager.isRegionalKey key with
  | some regionID => onRegionalStore regionID (MerkleStore.insert env key value)
  | none => onDatabase (DatabaseWrapper.insert (writeFault env) key value)

def regionKey (id : Bytes) : Bytes :=
  ascii "region/" ++ id

def loadRegion (codec : Codec Interfaces.Region) (fault : Option GoError) (id : Bytes) :
    Call Machine Interfaces.Region := do
  let data ← getValue fault (regionKey id)
  Call.lift (codec.unmarshal data)

/-- `SaveRegion` of the state manager; a nil pointer, `none`, is marshalled and then dereferenced.
-/
def saveRegion (codec : Codec Interfaces.Region) (env : StoreEnv)
    (region : Option Interfaces.Region) : Call Machine Unit :=
  match region with
  | none => Call.crash
  | some region => do
    let data ← Call.wrapping (ascii "failed to marshal region")
      (Call.lift (codec.marshal region))
    Call.wrapping (ascii "failed to save region") (insert env (regionKey region.id) data)

def deleteRegion (env : StoreEnv) (id : Bytes) : Call Machine Unit := do
  Call.modify fun m => { m with regionStores := m.regionStores.remove id }
  onDatabase (DatabaseWrapper.remove (writeFault env) (regionKey id))

/-! ## The state manager over the database -/

theorem get_eq (key : Bytes) (base : BaseStorage) :
    BaseStorage.get none key base = (answer (base.lookup key), base) := by
  rw [BaseStorage.get, bind_of_ok (read_apply base)]
  cases base.lookup key with
  | none | some => rfl

theorem getValue_manager (key : Bytes) (m : Machine) :
    StateManager.getValue key m.manager =
      ((getValue none key m).1, (getValue none key m).2.manager) := by
  unfold StateManager.getValue getValue
  cases StateManager.isRegionalKey key with
  | some => rfl
  | none =>
    have read : DatabaseWrapper.getValue none key m.database = _ := get_eq key m.database
    dsimp only
    rw [onDatabase, onCoordinator, Call.focus, onBase_of_eq read]
    rfl

theorem insert_manager (env : StoreEnv) (key value : Bytes) (m : Machine) :
    StateManager.insert env key value m.manager =
      ((insert env key value m).1, (insert env key value m).2.manager) := by
  unfold StateManager.insert insert
  cases StateManager.isRegionalKey key with
  | some => rfl
  | none =>
    obtain ⟨channel, message, send, write, root⟩ := env
    cases write with
    | error => rfl
    | ok =>
      have same : (fun other => (m.database.insert key value).lookup other) =
          KeyValue.insert (fun other => m.database.lookup other) key value := by
        funext other
        by_cases equal : other = key
        · rw [equal, Finmap.lookup_insert, KeyValue.insert_self]
        · rw [Finmap.lookup_insert_of_ne _ equal, KeyValue.insert_of_ne _ _ equal]
      exact congrArg (fun store => (Outcome.ok (), { m.manager with backingStore := store }))
        same.symm

end Machine

/-! ## Reading what is stored -/

section Reading

variable {R : Type}

/-- What is stored is read the same way: it is absent, or it is unmarshalled to the same. -/
def SameReading (codec : Codec R) : Option Bytes → Option Bytes → Prop
  | none, none => True
  | some before, some after => codec.unmarshal before = codec.unmarshal after
  | none, some _ => False
  | some _, none => False

theorem sameReading_refl (codec : Codec R) (contents : Option Bytes) :
    SameReading codec contents contents := by
  cases contents with
  | none => trivial
  | some => exact rfl

variable {codec : Codec R} {contents : Option Bytes}

theorem sameReading_some_iff {data : Bytes} :
    SameReading codec contents (some data) ↔
      ∃ old, contents = some old ∧ codec.unmarshal old = codec.unmarshal data := by
  cases contents with
  | none => exact iff_of_false id nofun
  | some old =>
    refine ⟨fun same => ⟨old, rfl, same⟩, fun ⟨other, present, same⟩ => ?_⟩
    cases present
    exact same

theorem sameReading_none_iff : SameReading codec contents none ↔ contents = none := by
  cases contents with
  | none => exact iff_of_true trivial rfl
  | some => exact iff_of_false id nofun

theorem sameReading_update_iff {records : Bytes → Option Bytes} {id : Bytes} :
    (∀ other, SameReading codec (records other) (Function.update records id contents other)) ↔
      SameReading codec (records id) contents := by
  constructor
  · intro same
    have own := same id
    rwa [Function.update_self] at own
  · intro same other
    by_cases equal : other = id
    · rwa [equal, Function.update_self]
    · rw [Function.update_of_ne equal]
      exact sameReading_refl codec _

end Reading

namespace Machine

section Loads

variable {State : Type} {codecs : Codecs State}

/-- What the coordinator's `LoadRegion` adds to an error of `json.Unmarshal`. -/
def unreadable : GoError → GoError :=
  .wrap (ascii "failed to unmarshal " ++ ascii "region")

theorem unreadable_injective : Function.Injective unreadable := by
  rintro ⟨first, firstWraps⟩ ⟨second, secondWraps⟩ equal
  obtain ⟨texts, wraps⟩ := GoError.mk.inj equal
  exact congrArg₂ GoError.mk (List.append_cancel_left texts) wraps

/-- What the coordinator's `LoadRegion` makes of what is stored. -/
def loaded (codecs : Codecs State) : Option Bytes → Outcome Coordination.Region
  | none => .err errNotFound
  | some data =>
    match codecs.region.unmarshal data with
    | .ok region => .ok region
    | .error error => .err (unreadable error)

theorem coordinator_loadRegion_eq (id : Bytes) (base : BaseStorage) :
    StorageWrapper.loadRegion codecs none id base = (loaded codecs (base.regions id), base) := by
  unfold BaseStorage.regions loaded
  cases present : base.lookup (recordKey .region id) with
  | none => exact StorageWrapper.load_of_absent present
  | some data =>
    dsimp only
    cases decoded : codecs.region.unmarshal data with
    | ok => exact StorageWrapper.load_of_present present decoded
    | error => exact StorageWrapper.load_of_unreadable present decoded

/-- A region is found to be absent only where nothing is stored. -/
theorem loaded_some_ne (data : Bytes) : loaded codecs (some data) ≠ .err errNotFound := by
  dsimp only [loaded]
  cases codecs.region.unmarshal data with
  | ok => exact nofun
  | error error =>
    intro equal
    have heads := congrArg (fun error : GoError => error.text.head?) (Outcome.err.inj equal)
    cases heads

theorem loaded_eq_iff (before after : Option Bytes) :
    loaded codecs after = loaded codecs before ↔ SameReading codecs.region before after := by
  cases before with
  | none =>
    cases after with
    | none => exact iff_of_true rfl trivial
    | some data => exact iff_of_false (loaded_some_ne data) id
  | some old =>
    cases after with
    | none => exact iff_of_false (fun equal => loaded_some_ne old equal.symm) id
    | some data =>
      dsimp only [loaded, SameReading]
      cases codecs.region.unmarshal old <;> cases codecs.region.unmarshal data <;>
        simp [unreadable_injective.eq_iff, eq_comm]

theorem coordinator_loads_iff {before after : BaseStorage} :
    (∀ fault id, (StorageWrapper.loadRegion codecs fault id after).1 =
        (StorageWrapper.loadRegion codecs fault id before).1) ↔
      ∀ id, SameReading codecs.region (before.regions id) (after.regions id) := by
  refine Option.forall.trans ((and_iff_left fun _ _ => rfl).trans (forall_congr' fun id => ?_))
  rw [coordinator_loadRegion_eq, coordinator_loadRegion_eq, loaded_eq_iff]

theorem isRegionalKey_regionKey (id : Bytes) : StateManager.isRegionalKey (regionKey id) = none :=
  rfl

end Loads

/-! ## What the calls write -/

section Writes

variable {State : Type} {codecs : Codecs State} {codec : Codec Interfaces.Region} {env : StoreEnv}
  {m : Machine}

theorem writeFault_eq_none_iff : writeFault env = none ↔ env.write = .ok () := by
  unfold writeFault
  cases env.write with
  | error => exact iff_of_false nofun nofun
  | ok => exact iff_of_true rfl rfl

theorem regions_write (write : Option GoError → Call BaseStorage Unit)
    {written : Bytes → Option Bytes} (fails : ∀ error base, (write (some error) base).2 = base)
    (works : (write none m.database).2.regions = written) :
    (onDatabase (write (writeFault env)) m).2.database.regions =
      if env.write = .ok () then written else m.database.regions := by
  change (write (writeFault env) m.database).2.regions = _
  cases fault : writeFault env with
  | none => rw [if_pos (writeFault_eq_none_iff.mp fault), works]
  | some =>
    have failing : env.write ≠ .ok () := fun holds => by
      cases (writeFault_eq_none_iff.mpr holds).symm.trans fault
    rw [if_neg failing, fails]

theorem regions_saveRegion (region : Interfaces.Region) :
    (saveRegion codec env (some region) m).2.database.regions =
      match codec.marshal region with
      | .ok data =>
        if env.write = .ok () then Function.update m.database.regions region.id (some data)
        else m.database.regions
      | .error _ => m.database.regions := by
  cases marshalled : codec.marshal region with
  | error error =>
    have failed : Call.wrapping (ascii "failed to marshal region")
        (Call.lift (codec.marshal region)) m =
          (.err (error.wrap (ascii "failed to marshal region")), m) := by
      rw [marshalled]
      rfl
    have stops : saveRegion codec env (some region) m = _ := bind_of_err failed
    rw [stops]
  | ok data =>
    have encoded : Call.wrapping (ascii "failed to marshal region")
        (Call.lift (codec.marshal region)) m = (.ok data, m) := by
      rw [marshalled]
      rfl
    have goesOn : saveRegion codec env (some region) m = _ := bind_of_ok encoded
    rw [goesOn, wrapping_snd, insert, isRegionalKey_regionKey]
    exact regions_write (fun fault => DatabaseWrapper.insert fault (regionKey region.id) data)
      (fun _ _ => rfl) (BaseStorage.regions_insert_region region.id data m.database)

theorem regions_deleteRegion (id : Bytes) :
    (deleteRegion env id m).2.database.regions =
      if env.write = .ok () then Function.update m.database.regions id none
      else m.database.regions := by
  have removed : deleteRegion env id m =
      onDatabase (DatabaseWrapper.remove (writeFault env) (regionKey id))
        { m with regionStores := m.regionStores.remove id } :=
    bind_of_ok (modify_apply _ m)
  rw [removed]
  exact regions_write (fun fault => DatabaseWrapper.remove fault (regionKey id)) (fun _ _ => rfl)
    (BaseStorage.regions_erase_region id m.database)

end Writes

/-! ## What the coordinator does not write -/

variable {State : Type} (codecs : RegionCodecs State) {faults : RegionFaults}

/-- The database never reports the error that the check of `RegisterRegion` looks for. -/
theorem not_reported
    (database : ∀ error, faults.load = some error → ¬ error.is signerErrNotFound)
    (regionID : Bytes) (c : RegionRegistry) :
    ¬ Reported codecs.toCodecs faults.load regionID c := by
  rintro ⟨error, failed, absent⟩
  cases fault : faults.load with
  | some reported =>
    rw [fault] at failed
    obtain rfl : reported = error := Outcome.err.inj failed
    exact database reported fault absent
  | none =>
    rw [fault, coordinator_loadRegion_eq] at failed
    unfold loaded at failed
    split at failed
    · obtain rfl : errNotFound = error := Outcome.err.inj failed
      revert absent
      decide
    · split at failed
      case h_1 => cases failed
      case h_2 inner decoded =>
        obtain rfl : unreadable inner = error := Outcome.err.inj failed
        exact codecs.foreign _ inner decoded absent

/-- **RegisterRegion changes nothing** over this database. -/
theorem registerRegion_unchanged
    (database : ∀ error, faults.load = some error → ¬ error.is signerErrNotFound)
    (created now : Time) (regionID : Bytes) (teeWorkers : Bytes × Bytes) (m : Machine) :
    (onCoordinator (registerRegion codecs.toCodecs faults created now regionID
      teeWorkers) m).2 = m := by
  have stops (data : Bytes) : ¬ Saves codecs.toCodecs faults created regionID
      teeWorkers m.coordinator data :=
    fun saves => not_reported codecs database regionID m.coordinator saves.reported
  obtain ⟨error, failed⟩ := registerRegion_of_not_saves now stops
  rw [onCoordinator, Call.focus, failed]

end Machine

/-! ## Runs -/

/-- A call of one side.  The errors of the database are its own, and not the error of another
package that `RegisterRegion` compares against. -/
inductive RegionCall where
  | registerRegion (faults : RegionFaults)
      (database : ∀ error, faults.load = some error → ¬ error.is signerErrNotFound)
      (created now : Time) (regionID : Bytes) (teeWorkers : Bytes × Bytes)
  | saveRegion (env : StoreEnv) (region : Option Interfaces.Region)
  | deleteRegion (env : StoreEnv) (id : Bytes)

namespace RegionCall

open Machine

variable {State : Type} (codecs : RegionCodecs State) (codec : Codec Interfaces.Region)

def call : RegionCall → Call Machine Unit
  | registerRegion faults _ created now regionID teeWorkers =>
    onCoordinator
      (RegionRegistry.registerRegion codecs.toCodecs faults created now regionID teeWorkers)
  | saveRegion env region => Machine.saveRegion codec env region
  | deleteRegion env id => Machine.deleteRegion env id

def apply (m : Machine) (c : RegionCall) : Machine :=
  (c.call codecs codec m).2

/-- What the coordinator's `LoadRegion` returns. -/
def coordinatorLoads (fault : Option GoError) (id : Bytes) (m : Machine) :
    Outcome Coordination.Region :=
  (StorageWrapper.loadRegion codecs.toCodecs fault id m.database).1

/-- The side that does not make the call loads every region as before. -/
def Undisturbed (m : Machine) (c : RegionCall) : Prop :=
  match c with
  | registerRegion .. =>
    ∀ fault id, (loadRegion codec fault id (c.apply codecs codec m)).1 =
      (loadRegion codec fault id m).1
  | saveRegion _ _ | deleteRegion _ _ =>
    ∀ fault id, coordinatorLoads codecs fault id (c.apply codecs codec m) =
      coordinatorLoads codecs fault id m

/-- The record that `SaveRegion` writes replaces one that the coordinator reads in the same way, and
`DeleteRegion` has nothing to delete. -/
def Harmless (m : Machine) : RegionCall → Prop
  | registerRegion .. => True
  | saveRegion _ none => True
  | saveRegion env (some region) =>
    ∀ data, env.write = .ok () → codec.marshal region = .ok data →
      ∃ old, m.database.lookup (Machine.regionKey region.id) = some old ∧
        codecs.region.unmarshal old = codecs.region.unmarshal data
  | deleteRegion env id => env.write = .ok () → m.database.lookup (Machine.regionKey id) = none

variable {codecs codec}

theorem saveRegion_undisturbed_iff (m : Machine) (env : StoreEnv)
    (region : Option Interfaces.Region) :
    (saveRegion env region).Undisturbed codecs codec m ↔
      (saveRegion env region).Harmless codecs codec m := by
  refine coordinator_loads_iff.trans ?_
  cases region with
  | none => exact iff_of_true (fun id => sameReading_refl _ _) trivial
  | some region =>
    have written : ((saveRegion env (some region)).apply codecs codec m).database.regions = _ :=
      regions_saveRegion region
    rw [written]
    cases marshalled : codec.marshal region with
    | error =>
      refine iff_of_true (fun id => sameReading_refl _ _) fun data _ encoded => ?_
      cases marshalled.symm.trans encoded
    | ok data =>
      dsimp only
      by_cases works : env.write = .ok ()
      · rw [if_pos works, sameReading_update_iff, sameReading_some_iff]
        refine ⟨fun same other _ encoded => ?_, fun harmless => harmless data works marshalled⟩
        cases marshalled.symm.trans encoded
        exact same
      · rw [if_neg works]
        exact iff_of_true (fun id => sameReading_refl _ _) fun _ holds => absurd holds works

theorem deleteRegion_undisturbed_iff (m : Machine) (env : StoreEnv) (id : Bytes) :
    (deleteRegion env id).Undisturbed codecs codec m ↔
      (deleteRegion env id).Harmless codecs codec m := by
  refine coordinator_loads_iff.trans ?_
  have written : ((deleteRegion env id).apply codecs codec m).database.regions = _ :=
    regions_deleteRegion id
  rw [written]
  by_cases works : env.write = .ok ()
  · rw [if_pos works, sameReading_update_iff, sameReading_none_iff]
    exact ⟨fun absent _ => absent, fun harmless => harmless works⟩
  · rw [if_neg works]
    exact iff_of_true (fun id => sameReading_refl _ _) fun holds => absurd holds works

/-- **Region records interfere.**  In a run of the three calls, from any state, neither side changes
what the other loads exactly when every record that `SaveRegion` writes replaces one that the
coordinator reads in the same way, and `DeleteRegion` deletes nothing. -/
theorem undisturbed_iff (m : Machine) (calls : List RegionCall) :
    Along (fun m c => c.apply codecs codec m) (fun m c => c.Undisturbed codecs codec m) m calls ↔
      Along (fun m c => c.apply codecs codec m) (fun m c => c.Harmless codecs codec m) m calls := by
  have agree (m : Machine) (c : RegionCall) :
      c.Undisturbed codecs codec m ↔ c.Harmless codecs codec m := by
    cases c with
    | registerRegion faults database created now regionID teeWorkers =>
      refine iff_of_true (fun fault id => ?_) trivial
      have same := registerRegion_unchanged codecs database created now regionID teeWorkers m
      exact congrArg (fun m => (loadRegion codec fault id m).1) same
    | saveRegion env region => exact saveRegion_undisturbed_iff m env region
    | deleteRegion env id => exact deleteRegion_undisturbed_iff m env id
  exact forall₄_congr fun earlier c later _ => agree _ c

/-- A region of the state manager, with one worker. -/
def regionR : Interfaces.Region where
  id := ascii "r"
  createdAt := Time.zero
  workers := [ascii "a"]
  status := ascii "active"

/-- What `json.Marshal` makes of it. -/
def savedR : Bytes :=
  ascii "\x7b\"id\":\"r\",\"created_at\":\"0001-01-01T00:00:00Z\"," ++
    ascii "\"worker_ids\":[\"a\"],\"status\":\"active\"\x7d"

/-- What `json.Unmarshal` makes of that for the coordinator, whose workers have another name. -/
def loadedR : Coordination.Region where
  id := ascii "r"
  workers := ([], [])
  createdAt := Time.zero
  status := ascii "active"
  maxObjects := 0
  maxEvents := 0

def codecR : Codec Interfaces.Region := .only regionR savedR

def codecsR : RegionCodecs Unit where
  worker := .nothing
  region := .only loadedR savedR
  teePair := .nothing
  metrics := .nothing
  state := .nothing
  foreign data error unreadable := by
    simp only [Codec.only] at unreadable
    split at unreadable <;> cases unreadable
    decide

/-- A machine over an empty database. -/
def machineNew : Machine where
  coordinator := .new 2 ∅
  regionalStores := fun _ => none
  regionStores := fun _ => none
  merkleDB := fun _ => none

/-- `SaveRegion` makes a region for the coordinator, and `DeleteRegion` takes it away again. -/
theorem records_interfere :
    let loads := coordinatorLoads codecsR none (ascii "r")
    let saved := (saveRegion .ok (some regionR)).apply codecsR codecR machineNew
    let deleted := (deleteRegion .ok (ascii "r")).apply codecsR codecR saved
    loads machineNew = .err errNotFound ∧ loads saved = .ok loadedR ∧
      loads deleted = .err errNotFound := by
  decide +kernel

end RegionCall

end Vm

end Aristo
