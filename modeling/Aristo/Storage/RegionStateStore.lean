import Aristo.Base.GoMap
import Aristo.Base.Sort
import Aristo.Storage.Objects
import Mathlib.Data.Finset.Sort

/-!
# The listing of regions

`SetRegionConfig`, `SaveRegion`, `DeleteRegionConfig` and `ListRegions` of
`storage/region_state_store.go`, and the iterator of `storage/iterator.go`, over one ordered map.

The writers build their keys with `makeRegionKey("config", id, "")`, which puts its first argument
in front: `config/<id>/`.  `ListRegions` looks for keys that start with `region/config/`.  So it
finds nothing (`listRegions_after`), and `listRegions_exact_iff` says when that is right.
-/

namespace Aristo

open GoBase Finmap Call Storage

namespace RegionStateStore

/-! ## The map and its iterator -/

abbrev Contents := GoMap Bytes Bytes

/-- `NewIteratorWithPrefix`: the keys that start in this way, in ascending order. -/
def keysFrom (start : Bytes) (contents : Contents) : List Bytes :=
  (contents.keys.filter fun key => hasPrefix key start).sort bytesLE

variable {contents : Contents}

theorem mem_keysFrom {start key : Bytes} :
    key ∈ keysFrom start contents ↔ key ∈ contents ∧ start <+: key := by
  rw [keysFrom, Finset.mem_sort, Finset.mem_filter, mem_keys, hasPrefix_iff]

/-- `RegionIterator`, without the values. -/
structure RegionIterator where
  /-- What the iterator of the database has left. -/
  keys : List Bytes
  start : Bytes
  err : Option GoError
  current : Bytes

namespace RegionIterator

def new (start : Bytes) (contents : Contents) : RegionIterator where
  keys := keysFrom start contents
  start := start
  err := none
  current := []

/-- `Next`; `done` is the error of the context, if it is done. -/
def next (done : Option GoError) (i : RegionIterator) : Bool × RegionIterator :=
  match i.err, done, i.keys with
  | some _, _, _ => (false, i)
  | none, some error, _ => (false, { i with err := some error })
  | none, none, [] => (false, i)
  | none, none, key :: keys =>
    -- the iterator of the database has moved on in both cases
    if hasPrefix key i.start then (true, { i with keys, current := key })
    else (false, { i with keys })

theorem length_keys_of_next {done : Option GoError} {i after : RegionIterator}
    (moves : i.next done = (true, after)) : after.keys.length < i.keys.length := by
  unfold next at moves
  split at moves
  · cases moves
  · cases moves
  · cases moves
  · rename_i left
    split at moves
    · obtain rfl := (Prod.mk.inj moves).2
      simp [left]
    · cases moves

/-- The loop of `ListRegions`; `done n` is the error of the context at the `n`-th round. -/
def collect (done : ℕ → Option GoError) (start : Bytes) (n : ℕ) (i : RegionIterator)
    (regions : List Bytes) : List Bytes × RegionIterator :=
  match h : i.next (done n) with
  | (false, after) => (regions, after)
  | (true, after) =>
    collect done start (n + 1) after
      (if start.length < after.current.length then
        regions ++ [after.current.drop start.length]
      else regions)
termination_by i.keys.length
decreasing_by exact length_keys_of_next h

theorem collect_of_stops {done : ℕ → Option GoError} {start : Bytes} {n : ℕ}
    {i after : RegionIterator} {regions : List Bytes} (stops : i.next (done n) = (false, after)) :
    collect done start n i regions = (regions, after) := by
  unfold collect
  split
  · rename_i last stops'
    rw [stops] at stops'
    rw [(Prod.mk.inj stops').2]
  · rename_i moves
    rw [stops] at moves
    cases moves

end RegionIterator

/-! ## The store -/

def configKey (regionID : Bytes) : Bytes :=
  makeRegionKey (ascii "config") regionID []

def insert (fault : Option GoError) (key data : Bytes) : Call Contents Unit :=
  match fault with
  | some error => Call.fail error
  | none => Call.modify fun contents => contents.insert key data

def remove (fault : Option GoError) (key : Bytes) : Call Contents Unit :=
  match fault with
  | some error => Call.fail error
  | none => Call.modify fun contents => contents.erase key

/-- `SetRegionConfig`; `encoded` is what `json.Marshal` returns. -/
def setRegionConfig (fault : Option GoError) (regionID : Bytes) (encoded : Except GoError Bytes) :
    Call Contents Unit := do
  let data ← Call.wrapping (ascii "failed to marshal region config") (Call.lift encoded)
  Call.wrapping (ascii "failed to store region config") (insert fault (configKey regionID) data)

/-- `SaveRegion`; `id` is the entry of the map if it is there and a string. -/
def saveRegion (fault : Option GoError) (id : Option Bytes) (encoded : Except GoError Bytes) :
    Call Contents Unit := do
  let data ← Call.wrapping (ascii "failed to marshal region config") (Call.lift encoded)
  match id with
  | none => Call.crash
  | some id =>
    Call.wrapping (ascii "failed to store region config") (insert fault (configKey id) data)

def deleteRegionConfig (fault : Option GoError) (regionID : Bytes) : Call Contents Unit :=
  remove fault (configKey regionID)

/-- The prefix of `ListRegions`. -/
def listStart : Bytes := ascii "region/config/"

def listRegions (done : ℕ → Option GoError) (contents : Contents) : Except GoError (List Bytes) :=
  let (regions, i) := RegionIterator.collect done listStart 0 (.new listStart contents) []
  match i.err with
  | some error => .error (error.wrap (ascii "iteration failed"))
  | none => .ok regions

/-! ## Runs -/

inductive StoreCall where
  | setRegionConfig (fault : Option GoError) (regionID : Bytes) (encoded : Except GoError Bytes)
  | saveRegion (fault : Option GoError) (id : Option Bytes) (encoded : Except GoError Bytes)
  | deleteRegionConfig (fault : Option GoError) (regionID : Bytes)

namespace StoreCall

def call : StoreCall → Call Contents Unit
  | setRegionConfig fault regionID encoded =>
    RegionStateStore.setRegionConfig fault regionID encoded
  | saveRegion fault id encoded => RegionStateStore.saveRegion fault id encoded
  | deleteRegionConfig fault regionID => RegionStateStore.deleteRegionConfig fault regionID

/-- What the call means for the regions: one has a configuration or has none any more. -/
def write : StoreCall → Option (Write Bytes Unit)
  | setRegionConfig _ regionID _ => some (regionID, some ())
  | saveRegion _ id _ => id.map fun id => (id, some ())
  | deleteRegionConfig _ regionID => some (regionID, none)

end StoreCall

/-- The configuration of the region was stored and not deleted since, by calls that returned. -/
def Stored (calls : List StoreCall) (regionID : Bytes) : Prop :=
  lastWrite ((Call.returned StoreCall.call ∅ calls).filterMap fun done => done.1.write) regionID =
    some (some ())

/-- The list has the regions that are stored, each once. -/
def Exact (calls : List StoreCall) (regions : List Bytes) : Prop :=
  regions.Nodup ∧ ∀ regionID, regionID ∈ regions ↔ Stored calls regionID

/-- All keys are keys of configurations. -/
def ConfigsOnly (contents : Contents) : Prop :=
  ∀ key ∈ contents, ∃ regionID, key = configKey regionID

theorem configsOnly_insert (only : ConfigsOnly contents) (regionID data : Bytes) :
    ConfigsOnly (contents.insert (configKey regionID) data) := by
  intro key mem
  rcases mem_insert.mp mem with rfl | mem
  · exact ⟨regionID, rfl⟩
  · exact only key mem

theorem maintains_configsOnly_insert (fault : Option GoError) (regionID data : Bytes) :
    Call.Maintains ConfigsOnly (insert fault (configKey regionID) data) := by
  intro contents only
  cases fault with
  | none => exact configsOnly_insert only regionID data
  | some => exact only

theorem maintains_configsOnly (c : StoreCall) : Call.Maintains ConfigsOnly c.call := by
  have marshals {text : Bytes} (encoded : Except GoError Bytes) :
      Call.Maintains ConfigsOnly (Call.wrapping text (Call.lift encoded)) :=
    maintains_wrapping (maintains_lift encoded)
  cases c with
  | setRegionConfig fault regionID encoded =>
    refine maintains_bind (marshals encoded) fun data => ?_
    exact maintains_wrapping (maintains_configsOnly_insert fault regionID data)
  | saveRegion fault id encoded =>
    refine maintains_bind (marshals encoded) fun data => ?_
    cases id with
    | none => exact fun _ only => only
    | some id => exact maintains_wrapping (maintains_configsOnly_insert fault id data)
  | deleteRegionConfig fault =>
    intro contents only
    cases fault with
    | none => exact fun other mem => only other (mem_erase.mp mem).2
    | some => exact only

theorem not_isPrefix_configKey (regionID : Bytes) : ¬ listStart <+: configKey regionID := by
  -- the one starts with `r`, the other with `c`
  rintro ⟨tail, equal⟩
  have first : (114 : UInt8) = 99 := (List.cons.inj equal).1
  exact absurd first (by decide)

theorem listRegions_of_configsOnly (only : ConfigsOnly contents) :
    listRegions (fun _ => none) contents = .ok [] := by
  have nothing : keysFrom listStart contents = [] := by
    refine List.eq_nil_iff_forall_not_mem.mpr fun key mem => ?_
    obtain ⟨inMap, isPrefix⟩ := mem_keysFrom.mp mem
    obtain ⟨regionID, rfl⟩ := only key inMap
    exact not_isPrefix_configKey regionID isPrefix
  have stops : (RegionIterator.new listStart contents).next none =
      (false, RegionIterator.new listStart contents) := by
    rw [RegionIterator.new, nothing]
    rfl
  unfold listRegions
  rw [RegionIterator.collect_of_stops stops]
  rfl

/-- **The listing is empty** after every run. -/
theorem listRegions_after (calls : List StoreCall) :
    listRegions (fun _ => none) (Call.after StoreCall.call ∅ calls) = .ok [] := by
  refine listRegions_of_configsOnly ?_
  have start : ConfigsOnly ∅ := fun key mem => absurd mem notMem_empty
  exact run_preserves (fun contents c only => maintains_configsOnly c contents only) start calls

/-- **When the listing is exact**, in every run of a store that was empty: exactly when there is
nothing to list. -/
theorem listRegions_exact_iff (calls : List StoreCall) :
    (∃ regions, listRegions (fun _ => none) (Call.after StoreCall.call ∅ calls) = .ok regions ∧
        Exact calls regions) ↔
      ∀ regionID, ¬ Stored calls regionID := by
  rw [listRegions_after]
  constructor
  · rintro ⟨regions, listed, -, exact⟩ regionID stored
    obtain rfl := Except.ok.inj listed
    exact absurd ((exact regionID).mpr stored) List.not_mem_nil
  · intro nothing
    refine ⟨[], rfl, List.nodup_nil, fun regionID => ?_⟩
    exact iff_of_false List.not_mem_nil (nothing regionID)

/-- A configuration is stored and not listed. -/
theorem stored_not_listed :
    Stored [.setRegionConfig none (ascii "r") (.ok [1])] (ascii "r") ∧
      listRegions (fun _ => none)
        (Call.after StoreCall.call ∅ [.setRegionConfig none (ascii "r") (.ok [1])]) = .ok [] := by
  refine ⟨rfl, listRegions_of_configsOnly ?_⟩
  exact configsOnly_insert (fun key mem => absurd mem notMem_empty) (ascii "r") [1]

end RegionStateStore

end Aristo
