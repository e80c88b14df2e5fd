import Aristo.Coordination.Registration

/-!
# Regions and restarts

`NewCoordinator` starts with no workers and no pairs, over a storage that may have the records of an
earlier coordinator, and `Start` restores nothing.  `RegisterRegion` refuses a region that has a
record, and no call deletes one.  So a region that was registered keeps its record in every later
life of the coordinator (`recorded_after`), without a pair and without a way to get one
(`not_usable_after_restart`).
-/

namespace Aristo

open GoBase Finmap Call

namespace Coordination

open StorageWrapper

namespace RegionRegistry

variable {State : Type} (codecs : Codecs State)

def new (minWorkers : ℤ) (store : BaseStorage) : RegionRegistry where
  registry := .new minWorkers store
  teePairs := ∅

def restoreWorkers : Call RegionRegistry Unit :=
  return

/-- `Start`, without its goroutines. -/
def start : Call RegionRegistry Unit :=
  Call.wrapping (ascii "failed to restore workers") restoreWorkers

/-- The process ends, and a new one makes and starts a coordinator over the storage. -/
def restart (minWorkers : ℤ) (c : RegionRegistry) : RegionRegistry :=
  (start (new minWorkers c.base)).2

/-- A call of the coordinator; `RegisterTEEPair`, which never returns, is not among them. -/
inductive Request where
  | onWorkers (request : Registry.Request)
  | stop (order : List Bytes)
  | getSecureChannel (outside : Outside) (worker1 worker2 : Bytes)
  | registerRegion (faults : RegionFaults) (created now : Time) (regionID : Bytes)
      (teeWorkers : Bytes × Bytes)

def Request.call : Request → Call RegionRegistry Unit
  | onWorkers request => onRegistry (request.call codecs)
  | stop order => onRegistry (Registry.stop order)
  | getSecureChannel outside worker1 worker2 => do
    let _ ← onBase (Coordination.getSecureChannel outside worker1 worker2)
  | registerRegion faults created now regionID teeWorkers =>
    RegionRegistry.registerRegion codecs faults created now regionID teeWorkers

/-- The storage reports the error that the coordinator compares against exactly when there is no
record. -/
def Request.Honest (c : RegionRegistry) : Request → Prop
  | registerRegion faults _ _ regionID _ =>
    Reported codecs faults.load regionID c ↔ c.base.lookup (recordKey .region regionID) = none
  | _ => True

/-- The region has the workers, or can be registered with them. -/
def Usable (regionID : Bytes) (teeWorkers : Bytes × Bytes) (c : RegionRegistry) : Prop :=
  getTEEPair regionID c = .ok teeWorkers ∨
    ∃ faults created now, (Request.registerRegion faults created now regionID teeWorkers).Honest
        codecs c ∧
      (registerRegion codecs faults created now regionID teeWorkers c).1 = .ok () ∧
      getTEEPair regionID (registerRegion codecs faults created now regionID teeWorkers c).2 =
        .ok teeWorkers

end RegionRegistry

/-! ## What the workers leave alone -/

namespace BaseStorage

def regions (base : BaseStorage) (id : Bytes) : Option Bytes :=
  base.lookup (recordKey .region id)

/-- Saving a region changes one record, -/
theorem regions_insert_region (id data : Bytes) (base : BaseStorage) :
    regions (base.insert (recordKey .region id) data) =
      Function.update (regions base) id (some data) := by
  funext other
  by_cases equal : other = id
  · rw [equal, Function.update_self]
    exact lookup_insert _
  · rw [Function.update_of_ne equal]
    exact lookup_insert_of_ne _ fun same => equal (recordKey_inj same).2

/-- and so does deleting it. -/
theorem regions_erase_region (id : Bytes) (base : BaseStorage) :
    regions (base.erase (recordKey .region id)) = Function.update (regions base) id none := by
  funext other
  by_cases equal : other = id
  · rw [equal, Function.update_self]
    exact lookup_erase _ _
  · rw [Function.update_of_ne equal]
    exact lookup_erase_ne fun same => equal (recordKey_inj same).2

end BaseStorage

open BaseStorage

/-- Saving another kind of record keeps the records of the regions, -/
theorem keepsRegions_save {R : Type} {codec : Codec R} {what : String} {fault : Option GoError}
    {kind : Kind} (other : kind ≠ .region) (id : Bytes) (record : R) :
    Call.Keeps regions (save codec what fault (recordKey kind id) record) := by
  intro base
  rcases save_cases codec what fault (recordKey kind id) record base with
    ⟨data, -, -, saved⟩ | ⟨-, -, error, failed⟩
  · rw [saved]
    funext regionID
    exact lookup_insert_of_ne _ fun same => other (recordKey_inj same).1.symm
  · rw [failed]

/-- and so does deleting it. -/
theorem keepsRegions_delete {kind : Kind} (other : kind ≠ .region) (fault : Option GoError)
    (id : Bytes) : Call.Keeps regions (BaseStorage.delete fault (recordKey kind id)) := by
  cases fault with
  | some error => exact keeps_fail error
  | none =>
    refine keeps_modify fun base => funext fun regionID => ?_
    exact lookup_erase_ne fun same => other (recordKey_inj same).1.symm

/-- A channel is another kind of record. -/
theorem keepsRegions_getSecureChannel (outside : Outside) (worker1 worker2 : Bytes) :
    Call.Keeps regions (getSecureChannel outside worker1 worker2) := by
  intro base
  rcases getSecureChannel_cases outside worker1 worker2 base with
    ⟨-, channel, next, returned, others⟩ | ⟨-, error, failed⟩
  · rw [returned]
    funext id
    exact others .region id (by decide)
  · rw [failed]

namespace Registry

def regions (r : Registry) : Bytes → Option Bytes :=
  r.store.regions

theorem keepsRegions_onStore {α : Type} {call : Call BaseStorage α}
    (keeps : Call.Keeps BaseStorage.regions call) : Call.Keeps regions (onStore call) :=
  fun r => keeps r.store

/-- What a worker does is not stored. -/
theorem keepsRegions_onWorker {α : Type} (id : Bytes) (call : Call (Worker × Heap) α) :
    Call.Keeps regions (onWorker id call) := by
  intro r
  unfold onWorker
  cases r.workers.lookup id with
  | none | some => rfl

theorem keepsRegions_stop (order : List Bytes) : Call.Keeps regions (stop order) := by
  refine keeps_bind keeps_read fun r => ?_
  cases r.done.close with
  | none => exact keeps_crash
  | some =>
    refine keeps_bind (keeps_modify fun _ => rfl) fun _ => keeps_forM fun id => ?_
    exact keeps_bind (keeps_attempt (keepsRegions_onWorker _ _)) fun _ =>
      keeps_pure _

variable {State : Type} (codecs : Codecs State)

/-- **The calls about workers** keep the records of the regions. -/
theorem keepsRegions_call (request : Request) : Call.Keeps regions (request.call codecs) := by
  have keepsChannel (outside : Outside) (worker1 worker2 : Bytes) : Call.Keeps regions
      (onStore (getSecureChannel outside worker1 worker2)) :=
    keepsRegions_onStore (keepsRegions_getSecureChannel outside worker1 worker2)
  cases request with
  | register id enclaveID now fault deleteFault =>
    refine keeps_bind keeps_read fun r => keeps_bind (keeps_lift _) fun _ => ?_
    refine keeps_bind (keeps_wrapping (keepsRegions_onStore
      (keepsRegions_save (by decide) _ _))) fun _ => ?_
    exact keeps_modify fun _ => rfl
  | unregister id fault =>
    refine keeps_bind keeps_read fun r => ?_
    cases r.workers.lookup id with
    | none => exact keeps_fail _
    | some =>
      refine keeps_bind (keeps_wrapping (keepsRegions_onWorker _ _)) fun _ => ?_
      refine keeps_bind (keeps_wrapping (keepsRegions_onStore
        (keepsRegions_delete (by decide) fault id))) fun _ => ?_
      exact keeps_modify fun _ => rfl
  | handleTask task viewFault outside second =>
    refine keeps_bind keeps_read fun r => keeps_bind (keeps_lift _) fun _ => ?_
    refine keeps_bind (keeps_lift _) fun _ => keeps_bind (keeps_forM fun item => ?_) fun _ => ?_
    · refine keeps_bind (keeps_wrapping (keepsChannel _ _ _)) fun channel => ?_
      refine keeps_bind keeps_read fun r => keeps_bind (keeps_modify fun _ => rfl) fun _ => ?_
      exact keeps_bind (keepsRegions_onWorker _ _) fun _ => keepsRegions_onWorker _ _
    · exact keeps_forM fun item => keeps_wrapping (keepsRegions_onWorker _ _)
  | sendMessage msg outside =>
    refine keeps_bind keeps_read fun r => keeps_bind (keeps_lift _) fun _ => ?_
    refine keeps_bind (keeps_lift _) fun _ => ?_
    refine keeps_bind (keeps_wrapping (keepsChannel _ _ _)) fun channel => ?_
    refine keeps_bind (keeps_wrapping (keeps_lift _)) fun _ => ?_
    exact keeps_bind (keepsRegions_onWorker _ _) fun _ => keepsRegions_onWorker _ _
  | process =>
    refine keeps_bind keeps_read fun r => ?_
    split
    · exact keepsRegions_onWorker _ _
    · exact keeps_pure _

end Registry

namespace RegionRegistry

variable {State : Type} {codecs : Codecs State}

/-! ## The record of a region -/

def Recorded (regionID : Bytes) (c : RegionRegistry) : Prop :=
  c.base.regions regionID ≠ none

variable {regionID : Bytes}

theorem maintains_onRegistry {α : Type} {call : Call Registry α}
    (keeps : Call.Keeps Registry.regions call) :
    Call.Maintains (Recorded regionID) (onRegistry call) := by
  intro c recorded
  have same : (onRegistry call c).2.base.regions = c.base.regions := keeps c.registry
  rwa [Recorded, same]

/-- Saving a region does not remove a record. -/
theorem maintains_saveRegion (fault : Option GoError) (region : Region) (regionID : Bytes) :
    Call.Maintains (Recorded regionID) (onBase (saveRegion codecs fault region)) := by
  intro c recorded
  by_cases writes : ∃ data, fault = none ∧ codecs.region.marshal region = .ok data
  · obtain ⟨data, rfl, marshalled⟩ := writes
    have saved : saveRegion codecs none region c.base = _ := save_of_ok marshalled
    rw [onBase_of_eq saved]
    change BaseStorage.regions (c.base.insert (recordKey .region region.id) data) regionID ≠ none
    rw [regions_insert_region]
    by_cases same : regionID = region.id
    · rw [same, Function.update_self]
      exact nofun
    · rw [Function.update_of_ne same]
      exact recorded
  · have fails (data : Bytes) :
        ¬ (fault = none ∧ codecs.region.marshal region = .ok data) :=
      fun both => writes ⟨data, both⟩
    obtain ⟨error, failed⟩ :
        ∃ error, saveRegion codecs fault region c.base = (.err error, c.base) := save_of_not fails
    rw [onBase_of_eq failed]
    exact recorded

/-- **No call removes the record of a region.** -/
theorem maintains_recorded (request : Request) (regionID : Bytes) :
    Call.Maintains (Recorded regionID) (request.call codecs) := by
  cases request with
  | onWorkers request => exact maintains_onRegistry (Registry.keepsRegions_call codecs request)
  | stop order => exact maintains_onRegistry (Registry.keepsRegions_stop order)
  | getSecureChannel outside worker1 worker2 =>
    refine maintains_bind (maintains_onRegistry (Registry.keepsRegions_onStore
      (keepsRegions_getSecureChannel outside worker1 worker2))) fun _ => maintains_pure _
  | registerRegion faults created now otherID =>
    refine maintains_bind (maintains_lift _) fun _ => ?_
    refine maintains_bind (fun c recorded => ?_) fun _ => ?_
    · rcases checkNew_cases faults.load otherID c with ⟨-, passed⟩ | ⟨-, error, refused⟩
      · rwa [passed]
      · rwa [refused]
    refine maintains_bind (fun _ recorded => recorded) fun c => ?_
    refine maintains_bind (maintains_lift _) fun _ => ?_
    refine maintains_bind (maintains_wrapping
      (maintains_saveRegion faults.save _ regionID)) fun _ => ?_
    refine maintains_bind (maintains_wrapping (maintains_onRegistry
      (Registry.keepsRegions_onStore (keepsRegions_getSecureChannel _ _ _)))) fun channel => ?_
    exact fun _ recorded => recorded

variable {c : RegionRegistry}

/-- A region that was registered has a record from then on. -/
theorem recorded_after {faults : RegionFaults} {created now : Time} {teeWorkers : Bytes × Bytes}
    (registered : (registerRegion codecs faults created now regionID teeWorkers c).1 = .ok ())
    (requests : List Request) :
    Recorded regionID (Call.after (Request.call codecs)
      (registerRegion codecs faults created now regionID teeWorkers c).2 requests) := by
  refine run_preserves (fun c request => maintains_recorded request regionID c) ?_ requests
  by_cases stops : ∀ data, ¬ Saves codecs faults created regionID teeWorkers c data
  · obtain ⟨error, failed⟩ := registerRegion_of_not_saves now stops
    rw [failed] at registered
    cases registered
  push Not at stops
  obtain ⟨data, saves⟩ := stops
  rcases registerRegion_of_saves now saves with
    ⟨-, channel, store, returned, stored⟩ | ⟨-, error, failed⟩
  · rw [returned]
    have present : store.regions regionID = some data := stored
    exact fun absent => by cases present.symm.trans absent
  · rw [failed] at registered
    cases registered

/-! ## The next life -/

/-- The region has a record and no pair. -/
structure Lost (regionID : Bytes) (c : RegionRegistry) : Prop where
  recorded : Recorded regionID c
  unpaired : GoMap.get c.teePairs regionID = []

/-- A region with a record is not registered again, -/
theorem Lost.registerRegion (lost : Lost regionID c) {faults : RegionFaults} {created now : Time}
    {teeWorkers : Bytes × Bytes}
    (honest : (Request.registerRegion faults created now regionID teeWorkers).Honest codecs c) :
    ∃ error, registerRegion codecs faults created now regionID teeWorkers c = (.err error, c) :=
  registerRegion_of_not_saves now fun _ saves => lost.recorded (honest.mp saves.reported)

/-- so it stays without a pair, -/
theorem Lost.call (lost : Lost regionID c) {request : Request} (honest : request.Honest codecs c) :
    Lost regionID (request.call codecs c).2 where
  recorded := maintains_recorded request regionID c lost.recorded
  unpaired := by
    cases request with
    | onWorkers | stop => exact lost.unpaired
    | getSecureChannel outside worker1 worker2 =>
      have keeps : Call.Keeps (fun c : RegionRegistry => GoMap.get c.teePairs regionID)
          (Request.call codecs (.getSecureChannel outside worker1 worker2)) :=
        keeps_bind (fun _ => rfl) fun _ => keeps_pure ()
      exact (keeps c).trans lost.unpaired
    | registerRegion faults created now otherID teeWorkers =>
      by_cases same : regionID = otherID
      · subst same
        obtain ⟨error, failed⟩ := lost.registerRegion honest
        rw [Request.call, failed]
        exact lost.unpaired
      · have keeps : Call.Keeps (fun c : RegionRegistry => GoMap.get c.teePairs regionID)
            (RegionRegistry.registerRegion codecs faults created now otherID teeWorkers) := by
          refine keeps_bind (keeps_lift _) fun _ => keeps_bind (fun c => ?_) fun _ => ?_
          · rcases checkNew_cases faults.load otherID c with ⟨-, passed⟩ | ⟨-, error, refused⟩
            · rw [passed]
            · rw [refused]
          refine keeps_bind keeps_read fun c => keeps_bind (keeps_lift _) fun _ => ?_
          refine keeps_bind (keeps_wrapping fun _ => rfl) fun _ => ?_
          refine keeps_bind (keeps_wrapping fun _ => rfl) fun channel => ?_
          exact keeps_modify fun c => GoMap.get_insert_of_ne _ _ same
        exact (keeps c).trans lost.unpaired

/-- and cannot be used. -/
theorem Lost.not_usable (lost : Lost regionID c) (teeWorkers : Bytes × Bytes) :
    getTEEPair regionID c = .error errRegionNotFound ∧ ¬ Usable codecs regionID teeWorkers c := by
  have unpaired : getTEEPair regionID c = .error errRegionNotFound := by
    rw [getTEEPair, lost.unpaired]
  refine ⟨unpaired, ?_⟩
  rintro (paired | ⟨faults, created, now, honest, registered, -⟩)
  · rw [unpaired] at paired
    cases paired
  · obtain ⟨error, failed⟩ := lost.registerRegion honest
    rw [failed] at registered
    cases registered

/-- **Regions do not survive a restart.** A region that was registered in some life of the
coordinator has, in every state that a new one over the storage reaches, no pair and cannot be
registered, whether the two workers are registered again or not. -/
theorem not_usable_after_restart {minWorkers minWorkers' : ℤ} {store : BaseStorage}
    {earlier between later : List Request} {faults : RegionFaults} {created now : Time}
    {regionID : Bytes} {teeWorkers : Bytes × Bytes}
    (registered : (registerRegion codecs faults created now regionID teeWorkers
      (Call.after (Request.call codecs) (new minWorkers store) earlier)).1 = .ok ())
    (honest : Along (fun c request => (Request.call codecs request c).2)
      (fun c request => request.Honest codecs c)
      (restart minWorkers' (Call.after (Request.call codecs) (new minWorkers store)
        (earlier ++ .registerRegion faults created now regionID teeWorkers :: between))) later) :
    let c := Call.after (Request.call codecs)
      (restart minWorkers' (Call.after (Request.call codecs) (new minWorkers store)
        (earlier ++ .registerRegion faults created now regionID teeWorkers :: between))) later
    getTEEPair regionID c = .error errRegionNotFound ∧ ¬ Usable codecs regionID teeWorkers c := by
  intro c
  have recorded := recorded_after registered between
  have lost : Lost regionID c := by
    refine run_along (fun c request honest lost => lost.call honest) ?_ honest
    rw [after_append]
    exact ⟨recorded, rfl⟩
  exact lost.not_usable teeWorkers

/-- `json.Marshal` and `json.Unmarshal` at the region `r` and the workers `a` and `b`. -/
def codecsABR : Codecs Unit :=
  { codecsAB with region := codecsR.region }

def registerAB : List Request :=
  Registry.registerAB.map .onWorkers

def unknown : RegionFaults where
  load := some (.new signerErrNotFound "not found")
  save := none
  channel := ⟨some (.new signerErrNotFound "not found"), none, .ok []⟩

/-- A coordinator with the region `r` of `a` and `b`, a new one over its storage, and the workers
again. -/
def secondLife : RegionRegistry :=
  Call.after (Request.call codecsABR)
    (restart 2 (Call.after (Request.call codecsABR) (new 2 ∅) (registerAB ++
      [.registerRegion unknown Time.zero Time.zero (ascii "r") (ascii "a", ascii "b")]))) registerAB

theorem not_usable_secondLife :
    getTEEPair (ascii "r") secondLife = .error errRegionNotFound ∧
      ¬ Usable codecsABR (ascii "r") (ascii "a", ascii "b") secondLife :=
  not_usable_after_restart (by decide +kernel)
    (along_cons trivial (along_cons trivial (along_nil _ _ _)))

/-- Both workers are there again, and the region is neither there nor can it be registered. -/
theorem region_lost_secondLife :
    (registerRegion codecsABR unknown Time.zero Time.zero (ascii "r") (ascii "a", ascii "b")
        (Call.after (Request.call codecsABR) (new 2 ∅) registerAB)).1 = .ok () ∧
      (ascii "a" ∈ secondLife.registry.workers ∧ ascii "b" ∈ secondLife.registry.workers) ∧
      getTEEPair (ascii "r") secondLife = .error errRegionNotFound ∧
      (registerRegion codecsABR sound Time.zero Time.zero (ascii "r") (ascii "a", ascii "b")
          secondLife).1 =
        .err (.plain (ascii "region " ++ ascii "r" ++ ascii " already exists")) := by
  decide +kernel

end RegionRegistry

end Coordination

end Aristo
