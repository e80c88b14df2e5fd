import Aristo.Base.Blocking
import Aristo.Coordination.Workers

/-!
# Registering regions and TEE pairs

`RegisterRegion`, `GetTEEPair` and `RegisterTEEPair` of `coordination/coordinator.go`.
`RegisterRegion` saves the region before it gets the channel of its workers, and does not delete it
again when there is none (`registersRegion_iff`).  `RegisterTEEPair` takes the lock of the
coordinator and calls `RegisterWorker`, which takes it again (`registerTEEPair_waits`).
-/

namespace Aristo

open GoBase Finmap Call

namespace Coordination

open StorageWrapper

def errRegionNotFound : GoError :=
  .new ⟨"coordination", "ErrRegionNotFound"⟩ "region not found"

/-- `Coordinator`, as far as workers, regions and pairs are concerned. -/
structure RegionRegistry where
  registry : Registry
  teePairs : GoMap Bytes (List TEEPairInfo)

namespace RegionRegistry

variable {State : Type} (codecs : Codecs State)

def base (c : RegionRegistry) : BaseStorage := c.registry.store

def onRegistry {α : Type} (call : Call Registry α) : Call RegionRegistry α :=
  Call.focus RegionRegistry.registry (fun c registry => { c with registry }) call

def onBase {α : Type} (call : Call BaseStorage α) : Call RegionRegistry α :=
  onRegistry (Registry.onStore call)

def withBase (c : RegionRegistry) (store : BaseStorage) : RegionRegistry :=
  { c with registry := { c.registry with store } }

theorem onBase_of_eq {α : Type} {call : Call BaseStorage α} {c : RegionRegistry}
    {outcome : Outcome α} {store : BaseStorage} (h : call c.base = (outcome, store)) :
    onBase call c = (outcome, c.withBase store) := by
  rw [onBase, onRegistry, Call.focus, Registry.onStore_of_eq h]
  rfl

/-- What goes wrong in the storage during `RegisterRegion`. -/
structure RegionFaults where
  load : Option GoError
  save : Option GoError
  channel : Outside

def newRegion (regionID : Bytes) (teeWorkers : Bytes × Bytes) (created : Time) : Region where
  id := regionID
  workers := teeWorkers
  createdAt := created
  status := []
  maxObjects := 0
  maxEvents := 0

def pairInfo (teeWorkers : Bytes × Bytes) (channel : SecureChannel) (now : Time) : TEEPairInfo where
  id := teeWorkers.1 ++ ascii "-" ++ teeWorkers.2
  sgxWorker := teeWorkers.1
  sevWorker := teeWorkers.2
  channel := some channel.record
  taskCount := 0
  lastUsed := now

def appendPair (regionID : Bytes) (info : TEEPairInfo) (c : RegionRegistry) : RegionRegistry :=
  { c with teePairs := c.teePairs.insert regionID (GoMap.get c.teePairs regionID ++ [info]) }

def checkNew (fault : Option GoError) (regionID : Bytes) : Call RegionRegistry Unit := do
  match ← Call.attempt (onBase (loadRegion codecs fault regionID)) with
  | .ok _ => Call.fail (.plain (ascii "region " ++ regionID ++ ascii " already exists"))
  | .error error =>
    Call.lift (refuse (¬ error.is signerErrNotFound)
      (error.wrap (ascii "failed to check existing region")))

def checkWorkers (teeWorkers : Bytes × Bytes) (c : RegionRegistry) : Except GoError Unit :=
  forM [teeWorkers.1, teeWorkers.2] fun workerID =>
    refuse (workerID ∉ c.registry.workers)
      (.plain (ascii "worker " ++ workerID ++ ascii " not found"))

/-- `RegisterRegion`.  Its workers are an array of two, so the check of their number passes. -/
def registerRegion (faults : RegionFaults) (created now : Time) (regionID : Bytes)
    (teeWorkers : Bytes × Bytes) : Call RegionRegistry Unit := do
  Call.lift (refuse (regionID = []) (.plain (ascii "invalid region ID")))
  checkNew codecs faults.load regionID
  let c ← Call.read
  Call.lift (checkWorkers teeWorkers c)
  Call.wrapping (ascii "failed to save region")
    (onBase (saveRegion codecs faults.save (newRegion regionID teeWorkers created)))
  let channel ← Call.wrapping (ascii "failed to establish secure channel")
    (onBase (getSecureChannel faults.channel teeWorkers.1 teeWorkers.2))
  Call.modify (appendPair regionID (pairInfo teeWorkers channel now))

def getTEEPair (regionID : Bytes) (c : RegionRegistry) : Except GoError (Bytes × Bytes) :=
  match GoMap.get c.teePairs regionID with
  | [] => .error errRegionNotFound
  | pair :: _ => .ok (pair.sgxWorker, pair.sevWorker)

/-! ## What a call does -/

variable {codecs}

variable (codecs) in
/-- The storage reports the region as absent, with the error that the check looks for. -/
def Reported (fault : Option GoError) (regionID : Bytes) (c : RegionRegistry) : Prop :=
  ∃ error, (loadRegion codecs fault regionID c.base).1 = .err error ∧ error.is signerErrNotFound

/-- The check passes for a region that is reported absent, and changes nothing. -/
theorem checkNew_cases (fault : Option GoError) (regionID : Bytes) (c : RegionRegistry) :
    (Reported codecs fault regionID c ∧ checkNew codecs fault regionID c = (.ok (), c)) ∨
      (¬ Reported codecs fault regionID c ∧
        ∃ error, checkNew codecs fault regionID c = (.err error, c)) := by
  rcases load_cases codecs.region "region" fault (recordKey .region regionID) c.base with
    ⟨region, loaded⟩ | ⟨error, failed⟩
  · refine Or.inr ⟨?_, _, bind_of_ok (attempt_eq_ok_ok.mpr (onBase_of_eq loaded))⟩
    rintro ⟨error, failed, -⟩
    cases (congrArg Prod.fst loaded).symm.trans failed
  · have entered : checkNew codecs fault regionID c = _ :=
      bind_of_ok (attempt_of_err (onBase_of_eq failed))
    rw [entered]
    by_cases absent : error.is signerErrNotFound
    · refine Or.inl ⟨⟨error, congrArg Prod.fst failed, absent⟩, ?_⟩
      exact lift_eq_ok.mpr ⟨if_neg (not_not_intro absent), rfl⟩
    · refine Or.inr ⟨?_, error.wrap (ascii "failed to check existing region"), ?_⟩
      · rintro ⟨error', failed', absent'⟩
        obtain rfl := Outcome.err.inj ((congrArg Prod.fst failed).symm.trans failed')
        exact absent absent'
      · simp only [refuse_eq_error absent, lift_error]
        rfl

theorem checkWorkers_eq_ok_iff {teeWorkers : Bytes × Bytes} {c : RegionRegistry} :
    checkWorkers teeWorkers c = .ok () ↔
      teeWorkers.1 ∈ c.registry.workers ∧ teeWorkers.2 ∈ c.registry.workers := by
  rw [checkWorkers, forM_eq_ok_iff]
  simp [refuse_eq_ok]

variable (codecs) in
/-- The call passes its checks and saves the region. -/
structure Saves (faults : RegionFaults) (created : Time) (regionID : Bytes)
    (teeWorkers : Bytes × Bytes) (c : RegionRegistry) (data : Bytes) : Prop where
  named : regionID ≠ []
  reported : Reported codecs faults.load regionID c
  registered : teeWorkers.1 ∈ c.registry.workers ∧ teeWorkers.2 ∈ c.registry.workers
  works : faults.save = none
  marshalled : codecs.region.marshal (newRegion regionID teeWorkers created) = .ok data

section Register

variable {faults : RegionFaults} {created : Time} (now : Time) {regionID data : Bytes}
  {teeWorkers : Bytes × Bytes} {c : RegionRegistry}

/-- A call that does not come to save the region changes nothing. -/
theorem registerRegion_of_not_saves
    (stops : ∀ data, ¬ Saves codecs faults created regionID teeWorkers c data) :
    ∃ error, registerRegion codecs faults created now regionID teeWorkers c = (.err error, c) := by
  unfold registerRegion
  by_cases named : regionID = []
  · exact ⟨_, refuse_bind_of named⟩
  rw [refuse_bind_of_not named]
  rcases checkNew_cases faults.load regionID c with ⟨reported, passed⟩ | ⟨-, error, refused⟩
  swap
  · exact ⟨error, bind_of_err refused⟩
  rw [bind_of_ok passed, bind_of_ok (read_apply c)]
  cases checked : checkWorkers teeWorkers c with
  | error error => exact ⟨error, lift_bind_of_error rfl⟩
  | ok _ =>
    rw [lift_bind_of_ok rfl]
    have registered := checkWorkers_eq_ok_iff.mp checked
    have unsaved (data : Bytes) : ¬ (faults.save = none ∧
        codecs.region.marshal (newRegion regionID teeWorkers created) = .ok data) :=
      fun ⟨works, marshalled⟩ =>
        stops data ⟨named, reported, registered, works, marshalled⟩
    obtain ⟨error, failed⟩ : ∃ error, saveRegion codecs faults.save
        (newRegion regionID teeWorkers created) c.base = (.err error, c.base) :=
      save_of_not unsaved
    exact ⟨_, bind_of_err (wrapping_of_err (onBase_of_eq failed))⟩

def saved (regionID data : Bytes) (c : RegionRegistry) : RegionRegistry :=
  c.withBase (c.base.insert (recordKey .region regionID) data)

theorem lookup_saved (regionID data : Bytes) (c : RegionRegistry) :
    (saved regionID data c).base.lookup (recordKey .region regionID) = some data :=
  lookup_insert _

/-- A region that is saved stays saved, whether there is a channel or not. -/
theorem registerRegion_of_saves
    (saves : Saves codecs faults created regionID teeWorkers c data) :
    (ChannelReady faults.channel teeWorkers.1 teeWorkers.2 c.base ∧ ∃ channel store,
      registerRegion codecs faults created now regionID teeWorkers c =
        (.ok (), appendPair regionID (pairInfo teeWorkers channel now) (c.withBase store)) ∧
      store.lookup (recordKey .region regionID) = some data) ∨
    (¬ ChannelReady faults.channel teeWorkers.1 teeWorkers.2 c.base ∧
      ∃ error, registerRegion codecs faults created now regionID teeWorkers c =
        (.err error, saved regionID data c)) := by
  have same : ChannelReady faults.channel teeWorkers.1 teeWorkers.2 (saved regionID data c).base ↔
      ChannelReady faults.channel teeWorkers.1 teeWorkers.2 c.base := by
    refine channelReady_congr fun id => lookup_insert_of_ne _ fun same => ?_
    cases (recordKey_inj same).1
  have written : saveRegion codecs faults.save (newRegion regionID teeWorkers created) c.base =
      (.ok (), c.base.insert (recordKey .region regionID) data) := by
    rw [saves.works]
    exact save_of_ok saves.marshalled
  unfold registerRegion
  rw [refuse_bind_of_not saves.named]
  rcases checkNew_cases faults.load regionID c with ⟨-, passed⟩ | ⟨unreported, -⟩
  swap
  · exact absurd saves.reported unreported
  rw [bind_of_ok passed, bind_of_ok (read_apply c),
    lift_bind_of_ok (checkWorkers_eq_ok_iff.mpr saves.registered),
    bind_of_ok (wrapping_of_ok (onBase_of_eq written)), ← same]
  rcases getSecureChannel_cases faults.channel teeWorkers.1 teeWorkers.2
    (saved regionID data c).base with
    ⟨ready, channel, store, returned, others⟩ | ⟨unready, error, failed⟩
  · refine Or.inl ⟨ready, channel, store, ?_, ?_⟩
    · exact bind_of_ok (wrapping_of_ok (onBase_of_eq returned))
    · rw [others .region regionID (by decide), lookup_saved]
  · exact Or.inr ⟨unready, _, bind_of_err (wrapping_of_err (onBase_of_eq failed))⟩

/-- The first pair of a region is the one that is returned. -/
theorem getTEEPair_appendPair (channel : SecureChannel) :
    getTEEPair regionID (appendPair regionID (pairInfo teeWorkers channel now) c) =
        .ok teeWorkers ↔
      ∀ other, getTEEPair regionID c = .ok other → other = teeWorkers := by
  rw [getTEEPair, getTEEPair, appendPair, GoMap.get_insert_self]
  cases GoMap.get c.teePairs regionID with
  | nil => simp [pairInfo]
  | cons => simp

end Register

/-! ## All or nothing -/

variable (codecs) in
/-- An error leaves the regions and the pairs as they were; nil means that the region is stored and
has the given workers. -/
structure RegistersRegion (faults : RegionFaults) (created now : Time) (regionID : Bytes)
    (teeWorkers : Bytes × Bytes) (c : RegionRegistry) : Prop where
  failed : (registerRegion codecs faults created now regionID teeWorkers c).1.Failed →
    (∀ id, (registerRegion codecs faults created now regionID teeWorkers c).2.base.lookup
        (recordKey .region id) = c.base.lookup (recordKey .region id)) ∧
      (registerRegion codecs faults created now regionID teeWorkers c).2.teePairs = c.teePairs
  succeeded : (registerRegion codecs faults created now regionID teeWorkers c).1.Succeeded →
    (∃ data, codecs.region.marshal (newRegion regionID teeWorkers created) = .ok data ∧
      (registerRegion codecs faults created now regionID teeWorkers c).2.base.lookup
        (recordKey .region regionID) = some data) ∧
      getTEEPair regionID (registerRegion codecs faults created now regionID teeWorkers c).2 =
        .ok teeWorkers

/-- **When a registration is all or nothing**: when nothing is saved; when there is a channel, and
the region has no pair yet or the same workers; or when the same record was there already. -/
theorem registersRegion_iff (faults : RegionFaults) (created now : Time) (regionID : Bytes)
    (teeWorkers : Bytes × Bytes) (c : RegionRegistry) :
    RegistersRegion codecs faults created now regionID teeWorkers c ↔
      ∀ data, Saves codecs faults created regionID teeWorkers c data →
        (ChannelReady faults.channel teeWorkers.1 teeWorkers.2 c.base ∧
            ∀ other, getTEEPair regionID c = .ok other → other = teeWorkers) ∨
          (¬ ChannelReady faults.channel teeWorkers.1 teeWorkers.2 c.base ∧
            c.base.lookup (recordKey .region regionID) = some data) := by
  constructor
  · intro law data saves
    rcases registerRegion_of_saves now saves with
      ⟨ready, channel, store, returned, -⟩ | ⟨unready, error, returned⟩
    · have succeeded := law.succeeded
      rw [returned] at succeeded
      exact Or.inl ⟨ready, (getTEEPair_appendPair now channel).mp (succeeded trivial).2⟩
    · have failed := law.failed
      rw [returned] at failed
      refine Or.inr ⟨unready, ?_⟩
      rw [← (failed trivial).1 regionID, lookup_saved]
  · intro settled
    by_cases stops : ∀ data, ¬ Saves codecs faults created regionID teeWorkers c data
    · obtain ⟨error, returned⟩ := registerRegion_of_not_saves now stops
      refine ⟨fun _ => ?_, fun succeeded => ?_⟩
      · rw [returned]
        exact ⟨fun _ => rfl, rfl⟩
      · rw [returned] at succeeded
        cases succeeded
    push Not at stops
    obtain ⟨data, saves⟩ := stops
    rcases registerRegion_of_saves now saves with
      ⟨ready, channel, store, returned, stored⟩ | ⟨unready, error, returned⟩
    · have free : ∀ other, getTEEPair regionID c = .ok other → other = teeWorkers :=
        (settled data saves).elim And.right fun other => absurd ready other.1
      refine ⟨fun failed => ?_, fun _ => ?_⟩
      · rw [returned] at failed
        cases failed
      · rw [returned]
        exact ⟨⟨data, saves.marshalled, stored⟩, (getTEEPair_appendPair now channel).mpr free⟩
    · have present : c.base.lookup (recordKey .region regionID) = some data :=
        (settled data saves).elim (fun other => absurd other.1 unready) And.right
      refine ⟨fun _ => ?_, fun succeeded => ?_⟩
      · rw [returned]
        have unchanged : (saved regionID data c).base = c.base :=
          (GoMap.insert_eq_self_iff).mpr present
        exact ⟨fun _ => by rw [unchanged], rfl⟩
      · rw [returned] at succeeded
        cases succeeded

def jsonR : Bytes :=
  ascii "\x7b\"id\":\"r\",\"workers\":[\"a\",\"b\"]," ++
    ascii "\"created_at\":\"0001-01-01T00:00:00Z\",\"status\":\"\"," ++
    ascii "\"meta\":\x7b\"max_objects\":0,\"max_events\":0\x7d\x7d"

def codecsR : Codecs Unit where
  worker := .nothing
  region := .only (newRegion (ascii "r") (ascii "a", ascii "b") Time.zero) jsonR
  teePair := .nothing
  metrics := .nothing
  state := .nothing

def coordinatorAB : RegionRegistry where
  registry := { Registry.new 2 ∅ with
    workers := ((∅ : GoMap Bytes Worker).insert (ascii "a")
        (Worker.registered (ascii "a") [1] Time.zero)).insert (ascii "b")
      (Worker.registered (ascii "b") [2] Time.zero) }
  teePairs := ∅

/-- There is no such region, and the channel cannot be read. -/
def unreadable : RegionFaults where
  load := some (.new signerErrNotFound "not found")
  save := none
  channel := ⟨some (.plain (ascii "disk error")), none, .ok []⟩

def sound : RegionFaults where
  load := none
  save := none
  channel := ⟨none, none, .ok []⟩

/-- The region `r` is stored by a call that fails, and cannot be registered any more. -/
theorem registerRegion_unreadable :
    registerRegion codecsR unreadable Time.zero Time.zero (ascii "r") (ascii "a", ascii "b")
        coordinatorAB =
      (.err (((GoError.plain (ascii "disk error")).wrap (ascii "failed to load channel")).wrap
          (ascii "failed to establish secure channel")),
        saved (ascii "r") jsonR coordinatorAB) ∧
      registerRegion codecsR sound Time.zero Time.zero (ascii "r") (ascii "a", ascii "b")
          (saved (ascii "r") jsonR coordinatorAB) =
        (.err (.plain (ascii "region " ++ ascii "r" ++ ascii " already exists")),
          saved (ascii "r") jsonR coordinatorAB) ∧
      ¬ RegistersRegion codecsR unreadable Time.zero Time.zero (ascii "r") (ascii "a", ascii "b")
        coordinatorAB := by
  have fails : registerRegion codecsR unreadable Time.zero Time.zero (ascii "r")
      (ascii "a", ascii "b") coordinatorAB =
      (.err (((GoError.plain (ascii "disk error")).wrap (ascii "failed to load channel")).wrap
          (ascii "failed to establish secure channel")),
        saved (ascii "r") jsonR coordinatorAB) := rfl
  refine ⟨fails, rfl, fun law => ?_⟩
  have failed := law.failed
  rw [fails] at failed
  cases (lookup_saved _ _ _).symm.trans ((failed trivial).1 (ascii "r"))

end RegionRegistry

/-! ## Locks -/

/-- `Coordinator` with its locks. -/
structure LockedRegistry where
  mu : RWMutex
  regionLock : RWMutex
  regions : RegionRegistry

structure TEEPair where
  sgxID : Bytes
  sevID : Bytes

/-- What goes wrong in the storage during `RegisterTEEPair`, and when its parts are called. -/
structure PairFaults where
  sgxSave : Option GoError
  sgxDelete : Option GoError
  sevSave : Option GoError
  sevDelete : Option GoError
  channel : Outside
  sgxCleanup : Option GoError
  sevCleanup : Option GoError
  sgxNow : Time
  sevNow : Time
  now : Time

namespace LockedRegistry

open RegionRegistry

variable {State : Type} (codecs : Codecs State)

/-- `c.mu`. -/
def muLock : Lock LockedRegistry where
  get := LockedRegistry.mu
  set s mu := { s with mu }
  get_set _ _ := rfl

/-- `c.regionLock`. -/
def pairsLock : Lock LockedRegistry where
  get := LockedRegistry.regionLock
  set s regionLock := { s with regionLock }
  get_set _ _ := rfl

def onRegions {α : Type} (call : Call RegionRegistry α) : Blocking LockedRegistry α :=
  Blocking.ofCall (Call.focus LockedRegistry.regions (fun s regions => { s with regions }) call)

def registerWorker (fault deleteFault : Option GoError) (now : Time) (id enclaveID : Bytes) :
    Blocking LockedRegistry Unit :=
  muLock.guard
    (onRegions (onRegistry (Registry.registerWorker codecs fault deleteFault now id enclaveID)))

def unregisterWorker (fault : Option GoError) (id : Bytes) : Blocking LockedRegistry Unit :=
  muLock.guard (onRegions (onRegistry (Registry.unregisterWorker fault id)))

def registerRegion (faults : RegionFaults) (created now : Time) (regionID : Bytes)
    (teeWorkers : Bytes × Bytes) : Blocking LockedRegistry Unit :=
  pairsLock.guard
    (onRegions (RegionRegistry.registerRegion codecs faults created now regionID teeWorkers))

/-- What `RegisterTEEPair` does while it holds `c.mu`. -/
def registerPair (faults : PairFaults) (regionID : Bytes) (pair : TEEPair) :
    Blocking LockedRegistry Unit := do
  Blocking.wrapping (ascii "failed to register SGX worker")
    (registerWorker codecs faults.sgxSave faults.sgxDelete faults.sgxNow pair.sgxID pair.sgxID)
  match ← Blocking.attempt
      (registerWorker codecs faults.sevSave faults.sevDelete faults.sevNow pair.sevID
        pair.sevID) with
  | .error error => do
    let _ ← Blocking.attempt (unregisterWorker faults.sgxCleanup pair.sgxID)
    onRegions (Call.fail (error.wrap (ascii "failed to register SEV worker")))
  | .ok _ =>
    match ← Blocking.attempt
        (onRegions (onBase (getSecureChannel faults.channel pair.sgxID pair.sevID))) with
    | .error error => do
      let _ ← Blocking.attempt (unregisterWorker faults.sgxCleanup pair.sgxID)
      let _ ← Blocking.attempt (unregisterWorker faults.sevCleanup pair.sevID)
      onRegions (Call.fail (error.wrap (ascii "failed to establish secure channel")))
    | .ok channel =>
      pairsLock.guard (onRegions (Call.modify
        (appendPair regionID (pairInfo (pair.sgxID, pair.sevID) channel faults.now))))

def registerTEEPair (faults : PairFaults) (regionID : Bytes) (pair : TEEPair) :
    Blocking LockedRegistry Unit :=
  muLock.guard (registerPair codecs faults regionID pair)

/-- With a lock free, a locked call is the call. -/
theorem guard_of_free {α : Type} (call : Call RegionRegistry α) (s : LockedRegistry) :
    (s.mu = .free → muLock.guard (onRegions call) s =
        some ((call s.regions).1, { s with regions := (call s.regions).2 })) ∧
      (s.regionLock = .free → pairsLock.guard (onRegions call) s =
        some ((call s.regions).1, { s with regions := (call s.regions).2 })) := by
  obtain ⟨mu, regionLock, regions⟩ := s
  constructor
  · rintro rfl
    have taken : (muLock.get ⟨.free, regionLock, regions⟩).lock = some ⟨0, true⟩ := rfl
    exact Lock.guard_ofCall taken _
  · rintro rfl
    have taken : (pairsLock.get ⟨mu, .free, regions⟩).lock = some ⟨0, true⟩ := rfl
    exact Lock.guard_ofCall taken _

/-- **Self-deadlock.**  `RegisterTEEPair` waits for the lock that it holds, for every pair and in
every state. -/
theorem registerTEEPair_waits (faults : PairFaults) (regionID : Bytes) (pair : TEEPair)
    (s : LockedRegistry) : registerTEEPair codecs faults regionID pair s = none := by
  refine Lock.guard_of_reentry (fun state held => ?_) s
  have first : registerWorker codecs faults.sgxSave faults.sgxDelete faults.sgxNow pair.sgxID
      pair.sgxID state = none := Lock.guard_of_held held _
  exact Blocking.bind_of_waits (Blocking.wrapping_of_waits _ first)

/-- Both workers are registered, their pair was added to the region, and everything else is as
before. -/
structure PairRegistered (regionID : Bytes) (pair : TEEPair) (before after : RegionRegistry) :
    Prop where
  sgx : pair.sgxID ∈ after.registry.workers
  sev : pair.sevID ∈ after.registry.workers
  appended : ∃ info, info.sgxWorker = pair.sgxID ∧ info.sevWorker = pair.sevID ∧
    GoMap.get after.teePairs regionID = GoMap.get before.teePairs regionID ++ [info]
  regions : ∀ other, other ≠ regionID →
    after.teePairs.lookup other = before.teePairs.lookup other
  workers : ∀ id, id ≠ pair.sgxID → id ≠ pair.sevID →
    after.registry.workers.lookup id = before.registry.workers.lookup id

/-- `RegisterTEEPair` comes to its end, and has registered the pair. -/
def Completes (faults : PairFaults) (regionID : Bytes) (pair : TEEPair) (s : LockedRegistry) :
    Prop :=
  ∃ after, registerTEEPair codecs faults regionID pair s = some (.ok (), after) ∧
    PairRegistered regionID pair s.regions after.regions

theorem not_completes_of_waits {faults : PairFaults} {regionID : Bytes} {pair : TEEPair}
    {s : LockedRegistry} (waits : registerTEEPair codecs faults regionID pair s = none) :
    ¬ Completes codecs faults regionID pair s := by
  rintro ⟨after, returned, -⟩
  rw [waits] at returned
  cases returned

/-- **No pair is registered**, whichever the region, the pair and the state are. -/
theorem not_completes (faults : PairFaults) (regionID : Bytes) (pair : TEEPair)
    (s : LockedRegistry) : ¬ Completes codecs faults regionID pair s :=
  not_completes_of_waits codecs (registerTEEPair_waits codecs faults regionID pair s)

def idle : LockedRegistry where
  mu := .free
  regionLock := .free
  regions := ⟨Registry.new 2 ∅, ∅⟩

def reliable : PairFaults where
  sgxSave := none
  sgxDelete := none
  sevSave := none
  sevDelete := none
  channel := ⟨none, none, .ok []⟩
  sgxCleanup := none
  sevCleanup := none
  sgxNow := Time.zero
  sevNow := Time.zero
  now := Time.zero

/-- A new coordinator registers the worker `a`, but not the pair of `a` and `b`, whatever the
encodings are. -/
theorem registerTEEPair_idle :
    (registerWorker codecsA none none Time.zero (ascii "a") [1] idle).map Prod.fst =
        some (.ok ()) ∧
      (ascii "a" ∉ idle.regions.registry.workers ∧ ascii "b" ∉ idle.regions.registry.workers) ∧
      ∀ codecs : Codecs Unit,
        registerTEEPair codecs reliable (ascii "r") ⟨ascii "a", ascii "b"⟩ idle = none ∧
          ¬ Completes codecs reliable (ascii "r") ⟨ascii "a", ascii "b"⟩ idle := by
  refine ⟨?_, ⟨notMem_empty, notMem_empty⟩, fun codecs => ?_⟩
  · rw [registerWorker, (guard_of_free _ idle).1 rfl]
    decide +kernel
  · have waits := registerTEEPair_waits codecs reliable (ascii "r") ⟨ascii "a", ascii "b"⟩ idle
    exact ⟨waits, not_completes_of_waits codecs waits⟩

end LockedRegistry

end Coordination

end Aristo
