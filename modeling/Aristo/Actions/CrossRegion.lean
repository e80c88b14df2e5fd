import Aristo.Base.Sort
import Aristo.Storage.Balance
import Aristo.XRegion.Coordinator

/-!
# Executing a cross-region intent

`CrossRegionAction` of `actions/cross_region.go`.  `Execute` validates the intent, requests range
proofs for the keys it changes, has every region confirm it, checks that every changed key is
covered by a proof and then applies the changes to `mu`.

A `Schedule` fixes, for one call, the orders in which Go visits its maps and leaves equal keys after
`sort.Slice`; `Schedule.Valid` says that they are choices Go may make.
-/

namespace Aristo

open GoBase Call XRegion List

def actionsError (name text : String) : GoError :=
  GoError.new ⟨"actions", name⟩ text

def errNilIntent : GoError :=
  actionsError "ErrNilIntent" "nil cross-region intent"

def errInvalidTimeWindow : GoError :=
  actionsError "ErrInvalidTimeWindow" "invalid time window"

def errEmptyStateChanges : GoError :=
  actionsError "ErrEmptyStateChanges" "empty state changes"

def errInvalidStateChanges : GoError :=
  actionsError "ErrInvalidStateChanges" "invalid state changes"

def errInvalidSignature : GoError :=
  actionsError "ErrInvalidSignature" "invalid signature"

def errMissingSignature : GoError :=
  actionsError "ErrMissingSignature" "missing required signature"

/-- `CrossRegionAction`; a nil `Intent` is `none`. -/
structure CrossRegionAction where
  intent : Option CrossRegionIntent

structure CrossRegionResult where
  success : Bool
deriving DecidableEq

namespace CrossRegionAction

variable {π : Type}

/-! ## Validation -/

/-- `verifySignatures`, visiting `Signatures` in `order`. -/
def verifySignatures (intent : CrossRegionIntent) (order : List Bytes) :
    Except GoError Unit := do
  refuse (intent.sourceRegion ∉ intent.signatures)
    (errMissingSignature.annotate (ascii "missing source region signature"))
  forM intent.targetRegions fun region =>
    refuse (region ∉ intent.signatures)
      (errMissingSignature.annotate (ascii "missing target region signature"))
  forM order fun region =>
    (Coordinator.verifySignature region intent.id (intent.signatures.get region)).mapError
      fun error => errInvalidSignature.annotate error.text

/-- `ValidateBasic`, visiting `StateChanges` and `Signatures` in the given orders. -/
def validateBasic (action : CrossRegionAction) (changesOrder signaturesOrder : List Bytes) :
    Except GoError Unit :=
  match action.intent with
  | none => .error errNilIntent
  | some intent => do
    refuse (intent.timeWindow.duration ≤ 0) errInvalidTimeWindow
    refuse (intent.stateChanges.len = 0) errEmptyStateChanges
    (intent.validateStateChanges changesOrder).mapError fun error =>
      errInvalidStateChanges.annotate error.text
    verifySignatures intent signaturesOrder

/-! ## Required ranges -/

structure KeyRange where
  start : Bytes
  stop : Bytes
deriving DecidableEq

/-- `key[:8]`, which panics on a shorter key. -/
def firstEight (key : Bytes) : Option Bytes :=
  if 8 ≤ key.length then some (key.take 8) else none

/-- The loop of `groupChangesByPrefix` over the keys after the first; `none` is a
panic. -/
def groupKeys (current : KeyRange) : List Bytes → Option (List KeyRange)
  | [] => some [current]
  | key :: keys => do
    let front ← firstEight key
    let currentFront ← firstEight current.stop
    if front = currentFront then
      groupKeys { current with stop := key } keys
    else
      let ranges ← groupKeys { start := key, stop := key } keys
      return current :: ranges

def groupKeysByPrefix : List Bytes → Option (List KeyRange)
  | [] => some []
  | key :: keys => groupKeys { start := key, stop := key } keys

/-- `groupChangesByPrefix`, on the list as `sort.Slice` leaves it; of a change it
reads the key only. -/
def groupChangesByPrefix (sorted : List StateChange) : Option (List KeyRange) :=
  groupKeysByPrefix (sorted.map StateChange.key)

def KeyRange.request (region : Bytes) (range : KeyRange) : RangeRequest :=
  { startKey := range.start, endKey := some range.stop, regionID := region }

/-! ## Execution -/

/-- What `Execute` reads and writes: the receiver's intent, the mutable state and
the coordinator's store. -/
structure World (π : Type) where
  intent : Option CrossRegionIntent
  mu : Mutable
  store : State.MerkleStore π

/-- The choices Go makes in one call of `Execute`. -/
structure Schedule (π : Type) where
  /-- The order in which `ValidateStateChanges` visits the regions. -/
  validate : List Bytes
  /-- The order in which `verifySignatures` visits the signatures. -/
  signatures : List Bytes
  /-- The order in which `getRequiredRanges` visits the regions. -/
  ranges : List Bytes
  /-- What `sort.Slice` leaves of each region's list. -/
  sorted : Bytes → List StateChange
  /-- The order in which the eviction of the `n`-th request visits the roots. -/
  evict : ℕ → State.CacheEntries π → List State.ID
  /-- The order in which the regions are collected for confirmation. -/
  confirm : List Bytes
  /-- The order in which the coverage check visits the regions. -/
  verify : List Bytes
  /-- The order in which the apply loop visits the regions. -/
  apply : List Bytes

/-- The choices are choices Go may make for this intent. -/
structure Schedule.Valid (schedule : Schedule π) (intent : CrossRegionIntent) : Prop where
  validate : intent.stateChanges.Visits schedule.validate
  signatures : intent.signatures.Visits schedule.signatures
  ranges : intent.stateChanges.Visits schedule.ranges
  sorted : ∀ region,
    SortedBy StateChange.key (intent.stateChanges.get region) (schedule.sorted region)
  evict : ∀ request entries, GoMap.Visits entries (schedule.evict request entries)
  confirm : intent.stateChanges.Visits schedule.confirm
  verify : intent.stateChanges.Visits schedule.verify
  apply : intent.stateChanges.Visits schedule.apply

/-- `a.Intent`, dereferenced. -/
def receiver : Call (World π) CrossRegionIntent := do
  let world ← Call.read
  match world.intent with
  | none => Call.crash
  | some intent => return intent

def sortChanges (region : Bytes) (sorted : List StateChange) : Call (World π) Unit :=
  Call.modify fun world =>
    { world with intent := world.intent.map fun intent =>
        { intent with stateChanges := intent.stateChanges.insert region sorted } }

/-- The body of the loop of `getRequiredRanges`. -/
def addRanges (schedule : Schedule π) (ranges : List RangeRequest) (region : Bytes) :
    Call (World π) (List RangeRequest) := do
  let intent ← receiver
  if intent.stateChanges.get region = [] then
    return ranges
  else
    sortChanges region (schedule.sorted region)
    match groupChangesByPrefix (schedule.sorted region) with
    | none => Call.crash
    | some keyRanges =>
      return ranges ++ keyRanges.map (KeyRange.request region)

def getRequiredRanges (schedule : Schedule π) : Call (World π) (List RangeRequest) :=
  schedule.ranges.foldlM (addRanges schedule) []

abbrev Proofs (π : Type) := GoMap Bytes (RangeResponse π)

/-- The body of the loop that requests the proofs.  A region's later range replaces
its earlier one. -/
def requestProof (evict : ℕ → State.CacheEntries π → List State.ID) (proofs : Proofs π)
    (request : RangeRequest × ℕ) : Call (State.MerkleStore π) (Proofs π) := do
  let response ← Call.wrapping (ascii "failed to get range proof")
    (Coordinator.requestRangeProof (evict request.2) request.1)
  return proofs.insert request.1.regionID response

/-- The loop that requests a proof for every range. -/
def requestProofs (evict : ℕ → State.CacheEntries π → List State.ID)
    (ranges : List RangeRequest) : Call (State.MerkleStore π) (Proofs π) :=
  ranges.zipIdx.foldlM (requestProof evict) ∅

/-- The coverage check of one region. -/
def verifyRegion (intent : CrossRegionIntent) (proofs : Proofs π) (region : Bytes) :
    Except GoError Unit :=
  if intent.stateChanges.get region = [] then
    .ok ()
  else
    match proofs.lookup region with
    | none => .error (.plain (ascii "missing proof for region " ++ region))
    | some response =>
      forM (intent.stateChanges.get region) fun change =>
        refuse (change.key ∉ response.proof.entries)
          (.plain (ascii "state change not covered by proof for region " ++ region))

def applyChange (change : StateChange) : Call Mutable Unit :=
  if change.operation = .set then
    Call.wrapping (ascii "failed to set state") (Mutable.insert change.key change.value)
  else if change.operation = .transferOut then
    Call.wrapping (ascii "failed to remove state") (Mutable.remove change.key)
  else
    return ()

def onStore {α : Type} (call : Call (State.MerkleStore π) α) : Call (World π) α :=
  Call.focus World.store (fun world store => { world with store }) call

def onMu {α : Type} (call : Call Mutable α) : Call (World π) α :=
  Call.focus World.mu (fun world mu => { world with mu }) call

/-- `Execute` up to its apply loop. -/
def prepare (schedule : Schedule π) (ctx : Option Context) : Call (World π) Unit := do
  let world ← Call.read
  Call.lift (validateBasic ⟨world.intent⟩ schedule.validate schedule.signatures)
  let processor ← Call.wrapping (ascii "failed to create region processor")
    (Call.lift (RegionProcessor.new 4))
  let ranges ← getRequiredRanges schedule
  let proofs ← onStore (requestProofs schedule.evict ranges)
  let intent ← receiver
  let regions := schedule.confirm.filter fun region => intent.stateChanges.get region ≠ []
  let signature ← Call.wrapping (ascii "failed to sign intent")
    (Call.lift (Coordinator.sign intent.id))
  Call.wrapping (ascii "failed to process regions")
    (Call.lift (processor.processRegions ctx intent.id regions signature))
  Call.lift (forM schedule.verify (verifyRegion intent proofs))

def applyChanges (schedule : Schedule π) : Call (World π) Unit := do
  let intent ← receiver
  onMu (forM schedule.apply fun region =>
    forM (intent.stateChanges.get region) applyChange)

def execute (schedule : Schedule π) (ctx : Option Context) :
    Call (World π) CrossRegionResult := do
  prepare schedule ctx
  applyChanges schedule
  return { success := true }

/-! ## What a successful call has done -/

/-- The writes of one change: of the six operations only `StateOpSet` and
`StateOpTransferOut` write. -/
def writes (change : StateChange) : List (Write Bytes Bytes) :=
  if change.operation = .set then [(change.key, some change.value)]
  else if change.operation = .transferOut then [(change.key, none)]
  else []

/-- The writes of the apply loop, in order. -/
def applyLog (schedule : Schedule π) : List (Write Bytes Bytes) :=
  (schedule.apply.flatMap schedule.sorted).flatMap writes

/-- Applying a change never fails. -/
theorem applyChange_apply (change : StateChange) (mu : Mutable) :
    applyChange change mu = (.ok (), applyWrites mu (writes change)) := by
  unfold applyChange writes
  by_cases set : change.operation = .set
  · simp [set, Call.wrapping, Mutable.insert, KeyValue.insert]
  · by_cases out : change.operation = .transferOut
    · simp [out, Call.wrapping, Mutable.remove, KeyValue.remove]
    · simp [set, out]

/-- The ranges of the regions in `order`, whose keys are `keys`. -/
def requiredRanges (keys : Bytes → List Bytes) : List Bytes → Option (List RangeRequest)
  | [] => some []
  | region :: order => do
    let keyRanges ← groupKeysByPrefix (keys region)
    let later ← requiredRanges keys order
    return keyRanges.map (KeyRange.request region) ++ later

/-- The intent with the lists of the regions in `order` sorted in place. -/
def sortAll (sorted : Bytes → List StateChange) (order : List Bytes)
    (intent : CrossRegionIntent) : CrossRegionIntent :=
  order.foldl
    (fun intent region =>
      if intent.stateChanges.get region = [] then intent
      else { intent with stateChanges := intent.stateChanges.insert region (sorted region) })
    intent

/-- Sorting leaves no list empty that was not and none non-empty that was. -/
def SameEmpty (sorted : Bytes → List StateChange) (intent : CrossRegionIntent) : Prop :=
  ∀ region, intent.stateChanges.get region = [] ↔ sorted region = []

variable {sorted : Bytes → List StateChange} {intent : CrossRegionIntent}

/-- Putting a sorted list in its place keeps this. -/
theorem SameEmpty.insert (same : SameEmpty sorted intent) (region : Bytes) :
    SameEmpty sorted { intent with
      stateChanges := intent.stateChanges.insert region (sorted region) } := by
  intro other
  by_cases equal : other = region
  · subst equal
    simp
  · simpa [GoMap.get_insert_of_ne _ _ equal] using same other

/-- The intent keeps its ID. -/
@[simp] theorem sortAll_id (sorted : Bytes → List StateChange) (order : List Bytes)
    (intent : CrossRegionIntent) : (sortAll sorted order intent).id = intent.id := by
  induction order generalizing intent with
  | nil => rfl
  | cons region order ih =>
    rw [sortAll, foldl_cons, ← sortAll, ih]
    split <;> rfl

theorem get_sortAll (same : SameEmpty sorted intent) (order : List Bytes) (region : Bytes) :
    (sortAll sorted order intent).stateChanges.get region =
      if region ∈ order then sorted region else intent.stateChanges.get region := by
  induction order generalizing intent with
  | nil => simp [sortAll]
  | cons first order ih =>
    rw [sortAll, foldl_cons, ← sortAll]
    by_cases empty : intent.stateChanges.get first = []
    · rw [if_pos empty, ih same]
      by_cases equal : region = first
      · subst equal
        simp [empty, (same region).mp empty]
      · simp [equal]
    · rw [if_neg empty, ih (same.insert first)]
      by_cases equal : region = first
      · subst equal
        simp
      · simp [equal, GoMap.get_insert_of_ne _ _ equal]

variable {world after : World π}

/-- The intent is read when there is one. -/
theorem receiver_eq_ok :
    receiver world = (.ok intent, after) ↔ world.intent = some intent ∧ after = world := by
  unfold receiver
  rw [bind_of_ok (read_apply world)]
  cases h : world.intent with
  | none => simp
  | some => simp [eq_comm]

theorem sortChanges_apply (here : world.intent = some intent) (region : Bytes)
    (sorted : List StateChange) :
    sortChanges region sorted world =
      (.ok (), { world with intent := some { intent with
        stateChanges := intent.stateChanges.insert region sorted } }) := by
  simp [sortChanges, here]

variable {schedule : Schedule π}

/-- **One region** is sorted and adds its ranges. -/
theorem addRanges_eq_ok (here : world.intent = some intent)
    (same : SameEmpty schedule.sorted intent) {ranges result : List RangeRequest} {region : Bytes} :
    addRanges schedule ranges region world = (.ok result, after) ↔
      ∃ keyRanges, groupChangesByPrefix (schedule.sorted region) = some keyRanges ∧
        result = ranges ++ keyRanges.map (KeyRange.request region) ∧
        after = { world with intent := some (sortAll schedule.sorted [region] intent) } := by
  unfold addRanges
  rw [bind_of_ok (receiver_eq_ok.mpr ⟨here, rfl⟩)]
  -- a region without changes is skipped before its list is sorted
  by_cases empty : intent.stateChanges.get region = []
  · have nothing : groupChangesByPrefix (schedule.sorted region) = some [] := by
      rw [(same region).mp empty]
      rfl
    have unsorted : sortAll schedule.sorted [region] intent = intent := by
      simp [sortAll, empty]
    have untouched : { world with intent := some intent } = world := by rw [← here]
    simp only [if_pos empty, nothing, unsorted, untouched]
    simp [eq_comm]
  · have sorted : sortAll schedule.sorted [region] intent =
        { intent with
          stateChanges := intent.stateChanges.insert region (schedule.sorted region) } := by
      simp [sortAll, empty]
    simp only [if_neg empty]
    rw [bind_of_ok (sortChanges_apply here region _), sorted]
    cases groupChangesByPrefix (schedule.sorted region) with
    | none => simp
    | some => simp [eq_comm]

/-- Sorting all lists keeps it as well. -/
theorem SameEmpty.sortAll (same : SameEmpty sorted intent) (order : List Bytes) :
    SameEmpty sorted (sortAll sorted order intent) := by
  intro region
  rw [get_sortAll same]
  by_cases mem : region ∈ order
  · simp [mem]
  · simpa [mem] using same region

variable {order : List Bytes}

/-- The ranges of the first region come first. -/
theorem requiredRanges_cons_eq_some {keys : Bytes → List Bytes} {region : Bytes}
    {requests : List RangeRequest}
    (required : requiredRanges keys (region :: order) = some requests) :
    ∃ keyRanges later, groupKeysByPrefix (keys region) = some keyRanges ∧
      requiredRanges keys order = some later ∧
      requests = keyRanges.map (KeyRange.request region) ++ later := by
  rw [requiredRanges, Option.bind_eq_bind, Option.bind_eq_some_iff] at required
  obtain ⟨keyRanges, grouped, rest⟩ := required
  obtain ⟨later, found, equal⟩ := Option.bind_eq_some_iff.mp rest
  exact ⟨keyRanges, later, grouped, found, (Option.some.inj equal).symm⟩

/-- **All regions**, one after the other. -/
theorem foldlM_addRanges_eq_ok (here : world.intent = some intent)
    (same : SameEmpty schedule.sorted intent) {ranges result : List RangeRequest} :
    order.foldlM (addRanges schedule) ranges world = (.ok result, after) ↔
      ∃ more, requiredRanges (fun region => (schedule.sorted region).map StateChange.key)
          order = some more ∧
        result = ranges ++ more ∧
        after = { world with intent := some (sortAll schedule.sorted order intent) } := by
  -- the intent is generalised as well: each region leaves its own list sorted in it
  induction order generalizing ranges world intent with
  | nil =>
    have untouched : { world with intent := some intent } = world := by rw [← here]
    simp only [foldlM_nil, requiredRanges, CrossRegionAction.sortAll, foldl_nil, untouched]
    simp [eq_comm]
  | cons region order ih =>
    rw [foldlM_cons, bind_eq_ok]
    constructor
    · rintro ⟨middle, world', first, rest⟩
      obtain ⟨keyRanges, grouped, rfl, rfl⟩ := (addRanges_eq_ok here same).mp first
      obtain ⟨more, later, rfl, rfl⟩ := (ih rfl (same.sortAll [region])).mp rest
      refine ⟨keyRanges.map (KeyRange.request region) ++ more, ?_, ?_, rfl⟩
      · rw [groupChangesByPrefix] at grouped
        simp [requiredRanges, grouped, later]
      · rw [append_assoc]
    · rintro ⟨more, all, rfl, rfl⟩
      obtain ⟨keyRanges, later, grouped, found, rfl⟩ := requiredRanges_cons_eq_some all
      refine ⟨_, _, (addRanges_eq_ok here same).mpr ⟨keyRanges, grouped, rfl, rfl⟩, ?_⟩
      refine (ih rfl (same.sortAll [region])).mpr ⟨later, found, ?_, rfl⟩
      rw [append_assoc]

/-- What must hold for `Execute` to reach its apply loop, with the ranges requested, the proofs
received and the store left behind. -/
structure Prepared (schedule : Schedule π) (ctx : Option Context)
    (intent : CrossRegionIntent) (store : State.MerkleStore π) (ranges : List RangeRequest)
    (proofs : Proofs π) (store' : State.MerkleStore π) : Prop where
  valid : validateBasic ⟨some intent⟩ schedule.validate schedule.signatures = .ok ()
  required : requiredRanges (fun region => (schedule.sorted region).map StateChange.key)
    schedule.ranges = some ranges
  received : requestProofs schedule.evict ranges store = (.ok proofs, store')
  confirmed : RegionProcessor.processRegions ⟨4⟩ ctx intent.id
    (schedule.confirm.filter fun region => intent.stateChanges.get region ≠ []) [0x1] = .ok ()
  covered : ∀ region ∈ schedule.verify,
    ∀ key ∈ (schedule.sorted region).map StateChange.key,
      ∃ response, proofs.lookup region = some response ∧ key ∈ response.proof.entries

/-- A region is covered when each of its keys is in its response. -/
theorem verifyRegion_eq_ok {proofs : Proofs π} {region : Bytes} :
    verifyRegion intent proofs region = .ok () ↔
      ∀ key ∈ (intent.stateChanges.get region).map StateChange.key,
        ∃ response, proofs.lookup region = some response ∧ key ∈ response.proof.entries := by
  unfold verifyRegion
  by_cases empty : intent.stateChanges.get region = []
  · simp [empty]
  · obtain ⟨first, rest, list⟩ := exists_cons_of_ne_nil empty
    rw [if_neg empty]
    cases found : proofs.lookup region with
    | none =>
      refine iff_of_false (fun h => by cases h) fun all => ?_
      obtain ⟨response, present, -⟩ := all first.key (by rw [list]; exact mem_cons_self)
      cases present
    | some =>
      simp [forM_eq_ok_iff]

namespace Schedule.Valid

variable {schedule : Schedule π} {intent : CrossRegionIntent}

theorem sameEmpty (valid : schedule.Valid intent) : SameEmpty schedule.sorted intent :=
  fun region => (valid.sorted region).eq_nil_iff.symm

theorem get_sortAll (valid : schedule.Valid intent) (region : Bytes) :
    (sortAll schedule.sorted schedule.ranges intent).stateChanges.get region =
      schedule.sorted region := by
  rw [CrossRegionAction.get_sortAll valid.sameEmpty]
  by_cases mem : region ∈ schedule.ranges
  · rw [if_pos mem]
  · have absent : intent.stateChanges.get region = [] :=
      GoMap.get_of_notMem fun present => mem ((valid.ranges.mem_iff region).mpr present)
    rw [if_neg mem, absent, (valid.sameEmpty region).mp absent]

end Schedule.Valid

/-- **Reaching the apply loop.** -/
theorem prepare_eq_ok {ctx : Option Context} (here : world.intent = some intent)
    (valid : schedule.Valid intent) :
    prepare schedule ctx world = (.ok (), after) ↔
      ∃ ranges proofs store',
        Prepared schedule ctx intent world.store ranges proofs store' ∧
        after = { world with
          intent := some (sortAll schedule.sorted schedule.ranges intent), store := store' } := by
  have processor : RegionProcessor.new 4 = .ok ⟨4⟩ := rfl
  unfold prepare
  rw [bind_of_ok (read_apply world), here]
  simp only [bind_eq_ok, lift_eq_ok, wrapping_eq_ok, receiver_eq_ok,
    Coordinator.sign, onStore, focus_eq_ok, getRequiredRanges]
  -- the statements of the body in order: validate, make the processor, collect the
  -- ranges, fetch their proofs, sign, confirm every region, check every key
  constructor
  · rintro ⟨_, _, ⟨accepted, rfl⟩, _, _, ⟨made, rfl⟩, ranges, _, collected, proofs, _,
      ⟨store', received, rfl⟩, intent', _, ⟨there, rfl⟩, _, _, ⟨signed, rfl⟩, _, _,
      ⟨confirmed, rfl⟩, covered, rfl⟩
    obtain ⟨more, required, rfl, rfl⟩ :=
      (foldlM_addRanges_eq_ok here valid.sameEmpty).mp collected
    obtain rfl := Except.ok.inj (processor.symm.trans made)
    obtain rfl := Except.ok.inj signed
    obtain rfl := Option.some.inj there
    simp only [forM_eq_ok_iff, verifyRegion_eq_ok, valid.get_sortAll, sortAll_id,
      ← (valid.sameEmpty _).ne] at confirmed covered
    exact ⟨_, proofs, store', ⟨accepted, required, received, confirmed, covered⟩, rfl⟩
  · rintro ⟨ranges, proofs, store', prepared, rfl⟩
    refine ⟨(), world, ⟨prepared.valid, rfl⟩, ⟨4⟩, world, ⟨processor, rfl⟩, ranges, _,
      (foldlM_addRanges_eq_ok here valid.sameEmpty).mpr ⟨ranges, prepared.required, rfl, rfl⟩,
      proofs, _, ⟨store', prepared.received, rfl⟩, _, _, ⟨rfl, rfl⟩, _, _, ⟨rfl, rfl⟩, (), _,
      ⟨?_, rfl⟩, ?_, rfl⟩
    · simpa only [valid.get_sortAll, sortAll_id, ← (valid.sameEmpty _).ne] using
        prepared.confirmed
    · simpa only [forM_eq_ok_iff, verifyRegion_eq_ok, valid.get_sortAll] using prepared.covered

/-- The loop makes all writes and does not fail. -/
theorem applyChanges_apply (here : world.intent = some intent)
    (lists : ∀ region, intent.stateChanges.get region = schedule.sorted region) :
    applyChanges schedule world =
      (.ok (), { world with mu := applyWrites world.mu (applyLog schedule) }) := by
  have inner : ∀ region mu, forM (schedule.sorted region) applyChange mu =
      (.ok (), applyWrites mu ((schedule.sorted region).flatMap writes)) :=
    fun region => forM_applyWrites applyChange_apply (schedule.sorted region)
  have loop := forM_applyWrites inner schedule.apply world.mu
  unfold applyChanges onMu
  rw [bind_of_ok (receiver_eq_ok.mpr ⟨here, rfl⟩)]
  simp only [lists, Call.focus]
  rw [loop, applyLog, flatMap_assoc]

/-- **Successful execution.**  `Execute` succeeds exactly when it reaches its apply loop, whose
writes are then in `mu`. -/
theorem execute_eq_ok {ctx : Option Context} {result : CrossRegionResult}
    (here : world.intent = some intent) (valid : schedule.Valid intent) :
    execute schedule ctx world = (.ok result, after) ↔
      ∃ ranges proofs store',
        Prepared schedule ctx intent world.store ranges proofs store' ∧
        result = { success := true } ∧
        after =
          { intent := some (sortAll schedule.sorted schedule.ranges intent)
            mu := applyWrites world.mu (applyLog schedule)
            store := store' } := by
  unfold execute
  rw [bind_eq_ok]
  constructor
  · rintro ⟨_, middle, prepared, rest⟩
    obtain ⟨ranges, proofs, store', holds, rfl⟩ := (prepare_eq_ok here valid).mp prepared
    rw [bind_of_ok (applyChanges_apply rfl valid.get_sortAll)] at rest
    obtain ⟨hresult, rfl⟩ := Prod.mk.inj rest
    exact ⟨ranges, proofs, store', holds, (Outcome.ok.inj hresult).symm, rfl⟩
  · rintro ⟨ranges, proofs, store', holds, rfl, rfl⟩
    refine ⟨(), _, (prepare_eq_ok here valid).mpr ⟨ranges, proofs, store', holds, rfl⟩, ?_⟩
    rw [bind_of_ok (applyChanges_apply rfl valid.get_sortAll)]
    rfl

/-! ## What validation has checked -/

/-- The checks of `ValidateBasic`. -/
theorem validateBasic_eq_ok {changesOrder signaturesOrder : List Bytes} :
    validateBasic ⟨some intent⟩ changesOrder signaturesOrder = .ok () ↔
      ¬ intent.timeWindow.duration ≤ 0 ∧ intent.stateChanges.len ≠ 0 ∧
        intent.Accepts changesOrder ∧ verifySignatures intent signaturesOrder = .ok () := by
  unfold validateBasic CrossRegionIntent.Accepts
  simp [except_seq_eq_ok]

end CrossRegionAction

end Aristo
