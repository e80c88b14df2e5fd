import Aristo.Actions.CrossRegionRanges

/-!
# Coverage of the changed keys

`Execute` requests a proof for every range, collects the responses in a map from regions, and wants
every changed key among the entries of its region's response.  Two things come between, and
`coverage_iff` says that they are the only ones: the response for the last range of a region
replaces the others, and the cache tells ranges apart by the text `start-end`, so a request can be
answered with the proof of another region's range.
-/

namespace Aristo

open GoBase Call XRegion State List

namespace CrossRegionAction

variable {π : Type}

/-! ## The phase -/

/-- The statements of `Execute` that request range proofs and check every change against them. -/
def checkCoverage (schedule : Schedule π) : Call (World π) Unit := do
  let ranges ← getRequiredRanges schedule
  let proofs ← onStore (requestProofs schedule.evict ranges)
  let intent ← receiver
  Call.lift (forM schedule.verify (verifyRegion intent proofs))

/-- The ranges that an order requires, all regions together. -/
def Schedule.required (schedule : Schedule π) : Option (List RangeRequest) :=
  requiredRanges (fun region => (schedule.sorted region).map StateChange.key) schedule.ranges

/-- What the phase goes through when it passes. -/
structure Covered (schedule : Schedule π) (store : State.MerkleStore π)
    (ranges : List RangeRequest) (proofs : Proofs π) (store' : State.MerkleStore π) : Prop where
  required : schedule.required = some ranges
  received : requestProofs schedule.evict ranges store = (.ok proofs, store')
  covered : ∀ region ∈ schedule.verify,
    ∀ key ∈ (schedule.sorted region).map StateChange.key,
      ∃ response, proofs.lookup region = some response ∧ key ∈ response.proof.entries

/-- The phase passes when each part of it does. -/
theorem checkCoverage_succeeded_iff {schedule : Schedule π} {world : World π}
    {intent : CrossRegionIntent} (here : world.intent = some intent)
    (valid : schedule.Valid intent) :
    (checkCoverage schedule world).1.Succeeded ↔
      ∃ ranges proofs store', Covered schedule world.store ranges proofs store' := by
  have passes : (checkCoverage schedule world).1.Succeeded ↔
      ∃ after, checkCoverage schedule world = (.ok (), after) := by
    rw [Outcome.succeeded_iff]
    constructor
    · rintro ⟨_, ended⟩
      exact ⟨_, Prod.ext ended rfl⟩
    · rintro ⟨after, ended⟩
      exact ⟨(), by rw [ended]⟩
  rw [passes]
  simp only [checkCoverage, bind_eq_ok, lift_eq_ok, receiver_eq_ok, onStore,
    focus_eq_ok, getRequiredRanges]
  constructor
  · rintro ⟨_, ranges, _, collected, proofs, _, ⟨store', received, rfl⟩, intent', _,
      ⟨there, rfl⟩, covered, rfl⟩
    obtain ⟨more, required, rfl, rfl⟩ :=
      (foldlM_addRanges_eq_ok here valid.sameEmpty).mp collected
    obtain rfl := Option.some.inj there
    simp only [forM_eq_ok_iff, verifyRegion_eq_ok, valid.get_sortAll] at covered
    exact ⟨_, proofs, store', required, received, covered⟩
  · rintro ⟨ranges, proofs, store', required, received, covered⟩
    refine ⟨_, ranges, _,
      (foldlM_addRanges_eq_ok here valid.sameEmpty).mpr ⟨ranges, required, rfl, rfl⟩, proofs, _,
      ⟨store', received, rfl⟩, _, _, ⟨rfl, rfl⟩, ?_, rfl⟩
    simpa only [forM_eq_ok_iff, verifyRegion_eq_ok, valid.get_sortAll] using covered

/-! ## The responses -/

/-- The view of an initialised coordinator: root and range proofs can be had, and the iterator
yields ascending keys to its end. -/
structure Serves (view : View π) (root : ID) : Prop where
  root_eq : view.merkleRoot = .ok root
  ascending : view.pairs.Pairwise fun pair later => pair.1 < later.1
  ends : view.iterError = none
  proves : ∀ start stop, ∃ proof, view.rangeProof start stop defaultMaxKeyLen = .ok proof

def Stored (view : View π) (key : Bytes) : Prop :=
  key ∈ view.pairs.map Prod.fst

def bounds (request : RangeRequest) : Bounds :=
  (request.startKey, request.endKey)

variable {view : View π}

/-- Such a view has a proof for every range. -/
theorem Serves.computed_eq {root : ID} (serves : Serves view root) (start : Bytes)
    (stop : Option Bytes) :
    ∃ proof, State.MerkleStore.computed view start stop = .ok proof ∧
      proof.entries = State.MerkleStore.scan start stop view.pairs ∅ := by
  obtain ⟨proof, proves⟩ := serves.proves start stop
  unfold State.MerkleStore.computed
  rw [proves, serves.ends]
  exact ⟨_, rfl, rfl⟩

/-- The response for the last range of a region, answered with the first range of its text. -/
def AnsweredBy (view : View π) (asked : List RangeRequest) (response : Option (RangeResponse π)) :
    Option RangeRequest → Prop
  | none => response = none
  | some request => ∃ answer range, response = some answer ∧
      firstWithText (asked.map bounds) request.startKey request.endKey = some range ∧
      State.MerkleStore.computed view range.1 range.2 = .ok answer.proof

/-- What the loop over the requests has collected. -/
structure Collected (view : View π) (root : ID) (asked : List RangeRequest)
    (store : State.MerkleStore π) (proofs : Proofs π) : Prop where
  view_eq : store.view = view
  kept : FirstKept store root (asked.map bounds)
  answers : ∀ region, AnsweredBy view asked (proofs.lookup region)
    (asked.filter fun request => request.regionID = region).getLast?

section

variable {root : ID} (serves : Serves view root)

include serves

/-- **One request** is answered with the first range of its text. -/
theorem requestProof_collects {asked : List RangeRequest}
    {store : State.MerkleStore π} {proofs : Proofs π}
    (collected : Collected view root asked store proofs) (evict : ℕ → CacheEntries π → List ID)
    (request : RangeRequest) (n : ℕ) :
    ∃ proofs' store', requestProof evict proofs (request, n) store = (.ok proofs', store') ∧
      Collected view root (asked ++ [request]) store' proofs' := by
  obtain ⟨fresh, provable, -⟩ := serves.computed_eq request.startKey request.endKey
  rw [← collected.view_eq] at provable
  obtain ⟨proof, after, range, answered, sameView, kept, first, computed⟩ :=
    collected.kept.getRangeProof provable (evict n)
  have responded : Coordinator.requestRangeProof (evict n) request store =
      (.ok { proof, regionID := request.regionID }, after) :=
    bind_of_ok (wrapping_of_ok answered)
  refine ⟨_, after, bind_of_ok (wrapping_of_ok responded), ?_⟩
  rw [collected.view_eq] at sameView computed
  refine ⟨sameView, by simpa [bounds] using kept, fun region => ?_⟩
  rw [filter_append]
  by_cases same : request.regionID = region
  · subst same
    have last : (List.filter (fun other : RangeRequest => other.regionID = request.regionID)
        [request]) = [request] := by simp
    rw [last, List.getLast?_concat]
    exact ⟨{ proof, regionID := request.regionID }, range, Finmap.lookup_insert _,
      by simpa [bounds] using first, computed⟩
  · have none : (List.filter (fun other : RangeRequest => other.regionID = region)
        [request]) = [] := by simp [same]
    rw [none, append_nil, Finmap.lookup_insert_of_ne _ (Ne.symm same)]
    have before := collected.answers region
    -- an earlier response is kept, and its range is still the first with its text
    cases found : (asked.filter fun other => other.regionID = region).getLast? with
    | none =>
      rw [found] at before
      exact before
    | some =>
      rw [found] at before
      obtain ⟨answer, range', response, first', computed'⟩ := before
      refine ⟨answer, range', response, ?_, computed'⟩
      rw [map_append, firstWithText_append, first', Option.some_or]

/-- **The whole loop** answers every request. -/
theorem requestProofs_collects (evict : ℕ → CacheEntries π → List ID)
    (requests : List RangeRequest) :
    ∃ proofs store', requestProofs evict requests (.new view) = (.ok proofs, store') ∧
      Collected view root requests store' proofs := by
  have loop (n : ℕ) {asked : List RangeRequest} {store : State.MerkleStore π} {proofs : Proofs π}
      (collected : Collected view root asked store proofs) : ∃ proofs' store',
        (requests.zipIdx n).foldlM (requestProof evict) proofs store = (.ok proofs', store') ∧
        Collected view root (asked ++ requests) store' proofs' := by
    induction requests generalizing n asked store proofs with
    | nil => exact ⟨proofs, store, rfl, by rwa [append_nil]⟩
    | cons request requests ih =>
      obtain ⟨middle, store', done, first⟩ :=
        requestProof_collects serves collected evict request n
      obtain ⟨proofs', store'', rest, last⟩ := ih (n + 1) first
      refine ⟨proofs', store'', ?_, by simpa using last⟩
      rw [zipIdx_cons, foldlM_cons, bind_of_ok done, rest]
  have start : Collected view root [] (.new view) (∅ : Proofs π) :=
    ⟨rfl, FirstKept.of_new serves.root_eq, fun region => rfl⟩
  exact loop 0 start

end

/-! ## The requests of an intent -/

section

variable {keys : Bytes → List Bytes} {order : List Bytes} {requests : List RangeRequest}
    (required : requiredRanges keys order = some requests)

include required

/-- Every request is for a range of its region, -/
theorem mem_requiredRanges {request : RangeRequest} (mem : request ∈ requests) :
    ∃ region ∈ order, ∃ keyRanges, groupKeysByPrefix (keys region) = some keyRanges ∧
      ∃ range ∈ keyRanges, request = range.request region := by
  induction order generalizing requests with
  | nil =>
    cases required
    cases mem
  | cons first order ih =>
    obtain ⟨keyRanges, later, grouped, found, rfl⟩ := requiredRanges_cons_eq_some required
    rcases mem_append.mp mem with here | there
    · obtain ⟨range, inRanges, rfl⟩ := mem_map.mp here
      exact ⟨first, mem_cons_self, keyRanges, grouped, range, inRanges, rfl⟩
    · obtain ⟨region, inOrder, rest⟩ := ih found there
      exact ⟨region, mem_cons_of_mem _ inOrder, rest⟩

/-- and those of one region are its ranges, in order. -/
theorem filter_requiredRanges (once : order.Nodup) {region : Bytes} (mem : region ∈ order) :
    ∃ keyRanges, groupKeysByPrefix (keys region) = some keyRanges ∧
      requests.filter (fun request => request.regionID = region) =
        keyRanges.map (KeyRange.request region) := by
  induction order generalizing requests with
  | nil => cases mem
  | cons first order ih =>
    obtain ⟨notLater, onceLater⟩ := nodup_cons.mp once
    obtain ⟨keyRanges, later, grouped, found, rfl⟩ := requiredRanges_cons_eq_some required
    rw [filter_append]
    by_cases same : first = region
    · subst same
      have others : later.filter (fun request => request.regionID = first) = [] := by
        refine filter_eq_nil_iff.mpr fun request inLater equal => ?_
        obtain ⟨region, inOrder, -, -, range, -, rfl⟩ := mem_requiredRanges found inLater
        exact notLater (of_decide_eq_true equal ▸ inOrder)
      exact ⟨keyRanges, grouped, by simp [filter_map, Function.comp_def, KeyRange.request, others]⟩
    · have inLater : region ∈ order := (mem_cons.mp mem).resolve_left (Ne.symm same)
      obtain ⟨ranges, grouped', filtered⟩ := ih found onceLater inLater
      refine ⟨ranges, grouped', ?_⟩
      simp [filter_map, Function.comp_def, KeyRange.request, same, filtered]

end

/-! ## When the phase passes -/

def keysOf (intent : CrossRegionIntent) (region : Bytes) : List Bytes :=
  (intent.stateChanges.get region).map StateChange.key

def LongKeys (intent : CrossRegionIntent) : Prop :=
  ∀ region, ∀ key ∈ keysOf intent region, 8 ≤ key.length

def KeysStored (intent : CrossRegionIntent) (view : View π) : Prop :=
  ∀ region, ∀ key ∈ keysOf intent region, Stored view key

/-- The keys of each region have the same first eight bytes. -/
def OneFront (intent : CrossRegionIntent) : Prop :=
  ∀ region, ∀ key ∈ keysOf intent region, ∀ other ∈ keysOf intent region,
    key.take 8 = other.take 8

/-- The least and the greatest of some keys. -/
structure Extremes (keys : List Bytes) (low high : Bytes) : Prop where
  low_mem : low ∈ keys
  high_mem : high ∈ keys
  between : ∀ key ∈ keys, bytesLE low key ∧ bytesLE key high

/-- No two regions have different least and greatest keys that make one text. -/
def TextsApart (intent : CrossRegionIntent) : Prop :=
  ∀ region other low high low' high', Extremes (keysOf intent region) low high →
    Extremes (keysOf intent other) low' high' →
    makeRangeKey low (some high) = makeRangeKey low' (some high') → low = low' ∧ high = high'

/-- Some keys have one least and one greatest. -/
theorem Extremes.unique {keys : List Bytes} {low high low' high' : Bytes}
    (first : Extremes keys low high) (second : Extremes keys low' high') :
    low = low' ∧ high = high' :=
  ⟨bytesLE_antisymm (first.between low' second.low_mem).1 (second.between low first.low_mem).1,
    bytesLE_antisymm (second.between high first.high_mem).2
      (first.between high' second.high_mem).2⟩

/-- Keys with one front have one range, between the least and the greatest of them. -/
theorem Partition.eq_singleton {keys : List Bytes} {ranges : List KeyRange}
    (partition : Partition keys ranges) {key : Bytes} (mem : key ∈ keys)
    (oneFront : ∀ other ∈ keys, other.take 8 = key.take 8) :
    ∃ range, ranges = [range] ∧ Extremes keys range.start range.stop := by
  obtain ⟨range, member, -⟩ := partition.covers key mem
  have equal : ∀ other ∈ ranges, other = range := by
    intro other member'
    refine partition.eq_of_front_eq member' member ?_
    rw [KeyRange.front, KeyRange.front, oneFront _ (partition.starts other member'),
      oneFront _ (partition.starts range member)]
  have single : ranges = [range] := by
    have fronts := partition.fronts
    obtain ⟨count, repeated⟩ : ∃ n, ranges = List.replicate n range :=
      ⟨_, eq_replicate_of_mem equal⟩
    rw [repeated, pairwise_replicate] at fronts
    rw [repeated] at member ⊢
    obtain few | less := fronts
    · obtain ⟨positive, -⟩ := mem_replicate.mp member
      rw [Nat.le_antisymm few (Nat.one_le_iff_ne_zero.mpr positive)]
      rfl
    · exact absurd less (List.lt_irrefl _)
  refine ⟨range, single, partition.starts range member, partition.stops range member, ?_⟩
  intro other mem'
  obtain ⟨range', member', inside⟩ := partition.covers other mem'
  rw [equal range' member'] at inside
  exact inside

section Phase

variable {view : View π} {root : ID} {schedule : Schedule π} {intent : CrossRegionIntent}

variable {region : Bytes}

/-- Sorting neither adds nor loses a key, -/
theorem mem_sorted_keys (valid : schedule.Valid intent) {key : Bytes} :
    key ∈ (schedule.sorted region).map StateChange.key ↔ key ∈ keysOf intent region :=
  ((valid.sorted region).perm.map StateChange.key).mem_iff

/-- so the ranges of the sorted keys partition those of the region. -/
theorem partition_sorted (valid : schedule.Valid intent) (long : LongKeys intent)
    (region : Bytes) :
    ∃ ranges, groupKeysByPrefix ((schedule.sorted region).map StateChange.key) = some ranges ∧
      Partition (keysOf intent region) ranges := by
  obtain ⟨ranges, grouped, partition⟩ :=
    groupKeysByPrefix_spec
      (fun key mem => long region key ((mem_sorted_keys valid).mp mem))
      (pairwise_map.mpr (valid.sorted region).ascending)
  refine ⟨ranges, grouped, partition.proper, ?_, ?_, partition.fronts, ?_⟩
  · exact fun range mem => (mem_sorted_keys valid).mp (partition.starts range mem)
  · exact fun range mem => (mem_sorted_keys valid).mp (partition.stops range mem)
  · exact fun key mem => partition.covers key ((mem_sorted_keys valid).mpr mem)

/-- The range whose proof answers the last request of a region. -/
def Answers (requests : List RangeRequest) (region : Bytes) (answering : KeyRange) : Prop :=
  ∃ last, (requests.filter fun request => request.regionID = region).getLast? = some last ∧
    firstWithText (requests.map bounds) last.startKey last.endKey =
      some (answering.start, some answering.stop)

variable {requests : List RangeRequest}

/-- One range answers for a region, -/
theorem Answers.unique {first second : KeyRange} (one : Answers requests region first)
    (two : Answers requests region second) :
    first = second := by
  obtain ⟨last, found, text⟩ := one
  obtain ⟨last', found', text'⟩ := two
  cases found.symm.trans found'
  obtain ⟨start, stop⟩ := first
  obtain ⟨start', stop'⟩ := second
  cases text.symm.trans text'
  rfl

/-- and it is a range of some region. -/
theorem Answers.exists_region (valid : schedule.Valid intent) (long : LongKeys intent)
    (required : schedule.required = some requests) {range : Bounds}
    (mem : range ∈ requests.map bounds) :
    ∃ region ranges, Partition (keysOf intent region) ranges ∧ ∃ answering ∈ ranges,
      range = (answering.start, some answering.stop) := by
  obtain ⟨request, inRequests, rfl⟩ := mem_map.mp mem
  obtain ⟨region, -, ranges, grouped, answering, member, rfl⟩ :=
    mem_requiredRanges required inRequests
  obtain ⟨ranges', grouped', partition⟩ := partition_sorted valid long region
  cases grouped.symm.trans grouped'
  exact ⟨region, ranges, partition, answering, member, rfl⟩

/-- The response for a region has the keys in the range that answers. -/
theorem exists_answer (serves : Serves view root) (valid : schedule.Valid intent)
    (long : LongKeys intent)
    (required : schedule.required = some requests) {store' : State.MerkleStore π}
    {proofs : Proofs π}
    (collected : Collected view root requests store' proofs) {key : Bytes}
    (mem : key ∈ keysOf intent region) :
    ∃ response answering, proofs.lookup region = some response ∧
      Answers requests region answering ∧ answering.Proper ∧
      ∀ other, other ∈ response.proof.entries ↔ Stored view other ∧ answering.Contains other := by
  obtain ⟨change, member, -⟩ := mem_map.mp mem
  have inOrder : region ∈ schedule.ranges :=
    (valid.ranges.mem_iff region).mpr (GoMap.mem_of_mem_get member)
  obtain ⟨ranges, grouped, filtered⟩ :=
    filter_requiredRanges required valid.ranges.nodup inOrder
  obtain ⟨ranges', grouped', partition⟩ := partition_sorted valid long region
  cases grouped.symm.trans grouped'
  obtain ⟨range, inRanges, -⟩ := partition.covers key mem
  have some_request : ranges.map (KeyRange.request region) ≠ [] :=
    ne_nil_of_mem (mem_map_of_mem inRanges)
  obtain ⟨last, isLast⟩ : ∃ last,
      (requests.filter fun request => request.regionID = region).getLast? = some last := by
    rw [filtered]
    exact ⟨_, List.getLast?_eq_some_getLast some_request⟩
  have answered := collected.answers region
  rw [isLast] at answered
  obtain ⟨response, asked, found, first, computed⟩ := answered
  obtain ⟨other, ranges', partition', answering, inRanges', rfl⟩ :=
    Answers.exists_region valid long required (mem_of_find?_eq_some first)
  obtain ⟨proof, computed', entries⟩ := serves.computed_eq answering.start (some answering.stop)
  cases computed.symm.trans computed'
  refine ⟨response, answering, found, ⟨last, isLast, first⟩, partition'.proper answering inRanges',
    fun other => ?_⟩
  rw [entries, mem_scan_iff serves.ascending]
  rfl

/-- **When the phase passes**: every changed key exists and lies in the range that answers the last
request of its region. -/
theorem checkCoverage_succeeded_iff_answers (serves : Serves view root)
    (valid : schedule.Valid intent) (long : LongKeys intent)
    (required : schedule.required = some requests) (mu : Mutable) :
    (checkCoverage schedule { intent := some intent, mu, store := .new view }).1.Succeeded ↔
      ∀ region, ∀ key ∈ keysOf intent region, ∃ answering, Answers requests region answering ∧
        answering.Proper ∧ Stored view key ∧ answering.Contains key := by
  obtain ⟨proofs, store', received, collected⟩ :=
    requestProofs_collects serves schedule.evict requests
  rw [checkCoverage_succeeded_iff rfl valid]
  constructor
  · rintro ⟨requests', proofs', store'', required', received', covered⟩ region key mem
    cases required.symm.trans required'
    cases received.symm.trans received'
    obtain ⟨response, answering, found, answers, proper, entries⟩ :=
      exists_answer serves valid long required collected mem
    obtain ⟨change, member, -⟩ := mem_map.mp mem
    obtain ⟨response', found', inEntries⟩ :=
      covered region ((valid.verify.mem_iff region).mpr (GoMap.mem_of_mem_get member)) key
        ((mem_sorted_keys valid).mpr mem)
    cases found.symm.trans found'
    exact ⟨answering, answers, proper, (entries key).mp inEntries⟩
  · intro all
    refine ⟨requests, proofs, store', required, received, fun region _ key mem => ?_⟩
    have mem' := (mem_sorted_keys valid).mp mem
    obtain ⟨response, answering, found, answers, -, entries⟩ :=
      exists_answer serves valid long required collected mem'
    obtain ⟨answering', answers', -, stored, inside⟩ := all region key mem'
    cases answers.unique answers'
    exact ⟨response, found, (entries key).mpr ⟨stored, inside⟩⟩

/-! ## Every order -/

/-- There is an order in which to visit the maps. -/
theorem Schedule.exists_valid (intent : CrossRegionIntent) :
    ∃ schedule : Schedule π, schedule.Valid intent := by
  obtain ⟨regions, visits⟩ := GoMap.exists_visits intent.stateChanges
  obtain ⟨signatures, signed⟩ := GoMap.exists_visits intent.signatures
  refine ⟨{ validate := regions, signatures, ranges := regions
            sorted := fun region => insertionByKey.sort (intent.stateChanges.get region)
            evict := fun _ entries => (GoMap.exists_visits entries).choose
            confirm := regions, verify := regions, apply := regions }, ?_⟩
  refine ⟨visits, signed, visits, fun region => ?_, fun _ entries => ?_, visits, visits, visits⟩
  · have sorts := insertionByKey.sorts (intent.stateChanges.get region)
    exact ⟨sorts.perm, sorts.ascending⟩
  · exact (GoMap.exists_visits entries).choose_spec

/-- The schedule in which the ranges of one region are requested first. -/
def Schedule.rangesFirst (schedule : Schedule π) (region : Bytes) : Schedule π :=
  { schedule with ranges := region :: schedule.ranges.erase region }

/-- Long keys can be grouped in every order. -/
theorem exists_required (valid : schedule.Valid intent) (long : LongKeys intent) :
    ∃ requests, schedule.required = some requests := by
  refine Option.ne_none_iff_exists'.mp ((requiredRanges_ne_none_iff valid).mpr ?_)
  exact fun region _ change mem => long region change.key (mem_map_of_mem mem)

/-- A region whose keys are covered has one front: the answering range has one. -/
theorem oneFront_of_answers (covered : ∀ region, ∀ key ∈ keysOf intent region, ∃ answering,
      Answers requests region answering ∧ answering.Proper ∧ Stored view key ∧
        answering.Contains key) : OneFront intent := by
  intro region key mem other mem'
  obtain ⟨answering, answers, proper, -, inside⟩ := covered region key mem
  obtain ⟨answering', answers', -, -, inside'⟩ := covered region other mem'
  cases answers.unique answers'
  rw [proper.front_eq inside, proper.front_eq inside']

variable {low high : Bytes}

section

variable (oneFront : OneFront intent) (valid : schedule.Valid intent) (long : LongKeys intent)

include oneFront valid long

/-- With one front the keys of a region make one range, -/
theorem OneFront.group_eq (extremes : Extremes (keysOf intent region) low high) :
    groupKeysByPrefix ((schedule.sorted region).map StateChange.key) = some [⟨low, high⟩] := by
  obtain ⟨ranges, grouped, partition⟩ := partition_sorted valid long region
  obtain ⟨⟨start, stop⟩, rfl, bounds⟩ := partition.eq_singleton extremes.low_mem
    fun other mem => oneFront region other mem low extremes.low_mem
  obtain ⟨rfl, rfl⟩ := extremes.unique bounds
  exact grouped

/-- and one request. -/
theorem OneFront.filter_eq (required : schedule.required = some requests)
    (extremes : Extremes (keysOf intent region) low high) :
    requests.filter (fun request => request.regionID = region) =
      [KeyRange.request region ⟨low, high⟩] := by
  obtain ⟨change, member, -⟩ := mem_map.mp extremes.low_mem
  obtain ⟨ranges, grouped, filtered⟩ := filter_requiredRanges required valid.ranges.nodup
    ((valid.ranges.mem_iff region).mpr (GoMap.mem_of_mem_get member))
  cases grouped.symm.trans (oneFront.group_eq valid long extremes)
  exact filtered

end

/-- Two different ranges with one text: when the second is asked for first, its proof answers for
the first and does not have its least key. -/
theorem not_prefix_of_passes (serves : Serves view root) (valid : schedule.Valid intent)
    (long : LongKeys intent) (oneFront : OneFront intent) (mu : Mutable)
    (passes : ∀ schedule : Schedule π, schedule.Valid intent →
      (checkCoverage schedule { intent := some intent, mu, store := .new view }).1.Succeeded)
    {other low' high' : Bytes} (extremes : Extremes (keysOf intent region) low high)
    (extremes' : Extremes (keysOf intent other) low' high')
    (sameText : makeRangeKey low (some high) = makeRangeKey low' (some high'))
    (starts : low ++ [45] <+: low') : False := by
  obtain ⟨change, member, -⟩ := mem_map.mp extremes'.low_mem
  have validFirst : (schedule.rangesFirst other).Valid intent :=
    { valid with ranges := valid.ranges.first (GoMap.mem_of_mem_get member) }
  obtain ⟨requests, required⟩ := exists_required validFirst long
  obtain ⟨answering, ⟨last, isLast, first⟩, -, -, inside⟩ :=
    (checkCoverage_succeeded_iff_answers serves validFirst long required mu).mp
      (passes _ validFirst) region low extremes.low_mem
  rw [oneFront.filter_eq validFirst long required extremes] at isLast
  cases isLast
  obtain ⟨ranges, later, grouped, -, rfl⟩ := requiredRanges_cons_eq_some required
  have single := oneFront.group_eq valid long extremes'
  cases grouped.symm.trans single
  have answered : firstWithText [bounds (KeyRange.request other ⟨low', high'⟩)] low (some high) =
      some (low', some high') := by
    rw [firstWithText_singleton]
    exact if_pos sameText.symm
  have found : firstWithText ([bounds (KeyRange.request other ⟨low', high'⟩)] ++ later.map bounds)
      low (some high) = some (low', some high') := by
    rw [firstWithText_append, answered, Option.some_or]
  rw [map_append] at first
  cases found.symm.trans first
  obtain ⟨rest, longer⟩ := starts
  have less : low < answering.start := by
    rw [← longer, append_assoc]
    exact lt_append_cons low 45 rest
  exact inside.1 less

/-- So the phase can only pass in every order when the texts are apart. -/
theorem textsApart_of_passes (serves : Serves view root) (valid : schedule.Valid intent)
    (long : LongKeys intent) (oneFront : OneFront intent) (mu : Mutable)
    (passes : ∀ schedule : Schedule π, schedule.Valid intent →
      (checkCoverage schedule { intent := some intent, mu, store := .new view }).1.Succeeded) :
    TextsApart intent := by
  intro region other low high low' high' extremes extremes' sameText
  have joined := sameText
  have text (start stop : Bytes) : makeRangeKey start (some stop) = start ++ 45 :: stop := by
    have dash : ascii "-" = [45] := by decide
    rw [makeRangeKey, dash, Option.getD_some, append_assoc, singleton_append]
  rw [text, text] at joined
  rcases append_sep_eq_cases joined with rfl | starts | starts
  · exact ⟨rfl, (List.cons.inj (append_cancel_left joined)).2⟩
  · exact (not_prefix_of_passes serves valid long oneFront mu passes extremes extremes' sameText
      starts).elim
  · exact (not_prefix_of_passes serves valid long oneFront mu passes extremes' extremes
      sameText.symm starts).elim

/-- With one front and a text of its own, the range of a region answers for it. -/
theorem answers_of_apart (valid : schedule.Valid intent) (long : LongKeys intent)
    (oneFront : OneFront intent) (apart : TextsApart intent)
    (required : schedule.required = some requests)
    (extremes : Extremes (keysOf intent region) low high) :
    Answers requests region ⟨low, high⟩ := by
  have filtered := oneFront.filter_eq valid long required extremes
  refine ⟨KeyRange.request region ⟨low, high⟩, by rw [filtered]; rfl, ?_⟩
  have asked : KeyRange.request region ⟨low, high⟩ ∈ requests := by
    have mem : KeyRange.request region ⟨low, high⟩ ∈
        requests.filter fun request => request.regionID = region := by
      rw [filtered]
      exact mem_singleton_self _
    exact (mem_filter.mp mem).1
  -- some range with the text was asked for, and only this one has it
  have some_range : (firstWithText (requests.map bounds) low (some high)).isSome = true := by
    rw [firstWithText, List.find?_isSome]
    exact ⟨_, mem_map_of_mem asked, decide_eq_true rfl⟩
  obtain ⟨range, found⟩ := Option.isSome_iff_exists.mp some_range
  have text := text_of_firstWithText found
  obtain ⟨other, ranges, partition, answering, member, rfl⟩ :=
    Answers.exists_region valid long required (mem_of_find?_eq_some found)
  have start := partition.starts answering member
  obtain ⟨only, rfl, bounds'⟩ := partition.eq_singleton start
    fun key mem => oneFront other key mem _ start
  cases mem_singleton.mp member
  obtain ⟨rfl, rfl⟩ := apart region other low high _ _ extremes bounds' text.symm
  exact found

/-- **When the coverage check is complete.** For keys of at least eight bytes and an empty cache,
the phase passes exactly when all changed keys exist, in every order in which Go may visit the maps,
if and only if, should the keys exist, the keys of each region have the same first eight bytes and
no two regions have different ranges with one text. -/
theorem coverage_iff (serves : Serves view root) (intent : CrossRegionIntent)
    (long : LongKeys intent) (mu : Mutable) :
    (∀ schedule : Schedule π, schedule.Valid intent →
      ((checkCoverage schedule { intent := some intent, mu, store := .new view }).1.Succeeded ↔
        KeysStored intent view)) ↔
      (KeysStored intent view → OneFront intent ∧ TextsApart intent) := by
  constructor
  · intro faithful stored
    have passes := fun (schedule : Schedule π) valid => (faithful schedule valid).mpr stored
    obtain ⟨schedule, valid⟩ := Schedule.exists_valid (π := π) intent
    obtain ⟨requests, required⟩ := exists_required valid long
    have oneFront : OneFront intent := oneFront_of_answers
      ((checkCoverage_succeeded_iff_answers serves valid long required mu).mp
        (passes schedule valid))
    exact ⟨oneFront, textsApart_of_passes serves valid long oneFront mu passes⟩
  · intro condition schedule valid
    obtain ⟨requests, required⟩ := exists_required valid long
    rw [checkCoverage_succeeded_iff_answers serves valid long required mu]
    constructor
    · intro covered region key mem
      obtain ⟨-, -, -, stored, -⟩ := covered region key mem
      exact stored
    · intro stored region key mem
      obtain ⟨oneFront, apart⟩ := condition stored
      obtain ⟨ranges, -, partition⟩ := partition_sorted valid long region
      obtain ⟨range, rfl, extremes⟩ := partition.eq_singleton mem
        fun other mem' => oneFront region other mem' key mem
      exact ⟨range, answers_of_apart valid long oneFront apart required extremes,
        partition.proper range (mem_singleton_self _), stored region key mem,
        extremes.between key mem⟩

end Phase

def viewOf (keys : List Bytes) : View Unit where
  pairs := keys.map fun key => (key, [1])
  iterError := none
  merkleRoot := .ok fun _ => 0
  rangeProof := fun _ _ _ => .ok ()

theorem viewOf_serves {keys : List Bytes} (ascending : keys.Pairwise (· < ·)) :
    Serves (viewOf keys) fun _ => 0 :=
  ⟨rfl, pairwise_map.mpr ascending, rfl, fun _ _ => ⟨(), rfl⟩⟩

/-- The intent changes two keys of one region. -/
theorem keysOf_setTwo {first second region key : Bytes}
    (mem : key ∈ keysOf (setTwo first second) region) :
    region = ascii "A" ∧ (key = first ∨ key = second) := by
  obtain ⟨change, member, rfl⟩ := mem_map.mp mem
  have present := GoMap.mem_of_mem_get member
  obtain rfl : region = ascii "A" := by
    simpa [setTwo, CrossRegionIntent.betweenAB, GoMap.mem_ofEntries] using present
  have listed : change = changeOf first ∨ change = changeOf second := by
    simpa [setTwo, CrossRegionIntent.betweenAB, GoMap.ofEntries] using member
  rcases listed with rfl | rfl
  · exact ⟨rfl, Or.inl rfl⟩
  · exact ⟨rfl, Or.inr rfl⟩

/-- An object and a part of it, under keys with the same first eight bytes. -/
theorem coverage_iff_object_and_part :
    let intent := setTwo (ascii "object-1") (ascii "object-1/x")
    let view := viewOf [ascii "object-1", ascii "object-1/x"]
    Serves view (fun _ => 0) ∧ LongKeys intent ∧
      ∀ schedule : Schedule Unit, schedule.Valid intent →
        ((checkCoverage schedule ⟨some intent, fun _ => none, .new view⟩).1.Succeeded ↔
          KeysStored intent view) := by
  intro intent view
  have serves : Serves view fun _ => 0 := viewOf_serves (by decide)
  have long : LongKeys intent := by
    intro region key mem
    rcases (keysOf_setTwo mem).2 with rfl | rfl <;> decide
  refine ⟨serves, long, (coverage_iff serves intent long _).mpr fun _ => ⟨?_, ?_⟩⟩
  · intro region key mem other mem'
    rcases (keysOf_setTwo mem).2 with rfl | rfl <;>
      rcases (keysOf_setTwo mem').2 with rfl | rfl <;> decide
  · intro region other low high low' high' extremes extremes' _
    obtain rfl := (keysOf_setTwo extremes.low_mem).1
    obtain rfl := (keysOf_setTwo extremes'.low_mem).1
    exact extremes.unique extremes'

/-- Two keys of one region with different first eight bytes: both exist, and the proof for the
second range has replaced the proof for the first. -/
theorem coverage_lost_two_fronts :
    let intent := setTwo (ascii "ledger-1") (ascii "object-1")
    let view := viewOf [ascii "ledger-1", ascii "object-1"]
    let schedule := inOrder intent [ascii "A"]
    Serves view (fun _ => 0) ∧ LongKeys intent ∧ KeysStored intent view ∧
      schedule.Valid intent ∧
      (checkCoverage schedule ⟨some intent, fun _ => none, .new view⟩).1 =
        .err (.plain (ascii "state change not covered by proof for region " ++ ascii "A")) := by
  intro intent view schedule
  refine ⟨viewOf_serves (by decide), ?_, ?_, inOrder_setTwo_valid (by decide), by decide +kernel⟩
  · intro region key mem
    rcases (keysOf_setTwo mem).2 with rfl | rfl <;> decide
  · intro region key mem
    rcases (keysOf_setTwo mem).2 with rfl | rfl
    · exact mem_cons_self
    · exact mem_cons_of_mem _ mem_cons_self

end CrossRegionAction

end Aristo
