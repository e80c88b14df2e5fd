import Aristo.Actions.CrossRegionEffects

/-!
# The ranges of an intent

`groupChangesByPrefix` sorts the changes of a region by key, in place, and joins neighbours whose
keys have the same first eight bytes.

* `groupInPlace_grouping`: for keys of at least eight bytes the ranges are the classes of "same
  first eight bytes", with the least and greatest key as bounds.
* `ranges_sliced_iff`: nothing checks the length of a key before `key[:8]` is taken.
-/

namespace Aristo

open GoBase Call XRegion List

namespace CrossRegionAction

variable {π : Type} {key : Bytes}

theorem firstEight_eq_none : firstEight key = none ↔ key.length < 8 := by
  simp [firstEight]

theorem firstEight_of_le (long : 8 ≤ key.length) : firstEight key = some (key.take 8) :=
  if_pos long

/-! ## The classes -/

def KeyRange.Contains (range : KeyRange) (key : Bytes) : Prop :=
  bytesLE range.start key ∧ bytesLE key range.stop

def KeyRange.front (range : KeyRange) : Bytes :=
  range.start.take 8

/-- A range with ordered bounds that have the same first eight bytes. -/
structure KeyRange.Proper (range : KeyRange) : Prop where
  ordered : bytesLE range.start range.stop
  fronts : range.start.take 8 = range.stop.take 8

theorem KeyRange.Proper.single (key : Bytes) : KeyRange.Proper ⟨key, key⟩ :=
  ⟨bytesLE_refl key, rfl⟩

/-- Keys between the bounds have the same first eight bytes. -/
theorem KeyRange.Proper.front_eq {range : KeyRange} (proper : range.Proper)
    (inside : range.Contains key) : key.take 8 = range.front :=
  take_eq_of_between inside.1 inside.2 proper.fronts

/-- What the loop makes of the range it is building and the keys that are left: proper ranges with
ascending fronts that contain what the range contains and the keys. -/
structure KeyGroups (current : KeyRange) (keys : List Bytes) (ranges : List KeyRange) : Prop where
  proper : ∀ range ∈ ranges, range.Proper
  starts : ∀ range ∈ ranges, range.start ∈ current.start :: keys
  stops : ∀ range ∈ ranges, range.stop ∈ current.stop :: keys
  least : ∀ range ∈ ranges, bytesLE current.front range.front
  fronts : ranges.Pairwise fun range later => range.front < later.front
  covers : ∀ key, current.Contains key ∨ key ∈ keys → ∃ range ∈ ranges, range.Contains key

variable {current : KeyRange}

/-- Without keys the range is closed, -/
theorem KeyGroups.nil (proper : current.Proper) :
    KeyGroups current [] [current] where
  proper := forall_mem_singleton.mpr proper
  starts := forall_mem_singleton.mpr mem_cons_self
  stops := forall_mem_singleton.mpr mem_cons_self
  least := forall_mem_singleton.mpr (bytesLE_refl _)
  fronts := pairwise_singleton _ _
  covers := by
    rintro key (inside | mem)
    · exact ⟨current, mem_singleton_self _, inside⟩
    · cases mem

variable {keys : List Bytes} {ranges : List KeyRange}

/-- a key with the same first eight bytes goes into it, -/
theorem KeyGroups.extend (proper : current.Proper) (above : bytesLE current.stop key)
    (rest : KeyGroups { current with stop := key } keys ranges) :
    KeyGroups current (key :: keys) ranges where
  proper := rest.proper
  starts := by
    intro range mem
    rcases mem_cons.mp (rest.starts range mem) with first | later
    · exact mem_cons.mpr (Or.inl first)
    · exact mem_cons_of_mem _ (mem_cons_of_mem _ later)
  stops := fun range mem => mem_cons_of_mem _ (rest.stops range mem)
  least := rest.least
  fronts := rest.fronts
  covers := by
    rintro other (⟨low, high⟩ | mem)
    · exact rest.covers other (Or.inl ⟨low, bytesLE_trans high above⟩)
    · rcases mem_cons.mp mem with rfl | later
      · exact rest.covers other (Or.inl ⟨bytesLE_trans proper.ordered above, bytesLE_refl other⟩)
      · exact rest.covers other (Or.inr later)

/-- and any other starts a new one. -/
theorem KeyGroups.close (proper : current.Proper) (above : current.front < key.take 8)
    (rest : KeyGroups ⟨key, key⟩ keys ranges) :
    KeyGroups current (key :: keys) (current :: ranges) where
  proper := forall_mem_cons.mpr ⟨proper, rest.proper⟩
  starts := forall_mem_cons.mpr
    ⟨mem_cons_self, fun range mem => mem_cons_of_mem _ (rest.starts range mem)⟩
  stops := forall_mem_cons.mpr
    ⟨mem_cons_self, fun range mem => mem_cons_of_mem _ (rest.stops range mem)⟩
  least := forall_mem_cons.mpr ⟨bytesLE_refl _, fun range mem =>
    bytesLE_trans (bytesLE_of_lt above) (rest.least range mem)⟩
  fronts := pairwise_cons.mpr ⟨fun range mem =>
    lt_of_lt_of_bytesLE above (rest.least range mem), rest.fronts⟩
  covers := by
    rintro other (inside | mem)
    · exact ⟨current, mem_cons_self, inside⟩
    · have found : ∃ range ∈ ranges, range.Contains other := by
        rcases mem_cons.mp mem with rfl | later
        · exact rest.covers other (Or.inl ⟨bytesLE_refl other, bytesLE_refl other⟩)
        · exact rest.covers other (Or.inr later)
      obtain ⟨range, member, inside⟩ := found
      exact ⟨range, mem_cons_of_mem _ member, inside⟩

/-- **The loop.**  On ascending keys of at least eight bytes it returns the classes. -/
theorem groupKeys_spec (proper : current.Proper)
    (long : ∀ key ∈ current.stop :: keys, 8 ≤ key.length)
    (ascending : (current.stop :: keys).Pairwise bytesLE) :
    ∃ ranges, groupKeys current keys = some ranges ∧ KeyGroups current keys ranges := by
  induction keys generalizing current with
  | nil => exact ⟨[current], rfl, KeyGroups.nil proper⟩
  | cons key keys ih =>
    obtain ⟨longStop, longKeys⟩ := forall_mem_cons.mp long
    obtain ⟨above, ascendingKeys⟩ := pairwise_cons.mp ascending
    have next : bytesLE current.stop key := above key mem_cons_self
    have longKey : 8 ≤ key.length := longKeys key mem_cons_self
    rw [groupKeys, firstEight_of_le longKey, firstEight_of_le longStop]
    by_cases same : key.take 8 = current.stop.take 8
    · have extended : KeyRange.Proper { current with stop := key } :=
        ⟨bytesLE_trans proper.ordered next, proper.fronts.trans same.symm⟩
      obtain ⟨ranges, grouped, groups⟩ := ih extended longKeys ascendingKeys
      exact ⟨ranges, by simpa [same] using grouped, groups.extend proper next⟩
    · obtain ⟨ranges, grouped, groups⟩ := ih (KeyRange.Proper.single key) longKeys ascendingKeys
      have greater : current.front < key.take 8 := by
        rw [KeyRange.front, proper.fronts]
        exact lt_of_bytesLE_of_ne (bytesLE_take next 8) (Ne.symm same)
      exact ⟨current :: ranges, by simp [same, grouped], groups.close proper greater⟩

/-- The ranges of a list of keys: one for each front, with its least and greatest key. -/
structure Partition (keys : List Bytes) (ranges : List KeyRange) : Prop where
  proper : ∀ range ∈ ranges, range.Proper
  starts : ∀ range ∈ ranges, range.start ∈ keys
  stops : ∀ range ∈ ranges, range.stop ∈ keys
  fronts : ranges.Pairwise fun range later => range.front < later.front
  covers : ∀ key ∈ keys, ∃ range ∈ ranges, range.Contains key

/-- Ascending keys are partitioned. -/
theorem groupKeysByPrefix_spec (long : ∀ key ∈ keys, 8 ≤ key.length)
    (ascending : keys.Pairwise bytesLE) :
    ∃ ranges, groupKeysByPrefix keys = some ranges ∧ Partition keys ranges := by
  cases keys with
  | nil =>
    refine ⟨[], rfl, ?_, ?_, ?_, List.Pairwise.nil, ?_⟩ <;> intro range mem <;> cases mem
  | cons key =>
    obtain ⟨ranges, grouped, groups⟩ :=
      groupKeys_spec (KeyRange.Proper.single key) long ascending
    refine ⟨ranges, grouped, groups.proper, groups.starts, groups.stops, groups.fronts, ?_⟩
    intro other mem
    rcases mem_cons.mp mem with rfl | later
    · exact groups.covers other (Or.inl ⟨bytesLE_refl other, bytesLE_refl other⟩)
    · exact groups.covers other (Or.inr later)

namespace Partition

variable {keys : List Bytes} {ranges : List KeyRange}

section

variable (partition : Partition keys ranges)

include partition

/-- The first eight bytes determine the range. -/
theorem eq_of_front_eq {range other : KeyRange} (mem : range ∈ ranges) (mem' : other ∈ ranges)
    (same : range.front = other.front) :
    range = other := by
  have distinct : (ranges.map KeyRange.front).Nodup := by
    refine pairwise_map.mpr (partition.fronts.imp fun less equal => ?_)
    rw [equal] at less
    exact List.lt_irrefl _ less
  exact List.inj_on_of_nodup_map distinct mem mem' same

end

end Partition

/-! ## The call -/

/-- The comparison of the call of `sort.Slice`. -/
def byKey (first second : StateChange) : Prop :=
  first.key < second.key

/-- `groupChangesByPrefix` as it is called: the slice is sorted in place. -/
def groupInPlace (sort : SliceSort byKey) : Call (List StateChange) (List KeyRange) := do
  let changes ← Call.read
  if changes = [] then
    return []
  else
    Call.modify sort.sort
    let sorted ← Call.read
    match groupChangesByPrefix sorted with
    | none => Call.crash
    | some ranges => return ranges

/-- The ranges are what a caller expects of them. -/
structure Grouping (changes : List StateChange) (ranges : List KeyRange) : Prop where
  ascending : ranges.Pairwise fun range later => range.stop < later.start
  disjoint : ranges.Pairwise fun range later =>
    ∀ key, ¬ (range.Contains key ∧ later.Contains key)
  ordered : ∀ range ∈ ranges, bytesLE range.start range.stop
  fronts : ∀ range ∈ ranges, range.start.take 8 = range.stop.take 8
  covered : ∀ change ∈ changes, ∃! range, range ∈ ranges ∧ range.Contains change.key
  together : ∀ first ∈ changes, ∀ second ∈ changes,
    (∃ range ∈ ranges, range.Contains first.key ∧ range.Contains second.key) ↔
      first.key.take 8 = second.key.take 8
  starts : ∀ range ∈ ranges, ∃ change ∈ changes, change.key = range.start
  stops : ∀ range ∈ ranges, ∃ change ∈ changes, change.key = range.stop

/-- Only what is among the keys matters. -/
theorem Partition.perm {sorted : List Bytes} (partition : Partition sorted ranges)
    (perm : sorted.Perm keys) : Partition keys ranges where
  proper := partition.proper
  starts range mem := perm.mem_iff.mp (partition.starts range mem)
  stops range mem := perm.mem_iff.mp (partition.stops range mem)
  fronts := partition.fronts
  covers key mem := partition.covers key (perm.mem_iff.mpr mem)

/-- A partition of the keys is what a caller expects. -/
theorem Partition.grouping {changes : List StateChange}
    (partition : Partition (changes.map StateChange.key) ranges) : Grouping changes ranges := by
  have ascending : ranges.Pairwise fun range later => range.stop < later.start := by
    refine partition.fronts.imp_of_mem fun {range later} mem _ less => ?_
    rw [KeyRange.front, KeyRange.front, (partition.proper range mem).fronts] at less
    exact lt_of_take_lt less
  have front {range : KeyRange} {key : Bytes} (mem : range ∈ ranges) (inside : range.Contains key) :
      key.take 8 = range.front := (partition.proper range mem).front_eq inside
  exact {
    ascending
    disjoint := ascending.imp fun {range later} less key inside =>
      bytesLE_trans inside.2.1 inside.1.2 less
    ordered := fun range mem => (partition.proper range mem).ordered
    fronts := fun range mem => (partition.proper range mem).fronts
    covered := by
      intro change mem
      obtain ⟨range, member, inside⟩ := partition.covers _ (mem_map_of_mem mem)
      refine ⟨range, ⟨member, inside⟩, ?_⟩
      rintro other ⟨member', inside'⟩
      exact partition.eq_of_front_eq member' member
        ((front member' inside').symm.trans (front member inside))
    together := by
      intro first mem second mem'
      constructor
      · rintro ⟨range, member, inside, inside'⟩
        rw [front member inside, front member inside']
      · intro same
        obtain ⟨range, member, inside⟩ := partition.covers _ (mem_map_of_mem mem)
        obtain ⟨range', member', inside'⟩ := partition.covers _ (mem_map_of_mem mem')
        have fronts : range.front = range'.front := by
          rw [← front member inside, same, front member' inside']
        obtain rfl := partition.eq_of_front_eq member member' fronts
        exact ⟨range, member, inside, inside'⟩
    starts := fun range mem => mem_map.mp (partition.starts range mem)
    stops := fun range mem => mem_map.mp (partition.stops range mem) }

/-- **`groupChangesByPrefix`.**  For keys of at least eight bytes the call returns ranges in
ascending order that do not overlap, one for each first eight bytes that occur, whose bounds are
keys of changes, and leaves a permutation of the list. -/
theorem groupInPlace_grouping (sort : SliceSort byKey) (changes : List StateChange)
    (someChange : changes ≠ []) (long : ∀ change ∈ changes, 8 ≤ change.key.length) :
    ∃ ranges after, groupInPlace sort changes = (.ok ranges, after) ∧
      Grouping changes ranges ∧ after.Perm changes := by
  have sorts := sort.sorts changes
  have longKeys : ∀ key ∈ (sort.sort changes).map StateChange.key, 8 ≤ key.length := by
    intro key mem
    obtain ⟨change, member, rfl⟩ := mem_map.mp mem
    exact long change (sorts.perm.mem_iff.mp member)
  obtain ⟨ranges, grouped, partition⟩ :=
    groupKeysByPrefix_spec longKeys (pairwise_map.mpr sorts.ascending)
  refine ⟨ranges, sort.sort changes, ?_, (partition.perm (sorts.perm.map _)).grouping,
    sorts.perm⟩
  have found : groupChangesByPrefix (sort.sort changes) = some ranges := grouped
  rw [groupInPlace, bind_of_ok (read_apply changes), if_neg someChange,
    bind_of_ok (modify_apply sort.sort changes), bind_of_ok (read_apply _), found]
  rfl

def changeOf (key : Bytes) : StateChange :=
  { key, value := [], operation := .set, source := [], target := [] }

def insertionByKey : SliceSort byKey where
  sort := List.insertionSort fun first second => bytesLE first.key second.key
  sorts input := by
    have total : Std.Total fun first second : StateChange => bytesLE first.key second.key :=
      ⟨fun _ _ => bytesLE_total _ _⟩
    have transitive : IsTrans StateChange fun first second => bytesLE first.key second.key :=
      ⟨fun _ _ _ => bytesLE_trans⟩
    have ascending : (input.insertionSort fun first second => bytesLE first.key second.key).Pairwise
        fun first second => bytesLE first.key second.key := pairwise_insertionSort _ input
    exact ⟨perm_insertionSort _ input, ascending⟩

/-- Three keys with two different fronts, out of order. -/
theorem groupInPlace_grouping_three :
    let changes := [changeOf (ascii "object-2"), changeOf (ascii "ledger-1"),
      changeOf (ascii "object-2/x")]
    (∀ change ∈ changes, 8 ≤ change.key.length) ∧
      ∃ ranges after, groupInPlace insertionByKey changes = (.ok ranges, after) ∧
        Grouping changes ranges ∧ after.Perm changes := by
  intro changes
  have long : ∀ change ∈ changes, 8 ≤ change.key.length := by decide
  exact ⟨long, groupInPlace_grouping insertionByKey changes (cons_ne_nil _ _) long⟩

/-! ## Short keys -/

/-- The loop panics when it is entered and one of the keys is short: each key is sliced. -/
theorem groupKeys_eq_none_iff :
    groupKeys current keys = none ↔
      keys ≠ [] ∧ ∃ key ∈ current.stop :: keys, key.length < 8 := by
  induction keys generalizing current with
  | nil => simp [groupKeys]
  | cons key keys ih =>
    rw [groupKeys]
    by_cases short : key.length < 8
    · rw [firstEight_eq_none.mpr short]
      exact iff_of_true rfl ⟨cons_ne_nil _ _, key, by simp, short⟩
    rw [firstEight_of_le (Nat.not_lt.mp short)]
    by_cases shortStop : current.stop.length < 8
    · rw [firstEight_eq_none.mpr shortStop]
      exact iff_of_true rfl ⟨cons_ne_nil _ _, _, mem_cons_self, shortStop⟩
    rw [firstEight_of_le (Nat.not_lt.mp shortStop)]
    -- with both slices taken, what is left to slice is what is left of the keys
    have rest : ∀ next : KeyRange, next.stop = key → (groupKeys next keys = none ↔
        key :: keys ≠ [] ∧ ∃ other ∈ current.stop :: key :: keys, other.length < 8) := by
      intro next stop
      rw [ih, stop]
      simp only [mem_cons, exists_eq_or_imp, short, shortStop, false_or]
      refine ⟨fun both => ⟨cons_ne_nil _ _, both.2⟩, fun both => ⟨?_, both.2⟩⟩
      obtain ⟨other, mem, -⟩ := both.2
      exact ne_nil_of_mem mem
    by_cases same : key.take 8 = current.stop.take 8
    · simpa [same] using rest { current with stop := key } rfl
    · rw [← rest ⟨key, key⟩ rfl]
      cases groupKeys ⟨key, key⟩ keys <;> simp [same]

/-- A single key is not sliced. -/
theorem groupKeysByPrefix_eq_none_iff :
    groupKeysByPrefix keys = none ↔ 2 ≤ keys.length ∧ ∃ key ∈ keys, key.length < 8 := by
  cases keys with
  | nil => simp [groupKeysByPrefix]
  | cons =>
    rw [groupKeysByPrefix, groupKeys_eq_none_iff]
    refine and_congr_left fun _ => ?_
    rw [length_cons, ← length_pos_iff]
    omega

/-- The loop over the regions panics where it panics for one of them. -/
theorem requiredRanges_eq_none_iff {keys : Bytes → List Bytes} {order : List Bytes} :
    requiredRanges keys order = none ↔
      ∃ region ∈ order, groupKeysByPrefix (keys region) = none := by
  induction order with
  | nil => simp [requiredRanges]
  | cons region order ih =>
    rw [requiredRanges]
    cases grouped : groupKeysByPrefix (keys region) with
    | none => simp [grouped]
    | some =>
      cases later : requiredRanges keys order with
      | none => simpa [grouped, later] using ih.mp later
      | some =>
        have none := ih.not.mp (by simp [later])
        simpa [grouped] using none

/-- Every region with two changes has keys of at least eight bytes only. -/
def Sliceable (intent : CrossRegionIntent) : Prop :=
  ∀ region, 2 ≤ (intent.stateChanges.get region).length →
    ∀ change ∈ intent.stateChanges.get region, 8 ≤ change.key.length

variable {schedule : Schedule π} {intent : CrossRegionIntent}

/-- **No key of an intent is sliced out of range when it is sliceable.** -/
theorem requiredRanges_ne_none_iff (valid : schedule.Valid intent) :
    requiredRanges (fun region => (schedule.sorted region).map StateChange.key) schedule.ranges ≠
        none ↔ Sliceable intent := by
  rw [Ne, requiredRanges_eq_none_iff]
  constructor
  · intro none region two change mem
    by_contra short
    have present : region ∈ intent.stateChanges := GoMap.mem_of_mem_get mem
    refine none ⟨region, (valid.ranges.mem_iff region).mpr present,
      groupKeysByPrefix_eq_none_iff.mpr ⟨?_, change.key, ?_, Nat.not_le.mp short⟩⟩
    · rw [length_map, (valid.sorted region).perm.length_eq]
      exact two
    · exact mem_map_of_mem ((valid.sorted region).mem_iff.mpr mem)
  · rintro sliceable ⟨region, -, none⟩
    obtain ⟨two, key, mem, short⟩ := groupKeysByPrefix_eq_none_iff.mp none
    obtain ⟨change, member, rfl⟩ := mem_map.mp mem
    rw [length_map, (valid.sorted region).perm.length_eq] at two
    have long := sliceable region two change ((valid.sorted region).mem_iff.mp member)
    omega

variable {world : World π}

/-- Where a slice is out of range the call panics, -/
theorem foldlM_addRanges_panicked (here : world.intent = some intent)
    (same : SameEmpty schedule.sorted intent) {ranges : List RangeRequest} {order : List Bytes}
    (none : requiredRanges (fun region => (schedule.sorted region).map StateChange.key) order =
      none) :
    (order.foldlM (addRanges schedule) ranges world).1 = .panicked := by
  induction order generalizing ranges world intent with
  | nil => cases none
  | cons region order ih =>
    rw [foldlM_cons]
    cases grouped : groupChangesByPrefix (schedule.sorted region) with
    | none =>
      have entered : addRanges schedule ranges region world = _ :=
        bind_of_ok (receiver_eq_ok.mpr ⟨here, rfl⟩)
      have changes : intent.stateChanges.get region ≠ [] := by
        intro empty
        rw [(same region).mp empty] at grouped
        cases grouped
      rw [if_neg changes, bind_of_ok (sortChanges_apply here region _), grouped]
        at entered
      rw [bind_of_panicked entered]
    | some keyRanges =>
      rw [bind_of_ok ((addRanges_eq_ok here same).mpr ⟨keyRanges, grouped, rfl, rfl⟩)]
      refine ih rfl (same.sortAll [region]) ?_
      rw [groupChangesByPrefix] at grouped
      cases later : requiredRanges
          (fun region => (schedule.sorted region).map StateChange.key) order with
      | none => rfl
      | some more =>
        rw [requiredRanges, grouped, later] at none
        cases none

/-- and nowhere else. -/
theorem getRequiredRanges_returns_iff (here : world.intent = some intent)
    (valid : schedule.Valid intent) :
    (getRequiredRanges schedule world).1 ≠ .panicked ↔ Sliceable intent := by
  rw [← requiredRanges_ne_none_iff valid, getRequiredRanges]
  refine not_congr ⟨fun panicked => ?_, foldlM_addRanges_panicked here valid.sameEmpty⟩
  cases required : requiredRanges
      (fun region => (schedule.sorted region).map StateChange.key) schedule.ranges with
  | none => rfl
  | some ranges =>
    have collected : schedule.ranges.foldlM (addRanges schedule) [] world = (.ok ranges, _) :=
      (foldlM_addRanges_eq_ok here valid.sameEmpty).mpr ⟨ranges, required, rfl, rfl⟩
    rw [collected] at panicked
    cases panicked

/-! ## The rest of `Execute` does not panic -/

/-- A request does not panic. -/
theorem requestProof_returns (evict : ℕ → State.CacheEntries π → List State.ID)
    (proofs : Proofs π) (request : RangeRequest × ℕ) :
    Call.Returns (requestProof evict proofs request) := by
  refine returns_bind (returns_wrapping _ ?_) fun _ => returns_pure _
  refine returns_bind (returns_wrapping _ ?_) fun _ => returns_pure _
  refine returns_bind returns_read fun store => ?_
  refine returns_bind (returns_lift _) fun root => ?_
  cases store.cache.get request.1.startKey request.1.endKey root with
  | some => exact returns_pure _
  | none =>
    refine returns_bind (returns_lift _) fun proof => ?_
    cases store.view.iterError with
    | some error => exact returns_fail error
    | none => exact returns_bind (returns_modify _) fun _ => returns_pure _

/-- `Execute` from the proof requests up to its apply loop. -/
def afterRanges (schedule : Schedule π) (ctx : Option Context) (ranges : List RangeRequest) :
    Call (World π) Unit := do
  let proofs ← onStore (requestProofs schedule.evict ranges)
  let intent ← receiver
  let regions := schedule.confirm.filter fun region => intent.stateChanges.get region ≠ []
  let signature ← Call.wrapping (ascii "failed to sign intent")
    (Call.lift (Coordinator.sign intent.id))
  Call.wrapping (ascii "failed to process regions")
    (Call.lift (RegionProcessor.processRegions ⟨4⟩ ctx intent.id regions signature))
  Call.lift (forM schedule.verify (verifyRegion intent proofs))

/-- What follows does not panic. -/
theorem afterRanges_returns (schedule : Schedule π) (ctx : Option Context)
    (ranges : List RangeRequest) (here : world.intent = some intent) :
    (afterRanges schedule ctx ranges world).1 ≠ .panicked := by
  have requests : Call.Returns (requestProofs schedule.evict ranges) := by
    unfold requestProofs
    exact returns_foldlM (requestProof_returns schedule.evict) _ _
  intro panicked
  obtain ⟨proofs, asked, received, later⟩ :=
    (bind_fst_eq_panicked_iff (returns_focus requests world)).mp panicked
  obtain ⟨store, -, rfl⟩ := focus_eq_ok.mp received
  have found : receiver { world with store } = (.ok intent, { world with store }) :=
    receiver_eq_ok.mpr ⟨here, rfl⟩
  rw [bind_of_ok found] at later
  refine returns_bind (returns_wrapping _ (returns_lift _)) (fun signature => ?_) _
    later
  exact returns_bind (returns_wrapping _ (returns_lift _)) fun _ =>
    returns_lift _

/-- An accepted intent makes `Execute` panic where it makes `getRequiredRanges` panic. -/
theorem execute_returns_iff {ctx : Option Context} (here : world.intent = some intent)
    (valid : schedule.Valid intent)
    (accepted : validateBasic ⟨some intent⟩ schedule.validate schedule.signatures = .ok ()) :
    (execute schedule ctx world).1 ≠ .panicked ↔
      (getRequiredRanges schedule world).1 ≠ .panicked := by
  have checked : validateBasic ⟨world.intent⟩ schedule.validate schedule.signatures = .ok () := by
    rw [here]
    exact accepted
  have prepares : prepare schedule ctx world =
      (getRequiredRanges schedule >>= afterRanges schedule ctx) world :=
    (bind_of_ok (read_apply world)).trans
      ((lift_bind_of_ok checked).trans (bind_of_ok rfl))
  refine not_congr ⟨fun panicked => ?_, fun panicked => ?_⟩
  · by_contra returns
    -- what follows the ranges finds the intent, and so does what follows `prepare`
    have prepared : (prepare schedule ctx world).1 ≠ .panicked := by
      intro panicked
      rw [prepares] at panicked
      obtain ⟨ranges, after, collected, later⟩ :=
        (bind_fst_eq_panicked_iff returns).mp panicked
      obtain ⟨more, -, -, rfl⟩ := (foldlM_addRanges_eq_ok here valid.sameEmpty).mp collected
      exact afterRanges_returns schedule ctx ranges rfl later
    obtain ⟨_, after, done, later⟩ := (bind_fst_eq_panicked_iff prepared).mp panicked
    obtain ⟨ranges, proofs, store', -, rfl⟩ := (prepare_eq_ok here valid).mp done
    have applies {world : World π} {intent} (here : world.intent = some intent) :
        (applyChanges schedule world).1 ≠ .panicked := by
      rw [applyChanges, bind_of_ok (receiver_eq_ok.mpr ⟨here, rfl⟩)]
      refine returns_focus (returns_forM (fun region => returns_forM (fun change mu => ?_) _) _) _
      simp [applyChange_apply]
    obtain ⟨_, last, -, returned⟩ := (bind_fst_eq_panicked_iff (applies rfl)).mp later
    cases returned
  · rcases h : getRequiredRanges schedule world with ⟨outcome, after⟩
    rw [h] at panicked
    obtain rfl : outcome = .panicked := panicked
    have stopped : prepare schedule ctx world = (.panicked, after) :=
      prepares.trans (bind_of_panicked h)
    have ended : execute schedule ctx world = (.panicked, after) := bind_of_panicked stopped
    rw [ended]

/-- **When no key is sliced out of range.**  For an intent that `ValidateBasic` accepts, neither
`getRequiredRanges` nor `Execute` panics exactly when every region with at least two changes has
keys of at least eight bytes only. -/
theorem ranges_sliced_iff (schedule : Schedule π) (ctx : Option Context)
    (intent : CrossRegionIntent) (mu : Mutable) (store : State.MerkleStore π)
    (valid : schedule.Valid intent)
    (accepted : validateBasic ⟨some intent⟩ schedule.validate schedule.signatures = .ok ()) :
    ((getRequiredRanges schedule { intent := some intent, mu, store }).1 ≠ .panicked ∧
        (executeOn schedule ctx intent mu store).1 ≠ .panicked) ↔ Sliceable intent := by
  rw [executeOn, execute_returns_iff rfl valid accepted, and_self]
  exact getRequiredRanges_returns_iff rfl valid

def setTwo (first second : Bytes) : CrossRegionIntent :=
  .betweenAB [(ascii "A", [changeOf first, changeOf second])]

theorem inOrder_setTwo_valid {first second : Bytes} (ascending : bytesLE first second) :
    (inOrder (setTwo first second) [ascii "A"]).Valid (setTwo first second) := by
  refine inOrder_valid (nodup_singleton _) (List.Perm.refl _) ?_
  intro region mem
  obtain rfl := mem_singleton.mp mem
  exact pairwise_pair.mpr ascending

/-- Two keys of eight bytes. -/
theorem ranges_sliced_iff_objects :
    let intent := setTwo (ascii "object-1") (ascii "object-2")
    let schedule := inOrder intent [ascii "A"]
    schedule.Valid intent ∧
      validateBasic ⟨some intent⟩ schedule.validate schedule.signatures = .ok () ∧
      (getRequiredRanges schedule ⟨some intent, fun _ => none, objectStore⟩).1 ≠ .panicked := by
  intro intent schedule
  have valid : schedule.Valid intent := inOrder_setTwo_valid (by decide)
  have accepted : validateBasic ⟨some intent⟩ schedule.validate schedule.signatures = .ok () := by
    decide +kernel
  refine ⟨valid, accepted, ((ranges_sliced_iff schedule background intent (fun _ => none)
    objectStore valid accepted).mpr fun region _ => ?_).1⟩
  exact valid.ranges.forall_mem_get (by decide +kernel) region

/-- Two keys of one byte: the intent is accepted and `Execute` panics. -/
theorem short_keys_panic :
    let intent := setTwo (ascii "a") (ascii "b")
    let schedule := inOrder intent [ascii "A"]
    schedule.Valid intent ∧
      validateBasic ⟨some intent⟩ schedule.validate schedule.signatures = .ok () ∧
      (getRequiredRanges schedule ⟨some intent, fun _ => none, objectStore⟩).1 = .panicked ∧
      (executeOn schedule background intent (fun _ => none) objectStore).1 = .panicked := by
  intro intent schedule
  exact ⟨inOrder_setTwo_valid (by decide), by decide +kernel, by decide +kernel,
    by decide +kernel⟩

end CrossRegionAction

end Aristo
