import Aristo.Actions.CrossRegion
import Aristo.XRegion.Validate

/-!
# The effect of a cross-region intent

What a successful `CrossRegionAction.Execute` leaves in `mu`, derived from `execute_eq_ok`: the
writes of the apply loop, in the order of the schedule.  The loop visits the regions in map order
and the changes of a region in the order of an unstable sort, so of two disagreeing changes either
can be the last (`execute_deterministic_iff`).  It has no case for `StateOpDelete`
(`execute_applied_iff`), and none for `StateOpTransferIn`.
-/

namespace Aristo

open GoBase XRegion CrossRegionIntent List

namespace XRegion.CrossRegionIntent

/-- A change that sets a key and a change that removes it or sets it to another
value. -/
def Conflict (first second : StateChange) : Prop :=
  first.key = second.key ∧ first.operation = .set ∧
    (second.operation = .transferOut ∨
      second.operation = .set ∧ first.value ≠ second.value)

/-- No two changes of the intent conflict. -/
def ConflictFree (intent : CrossRegionIntent) : Prop :=
  ∀ region, ∀ first ∈ intent.stateChanges.get region,
    ∀ other, ∀ second ∈ intent.stateChanges.get other, ¬ Conflict first second

/-- No key is mentioned by more than one change. -/
def KeysOnce (intent : CrossRegionIntent) : Prop :=
  ∀ order, intent.stateChanges.Visits order →
    ((intent.visited order).map fun placed => placed.2.key).Nodup

/-- A key that is mentioned once determines the change. -/
theorem KeysOnce.unique {intent : CrossRegionIntent} (once : intent.KeysOnce)
    {region other : Bytes} {first second : StateChange}
    (hfirst : first ∈ intent.stateChanges.get region)
    (hsecond : second ∈ intent.stateChanges.get other)
    (same : first.key = second.key) : first = second := by
  obtain ⟨order, visits⟩ := GoMap.exists_visits intent.stateChanges
  have equal : (region, first) = (other, second) :=
    inj_on_of_nodup_map (once order visits) ((mem_visited visits).mpr hfirst)
      ((mem_visited visits).mpr hsecond) same
  exact (Prod.mk.inj equal).2

end XRegion.CrossRegionIntent

namespace CrossRegionAction

variable {π : Type} {intent : CrossRegionIntent} {mu : Mutable}
  {store : State.MerkleStore π} {schedule : Schedule π} {ctx : Option Context}

/-- The call on an intent, a mutable state and a coordinator's store. -/
def executeOn (schedule : Schedule π) (ctx : Option Context) (intent : CrossRegionIntent)
    (mu : Mutable) (store : State.MerkleStore π) : Outcome CrossRegionResult × World π :=
  execute schedule ctx { intent := some intent, mu, store }

/-- A call that succeeds has passed its checks and made the writes of its schedule. -/
theorem executeOn_inversion (valid : schedule.Valid intent)
    (succeeds : (executeOn schedule ctx intent mu store).1.Succeeded) :
    (∃ ranges proofs store', Prepared schedule ctx intent store ranges proofs store') ∧
      (executeOn schedule ctx intent mu store).2.mu = applyWrites mu (applyLog schedule) := by
  obtain ⟨result, ok⟩ := Outcome.succeeded_iff.mp succeeds
  have ended : executeOn schedule ctx intent mu store =
      (.ok result, (executeOn schedule ctx intent mu store).2) := Prod.ext ok rfl
  obtain ⟨ranges, proofs, store', prepared, -, after⟩ := (execute_eq_ok rfl valid).mp ended
  exact ⟨⟨ranges, proofs, store', prepared⟩, congrArg World.mu after⟩

/-! ## The writes of a schedule -/

variable {change : StateChange} {write : Write Bytes Bytes}

/-- Only setting and transferring out write. -/
theorem mem_writes_iff :
    write ∈ writes change ↔
      change.operation = .set ∧ write = (change.key, some change.value) ∨
        change.operation = .transferOut ∧ write = (change.key, none) := by
  unfold writes
  by_cases set : change.operation = .set
  · simp [set]
  · by_cases out : change.operation = .transferOut <;> simp [set, out]

theorem key_of_mem_writes (mem : write ∈ writes change) : write.1 = change.key := by
  rcases mem_writes_iff.mp mem with ⟨-, rfl⟩ | ⟨-, rfl⟩ <;> rfl

/-- Every schedule makes the same writes, in some order. -/
theorem mem_applyLog (valid : schedule.Valid intent) :
    write ∈ applyLog schedule ↔
      ∃ region, ∃ change ∈ intent.stateChanges.get region, write ∈ writes change := by
  simp only [applyLog, mem_flatMap]
  constructor
  · rintro ⟨change, ⟨region, -, mem⟩, made⟩
    exact ⟨region, change, (valid.sorted region).mem_iff.mp mem, made⟩
  · rintro ⟨region, change, mem, made⟩
    refine ⟨change, ⟨region, (valid.apply.mem_iff region).mpr ?_, ?_⟩, made⟩
    · exact GoMap.mem_of_mem_get mem
    · exact (valid.sorted region).mem_iff.mpr mem

/-- Without conflicts, writes of one key agree. -/
theorem agree_of_conflictFree (valid : schedule.Valid intent) (free : intent.ConflictFree) :
    Agree (applyLog schedule) := by
  intro first hfirst second hsecond same
  obtain ⟨region, change, mem, made⟩ := (mem_applyLog valid).mp hfirst
  obtain ⟨region', change', mem', made'⟩ := (mem_applyLog valid).mp hsecond
  have keys : change.key = change'.key := by
    rw [← key_of_mem_writes made, ← key_of_mem_writes made', same]
  rcases mem_writes_iff.mp made with ⟨set, rfl⟩ | ⟨out, rfl⟩ <;>
    rcases mem_writes_iff.mp made' with ⟨set', rfl⟩ | ⟨out', rfl⟩
  · by_contra differ
    exact free region change mem region' change' mem'
      ⟨keys, set, Or.inr ⟨set', fun equal => differ (congrArg some equal)⟩⟩
  · exact absurd ⟨keys, set, Or.inl out'⟩ (free region change mem region' change' mem')
  · exact absurd ⟨keys.symm, set', Or.inl out⟩ (free region' change' mem' region change mem)
  · rfl

/-! ## Determinism -/

/-- All successful calls on one intent, state and store end with the same `mu`. -/
def Deterministic (intent : CrossRegionIntent) (mu : Mutable)
    (store : State.MerkleStore π) : Prop :=
  ∀ (first second : Schedule π) (ctx ctx' : Option Context),
    first.Valid intent → second.Valid intent →
      (executeOn first ctx intent mu store).1.Succeeded →
        (executeOn second ctx' intent mu store).1.Succeeded →
          (executeOn first ctx intent mu store).2.mu =
            (executeOn second ctx' intent mu store).2.mu

/-- The schedule that leaves `list` of the changes of `region` and applies them
last. -/
def Schedule.applyLast (schedule : Schedule π) (region : Bytes) (list : List StateChange) :
    Schedule π :=
  { schedule with
    sorted := Function.update schedule.sorted region list
    apply := schedule.apply.erase region ++ [region] }

variable {region : Bytes}

/-- Any region can come last, with any sort of its changes. -/
theorem Schedule.Valid.applyLast (valid : schedule.Valid intent)
    (present : region ∈ intent.stateChanges) {list : List StateChange}
    (sorted : SortedBy StateChange.key (intent.stateChanges.get region) list) :
    (schedule.applyLast region list).Valid intent := by
  refine { valid with sorted := fun other => ?_, apply := valid.apply.last present }
  by_cases equal : other = region
  · subst equal
    simpa [Schedule.applyLast] using sorted
  · simpa [Schedule.applyLast, equal] using valid.sorted other

/-- Everything before the apply loop sees the keys of the sorted lists only, which
are the same for every sort. -/
theorem Prepared.applyLast (valid : schedule.Valid intent) (present : region ∈ intent.stateChanges)
    {list : List StateChange}
    (sorted : SortedBy StateChange.key (intent.stateChanges.get region) list)
    {ranges : List RangeRequest} {proofs : Proofs π} {store' : State.MerkleStore π}
    (prepared : Prepared schedule ctx intent store ranges proofs store') :
    Prepared (schedule.applyLast region list) ctx intent store ranges proofs store' := by
  have keys : ∀ other, ((schedule.applyLast region list).sorted other).map StateChange.key =
      (schedule.sorted other).map StateChange.key :=
    fun other => ((valid.applyLast present sorted).sorted other).keys_eq (valid.sorted other)
  refine ⟨prepared.valid, ?_, prepared.received, prepared.confirmed, fun other visited => ?_⟩
  · rw [funext keys]
    exact prepared.required
  · rw [keys other]
    exact prepared.covered other visited

/-- Of the changes of a key, `Execute` can leave any that writes as the last. -/
theorem exists_schedule_last (valid : schedule.Valid intent)
    (succeeds : (executeOn schedule ctx intent mu store).1.Succeeded)
    (mem : change ∈ intent.stateChanges.get region) {contents : Option Bytes}
    (made : writes change = [(change.key, contents)]) :
    ∃ other : Schedule π, other.Valid intent ∧
      (executeOn other ctx intent mu store).1.Succeeded ∧
        (executeOn other ctx intent mu store).2.mu change.key = contents := by
  have present : region ∈ intent.stateChanges := GoMap.mem_of_mem_get mem
  obtain ⟨before, after, sorted, last⟩ := (valid.sorted region).exists_last mem
  have valid' := valid.applyLast present sorted
  obtain ⟨⟨ranges, proofs, store', prepared⟩, -⟩ := executeOn_inversion valid succeeds
  have done : executeOn (schedule.applyLast region (before ++ change :: after)) ctx intent mu
      store = (.ok { success := true }, _) :=
    (execute_eq_ok rfl valid').mpr
      ⟨ranges, proofs, store', prepared.applyLast valid present sorted, rfl, rfl⟩
  have succeeds' := Outcome.succeeded_iff.mpr ⟨_, congrArg Prod.fst done⟩
  refine ⟨_, valid', succeeds', ?_⟩
  have log : applyLog (schedule.applyLast region (before ++ change :: after)) =
      ((schedule.apply.erase region).flatMap (Function.update schedule.sorted region
        (before ++ change :: after)) ++ before).flatMap writes ++
          (writes change ++ after.flatMap writes) := by
    simp [applyLog, Schedule.applyLast]
  rw [(executeOn_inversion valid' succeeds').2, log, made]
  refine applyWrites_last mu _ (after.flatMap writes) (change.key, contents) ?_
  intro later hlater
  obtain ⟨change', hchange', made'⟩ := mem_flatMap.mp hlater
  rw [key_of_mem_writes made']
  exact last change' hchange'

/-- **When the final state is determined.**  For an intent that `Execute` carries
out under some schedule, all schedules end in the same state exactly when no change
sets a key that another change of the intent removes or sets to another value. -/
theorem execute_deterministic_iff (intent : CrossRegionIntent) (mu : Mutable)
    (store : State.MerkleStore π) (schedule : Schedule π) (ctx : Option Context)
    (valid : schedule.Valid intent)
    (succeeds : (executeOn schedule ctx intent mu store).1.Succeeded) :
    Deterministic intent mu store ↔ intent.ConflictFree := by
  constructor
  · rintro deterministic region first hfirst region' second hsecond ⟨keys, set, clash⟩
    have made : writes first = [(first.key, some first.value)] := by simp [writes, set]
    obtain ⟨s, hs, ok, left⟩ := exists_schedule_last valid succeeds hfirst made
    rcases clash with out | ⟨set', differ⟩
    · have made' : writes second = [(second.key, none)] := by simp [writes, out]
      obtain ⟨s', hs', ok', right⟩ := exists_schedule_last valid succeeds hsecond made'
      rw [deterministic s s' ctx ctx hs hs' ok ok', keys, right] at left
      cases left
    · have made' : writes second = [(second.key, some second.value)] := by
        simp [writes, set']
      obtain ⟨s', hs', ok', right⟩ := exists_schedule_last valid succeeds hsecond made'
      rw [deterministic s s' ctx ctx hs hs' ok ok', keys, right] at left
      exact differ (Option.some.inj left).symm
  · intro free s s' c c' hs hs' ok ok'
    rw [(executeOn_inversion hs ok).2, (executeOn_inversion hs' ok').2]
    refine applyWrites_eq_of_agree mu (agree_of_conflictFree hs free) fun write => ?_
    rw [mem_applyLog hs, mem_applyLog hs']

/-- The schedule in which every loop over the regions follows one order and sorting
changes nothing. -/
def Schedule.along (intent : CrossRegionIntent) (regions signatures : List Bytes)
    (evict : ℕ → State.CacheEntries π → List State.ID) : Schedule π where
  validate := regions
  signatures := signatures
  ranges := regions
  sorted := intent.stateChanges.get
  evict := evict
  confirm := regions
  verify := regions
  apply := regions

def objectStore : State.MerkleStore Unit :=
  .new
    { pairs := [(ascii "object-1", ascii "data")]
      iterError := none
      merkleRoot := .ok fun _ => 0
      rangeProof := fun _ _ _ => .ok () }

def background : Option Context :=
  some { done := none }

noncomputable def someEvict (_request : ℕ) (entries : State.CacheEntries Unit) :
    List State.ID :=
  (GoMap.exists_visits entries).choose

/-- The schedules of the intents below that visit the regions in one order. -/
noncomputable def inOrder (intent : CrossRegionIntent) (regions : List Bytes) :
    Schedule Unit :=
  .along intent regions [ascii "A", ascii "B"] someEvict

/-- These schedules are valid when the changes of every region are sorted. -/
theorem inOrder_valid {changes : List (Bytes × List StateChange)} {regions : List Bytes}
    (distinct : (changes.map Prod.fst).Nodup) (p : regions.Perm (changes.map Prod.fst))
    (sorted : ∀ region ∈ regions,
      ((CrossRegionIntent.betweenAB changes).stateChanges.get region).Pairwise
        fun first second => bytesLE first.key second.key) :
    (inOrder (.betweenAB changes) regions).Valid (.betweenAB changes) := by
  have visits : (CrossRegionIntent.betweenAB changes).stateChanges.Visits regions :=
    GoMap.visits_ofEntries distinct p
  exact {
    validate := visits
    signatures := GoMap.visits_ofEntries (by decide) (List.Perm.refl _)
    ranges := visits
    sorted region := ⟨List.Perm.refl _, visits.forall_get List.Pairwise.nil sorted region⟩
    evict _ entries := (GoMap.exists_visits entries).choose_spec
    confirm := visits
    verify := visits
    apply := visits }

theorem inOrder_oneChange_valid (operation : StateOperation) :
    (inOrder (oneChange operation) [ascii "A"]).Valid (oneChange operation) := by
  refine inOrder_valid (nodup_singleton _) (List.Perm.refl _) ?_
  intro region mem
  obtain rfl := mem_singleton.mp mem
  exact pairwise_singleton _ (objectChange operation)

/-- Region `A` sets an object and region `B` gives another one away. -/
def apartChanges : CrossRegionIntent :=
  .betweenAB [(ascii "A", [objectChange .set]),
    (ascii "B", [{ objectChange .transferOut with key := ascii "object-2" }])]

def twoObjects : State.MerkleStore Unit :=
  .new { objectStore.view with
    pairs := [(ascii "object-1", ascii "data"), (ascii "object-2", ascii "data")] }

noncomputable def apartInOrder : Schedule Unit :=
  inOrder apartChanges [ascii "B", ascii "A"]

theorem apartInOrder_valid : apartInOrder.Valid apartChanges :=
  inOrder_valid (by decide) (List.Perm.swap _ _ _) (by decide)

/-- Changes of two objects in two regions are conflict-free and deterministic. -/
theorem execute_deterministic_iff_apartChanges :
    (executeOn apartInOrder background apartChanges (fun _ => none) twoObjects).1.Succeeded ∧
      (Deterministic apartChanges (fun _ => none) twoObjects ↔ apartChanges.ConflictFree) :=
  ⟨by decide +kernel,
    execute_deterministic_iff apartChanges (fun _ => none) twoObjects apartInOrder background
      apartInOrder_valid (by decide +kernel)⟩

/-- An object that one region transfers out and another sets is absent or present
in the end, depending on which region is visited last. -/
theorem outThenSet_depends_on_order :
    ¬ Deterministic (twoChanges .transferOut .set) (fun _ => none) objectStore := by
  intro deterministic
  have distinct : ([ascii "A", ascii "B"] : List Bytes).Nodup := by decide
  have same := deterministic
    (inOrder (twoChanges .transferOut .set) [ascii "A", ascii "B"])
    (inOrder (twoChanges .transferOut .set) [ascii "B", ascii "A"])
    background background
    (inOrder_valid distinct (List.Perm.refl _) (by decide))
    (inOrder_valid distinct (List.Perm.swap _ _ _) (by decide))
    (by decide +kernel) (by decide +kernel)
  exact absurd (congrFun same (ascii "object-1")) (by decide +kernel)

/-! ## The effect of each operation -/

/-- Every change has had the effect its operation names, and nothing else has
changed. -/
structure Applied (intent : CrossRegionIntent) (mu mu' : Mutable) : Prop where
  bound : ∀ region, ∀ change ∈ intent.stateChanges.get region,
    change.operation = .set ∨ change.operation = .transferIn →
      mu' change.key = some change.value
  unbound : ∀ region, ∀ change ∈ intent.stateChanges.get region,
    change.operation = .delete ∨ change.operation = .transferOut → mu' change.key = none
  frame : ∀ key,
    (∀ region, ∀ change ∈ intent.stateChanges.get region, change.key = key →
      change.operation ∉ [.set, .transferIn, .delete, .transferOut]) →
      mu' key = mu key

/-- Every key that the intent deletes is absent. -/
def DeletesAbsent (intent : CrossRegionIntent) (mu : Mutable) : Prop :=
  ∀ region, ∀ change ∈ intent.stateChanges.get region,
    change.operation = .delete → mu change.key = none

section

variable (valid : schedule.Valid intent)
  (succeeds : (executeOn schedule ctx intent mu store).1.Succeeded)

include valid succeeds

/-- A call that succeeds has passed the validation. -/
theorem accepts_of_succeeded :
    intent.Accepts schedule.validate := by
  obtain ⟨⟨ranges, proofs, store', prepared⟩, -⟩ := executeOn_inversion valid succeeds
  obtain ⟨-, -, accepted, -⟩ := validateBasic_eq_ok.mp prepared.valid
  exact accepted

/-- A key that nobody sets or transfers out stays as it is. -/
theorem executeOn_frame {key : Bytes}
    (untouched : ∀ region, ∀ change ∈ intent.stateChanges.get region, change.key = key →
      change.operation ≠ .set ∧ change.operation ≠ .transferOut) :
    (executeOn schedule ctx intent mu store).2.mu key = mu key := by
  rw [(executeOn_inversion valid succeeds).2]
  refine applyWrites_of_notMem mu fun write mem equal => ?_
  obtain ⟨region, change, hchange, made⟩ := (mem_applyLog valid).mp mem
  obtain ⟨notSet, notOut⟩ :=
    untouched region change hchange ((key_of_mem_writes made).symm.trans equal)
  rcases mem_writes_iff.mp made with ⟨set, -⟩ | ⟨out, -⟩
  · exact notSet set
  · exact notOut out

/-- **The key of a received transfer is lost**: a transfer in is not applied, and the transfer out
that validation demands of its key is. -/
theorem transferIn_loses_value (mem : change ∈ intent.stateChanges.get region)
    (inward : change.operation = .transferIn)
    (unset : ∀ other, ∀ second ∈ intent.stateChanges.get other,
      second.key = change.key → second.operation ≠ .set) :
    (executeOn schedule ctx intent mu store).2.mu change.key = none := by
  obtain ⟨sender, out, hout, isOut, same, -⟩ :=
    CrossRegionIntent.exists_out_of_accepts valid.validate (accepts_of_succeeded valid succeeds)
      mem inward
  have removed : (change.key, none) ∈ applyLog schedule :=
    (mem_applyLog valid).mpr ⟨sender, out, hout, mem_writes_iff.mpr (Or.inr ⟨isOut, by rw [same]⟩)⟩
  rw [(executeOn_inversion valid succeeds).2, applyWrites_apply]
  cases last : lastWrite (applyLog schedule) change.key with
  | none => exact absurd rfl (lastWrite_eq_none_iff.mp last _ removed)
  | some =>
    obtain ⟨other, second, hsecond, made⟩ := (mem_applyLog valid).mp (mem_of_lastWrite last)
    rcases mem_writes_iff.mp made with ⟨set, equal⟩ | ⟨-, equal⟩
    · exact absurd set (unset other second hsecond (Prod.mk.inj equal).1.symm)
    · exact (Prod.mk.inj equal).2

end

/-- **When the operations have the effects they name.**  For a successful call on an
intent that mentions no key twice, every change has been applied exactly when every
deleted key was absent before the call. -/
theorem execute_applied_iff (intent : CrossRegionIntent) (mu : Mutable)
    (store : State.MerkleStore π) (schedule : Schedule π) (ctx : Option Context)
    (valid : schedule.Valid intent)
    (succeeds : (executeOn schedule ctx intent mu store).1.Succeeded)
    (once : intent.KeysOnce) :
    Applied intent mu (executeOn schedule ctx intent mu store).2.mu ↔
      DeletesAbsent intent mu := by
  have free : intent.ConflictFree := by
    rintro region first hfirst region' second hsecond ⟨keys, set, clash⟩
    obtain rfl := once.unique hfirst hsecond keys
    rcases clash with out | ⟨-, differ⟩
    · simp [set] at out
    · exact differ rfl
  have written {region : Bytes} {change : StateChange} {contents : Option Bytes}
      (mem : change ∈ intent.stateChanges.get region)
      (made : (change.key, contents) ∈ writes change) :
      (executeOn schedule ctx intent mu store).2.mu change.key = contents := by
    rw [(executeOn_inversion valid succeeds).2]
    exact applyWrites_of_agree mu (agree_of_conflictFree valid free)
      ((mem_applyLog valid).mpr ⟨region, change, mem, made⟩)
  have kept {region : Bytes} {change : StateChange} (mem : change ∈ intent.stateChanges.get region)
      (delete : change.operation = .delete) :
      (executeOn schedule ctx intent mu store).2.mu change.key = mu change.key := by
    refine executeOn_frame valid succeeds fun other second hsecond same => ?_
    obtain rfl := once.unique hsecond mem same
    rw [delete]
    decide
  constructor
  · intro applied region change mem delete
    rw [← kept mem delete]
    exact applied.unbound region change mem (Or.inl delete)
  · intro absent
    refine ⟨?_, ?_, ?_⟩
    · rintro region change mem (set | inward)
      · exact written mem (mem_writes_iff.mpr (Or.inl ⟨set, rfl⟩))
      · -- validation asks for a transfer out of the same key
        obtain ⟨sender, out, hout, isOut, same, -⟩ := CrossRegionIntent.exists_out_of_accepts
          valid.validate (accepts_of_succeeded valid succeeds) mem inward
        obtain rfl := once.unique hout mem same
        simp [inward] at isOut
    · rintro region change mem (delete | out)
      · rw [kept mem delete]
        exact absent region change mem delete
      · exact written mem (mem_writes_iff.mpr (Or.inr ⟨out, rfl⟩))
    · intro key untouched
      refine executeOn_frame valid succeeds fun region change mem same => ?_
      have unnamed := untouched region change mem same
      simp only [mem_cons, not_or] at unnamed
      exact ⟨unnamed.1, unnamed.2.2.2.1⟩

/-- Changes of two objects in two regions have their effects. -/
theorem execute_applied_iff_apartChanges :
    (executeOn apartInOrder background apartChanges (fun _ => none) twoObjects).1.Succeeded ∧
      (Applied apartChanges (fun _ => none)
          (executeOn apartInOrder background apartChanges (fun _ => none) twoObjects).2.mu ↔
        DeletesAbsent apartChanges fun _ => none) := by
  have once : apartChanges.KeysOnce := by
    intro order visits
    have same : (apartChanges.visited order).Perm (apartChanges.visited [ascii "B", ascii "A"]) :=
      (visits.perm apartInOrder_valid.apply).flatMap_right _
    rw [(same.map _).nodup_iff]
    decide
  exact ⟨by decide +kernel,
    execute_applied_iff apartChanges (fun _ => none) twoObjects apartInOrder background
      apartInOrder_valid (by decide +kernel) once⟩

def objectMu : Mutable :=
  KeyValue.insert (fun _ => none) (ascii "object-1") (ascii "data")

theorem transferIn_loses_value_oneTransfer :
    (executeOn (inOrder oneTransfer [ascii "A", ascii "B"]) background oneTransfer objectMu
      objectStore).2.mu (objectChange .transferIn).key = none := by
  have valid : (inOrder oneTransfer [ascii "A", ascii "B"]).Valid oneTransfer :=
    inOrder_valid (by decide) (.refl _) (by decide)
  have moved : objectChange .transferIn ∈ oneTransfer.stateChanges.get (ascii "B") := by decide
  exact transferIn_loses_value valid (by decide +kernel) moved rfl
    (valid.apply.forall_mem_get (by decide))

/-- A deleted object is still there after a successful call; and the object of a
transfer from `A` to `B` is nowhere. -/
theorem deleted_object_stays_and_transferred_object_is_lost :
    ((inOrder (oneChange .delete) [ascii "A"]).Valid (oneChange .delete) ∧
      (oneChange .delete).KeysOnce ∧
      (executeOn (inOrder (oneChange .delete) [ascii "A"]) background (oneChange .delete)
        objectMu objectStore).1.Succeeded ∧
      ¬ Applied (oneChange .delete) objectMu
        (executeOn (inOrder (oneChange .delete) [ascii "A"]) background (oneChange .delete)
          objectMu objectStore).2.mu) ∧
    ((executeOn (inOrder (twoChanges .transferOut .transferIn) [ascii "A", ascii "B"])
        background (twoChanges .transferOut .transferIn) objectMu objectStore).1.Succeeded ∧
      (executeOn (inOrder (twoChanges .transferOut .transferIn) [ascii "A", ascii "B"])
        background (twoChanges .transferOut .transferIn) objectMu objectStore).2.mu
          (ascii "object-1") = none) := by
  have once : (oneChange .delete).KeysOnce := by
    intro order visits
    rw [perm_singleton.mp (visits.perm (inOrder_oneChange_valid .delete).apply)]
    exact nodup_singleton (objectChange .delete).key
  refine ⟨⟨inOrder_oneChange_valid .delete, once, by decide +kernel, ?_⟩, by decide +kernel,
    by decide +kernel⟩
  intro applied
  have gone := applied.unbound (ascii "A") (objectChange .delete) (by decide) (Or.inl rfl)
  exact absurd gone (by decide +kernel)

end CrossRegionAction

end Aristo
