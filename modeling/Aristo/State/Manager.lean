import Aristo.Base.GoMap
import Aristo.Base.KeyValue
import Aristo.Base.Time

/-!
# Changes and batches of the state

`CoordStateManager` of `coordination/state/manager.go` commits a set of writes in two ways.  A
`StateBatch` is the list of the writes.  A `StateChange` has a map of updates and a set of
deletions, and commits all updates before all deletions, each in the order of a map iteration.

`commit_agrees_iff` says when the two come to the same.  The store is third-party code and enters
as its contents.
-/

namespace Aristo

open GoBase Finmap List

namespace State

/-! ## The manager -/

structure StateAccess where
  readKeys : GoMap Bytes Time
  writeKeys : GoMap Bytes Time
  lastAccess : Time

/-- `CoordStateManager`, with the contents of its store. -/
structure CoordStateManager where
  store : KeyValue Bytes Bytes
  accessed : GoMap Bytes StateAccess

structure BatchOp where
  key : Bytes
  value : Bytes
  delete : Bool

def BatchOp.write (op : BatchOp) : Write Bytes Bytes :=
  (op.key, if op.delete then none else some op.value)

namespace CoordStateManager

def trackAccess (now : Time) (key : Bytes) (isWrite : Bool) (m : CoordStateManager) :
    CoordStateManager :=
  let access := (m.accessed.lookup key).getD
    { readKeys := ∅, writeKeys := ∅, lastAccess := Time.zero }
  let access :=
    if isWrite then { access with writeKeys := access.writeKeys.insert key now }
    else { access with readKeys := access.readKeys.insert key now }
  { m with accessed := m.accessed.insert key { access with lastAccess := now } }

/-- The loops that track the keys of a commit; `now` has the readings of the clock. -/
def trackWrites (now : ℕ → Time) (keys : List Bytes) (m : CoordStateManager) :
    CoordStateManager :=
  keys.zipIdx.foldl (fun m visit => m.trackAccess (now visit.2) visit.1 true) m

def newView (fault : Option GoError) (ops : List BatchOp) : Call CoordStateManager Unit :=
  match fault with
  | some error => Call.fail error
  | none => Call.modify fun m => { m with store := applyWrites m.store (ops.map BatchOp.write) }

end CoordStateManager

open CoordStateManager

/-! ## Changes -/

structure StateChange where
  updates : GoMap Bytes Bytes
  deletions : GoMap Bytes Unit

namespace StateChange

def new : StateChange where
  updates := ∅
  deletions := ∅

def put (key value : Bytes) (sc : StateChange) : StateChange :=
  { sc with updates := sc.updates.insert key value }

def delete (key : Bytes) (sc : StateChange) : StateChange :=
  { sc with deletions := sc.deletions.insert key () }

/-- The operations of a commit, along the orders in which the two maps are visited. -/
def ops (sc : StateChange) (updates deletions : List Bytes) : List BatchOp :=
  (updates.map fun key => { key, value := sc.updates.get key, delete := false }) ++
    deletions.map fun key => { key, value := [], delete := true }

end StateChange

/-- `CommitChanges`, along the orders in which the two maps are visited. -/
def CoordStateManager.commitChanges (fault : Option GoError) (now : ℕ → Time)
    (updates deletions : List Bytes) (changes : StateChange) : Call CoordStateManager Unit := do
  Call.modify (trackWrites now (updates ++ deletions))
  newView fault (changes.ops updates deletions)

/-! ## Batches -/

structure StateBatch where
  ops : List BatchOp

namespace StateBatch

def new : StateBatch where
  ops := []

def put (key value : Bytes) (b : StateBatch) : StateBatch where
  ops := b.ops ++ [{ key, value, delete := false }]

def delete (key : Bytes) (b : StateBatch) : StateBatch where
  ops := b.ops ++ [{ key, value := [], delete := true }]

end StateBatch

def CoordStateManager.commitBatch (fault : Option GoError) (now : ℕ → Time)
    (batch : StateBatch) : Call CoordStateManager Unit := do
  Call.modify (trackWrites now (batch.ops.map BatchOp.key))
  newView fault batch.ops

/-! ## A sequence of calls -/

inductive Edit where
  | put (key value : Bytes)
  | delete (key : Bytes)
deriving DecidableEq

namespace Edit

def write : Edit → Write Bytes Bytes
  | put key value => (key, some value)
  | delete key => (key, none)

def change (sc : StateChange) : Edit → StateChange
  | put key value => sc.put key value
  | delete key => sc.delete key

def batch (b : StateBatch) : Edit → StateBatch
  | put key value => b.put key value
  | delete key => b.delete key

end Edit

/-- The change that a sequence of calls records. -/
def changeOf (edits : List Edit) : StateChange :=
  run Edit.change .new edits

def batchOf (edits : List Edit) : StateBatch :=
  run Edit.batch .new edits

def writesOf (edits : List Edit) : List (Write Bytes Bytes) :=
  edits.map Edit.write

/-! ## What a commit does to the store -/

namespace CoordStateManager

theorem store_trackWrites (now : ℕ → Time) (keys : List Bytes) (m : CoordStateManager) :
    (m.trackWrites now keys).store = m.store := by
  have kept (after : CoordStateManager) (visit : Bytes × ℕ) (same : after.store = m.store) :
      (after.trackAccess (now visit.2) visit.1 true).store = m.store := same
  exact run_preserves kept rfl keys.zipIdx

theorem store_commitChanges (now : ℕ → Time) (updates deletions : List Bytes)
    (changes : StateChange) (m : CoordStateManager) :
    (commitChanges none now updates deletions changes m).2.store =
      applyWrites m.store ((changes.ops updates deletions).map BatchOp.write) := by
  rw [← store_trackWrites now (updates ++ deletions) m]
  rfl

theorem store_commitBatch (now : ℕ → Time) (batch : StateBatch) (m : CoordStateManager) :
    (commitBatch none now batch m).2.store =
      applyWrites m.store (batch.ops.map BatchOp.write) := by
  rw [← store_trackWrites now (batch.ops.map BatchOp.key) m]
  rfl

end CoordStateManager

theorem write_batchOf (edits : List Edit) :
    (batchOf edits).ops.map BatchOp.write = writesOf edits := by
  induction edits using List.reverseRecOn with
  | nil => rfl
  | append_singleton edits edit ih =>
    rw [batchOf, run_append, writesOf, map_append, ← writesOf, ← ih]
    cases edit with
    | put | delete => exact map_append

theorem mem_deletions_iff (edits : List Edit) (key : Bytes) :
    key ∈ (changeOf edits).deletions ↔ .delete key ∈ edits := by
  induction edits using List.reverseRecOn with
  | nil => exact iff_of_false notMem_empty not_mem_nil
  | append_singleton edits edit ih =>
    rw [changeOf, run_append, List.mem_append, ← ih, List.mem_singleton]
    cases edit with
    | put => simp [run, Edit.change, StateChange.put, changeOf]
    | delete =>
      rw [run_cons, run_nil, Edit.change, StateChange.delete, mem_insert]
      simp [changeOf, or_comm]

theorem lookup_updates {edits : List Edit} {key : Bytes} (kept : .delete key ∉ edits) :
    lastWrite (writesOf edits) key = ((changeOf edits).updates.lookup key).map some := by
  induction edits using List.reverseRecOn with
  | nil => rfl
  | append_singleton edits edit ih =>
    rw [List.mem_append, not_or, List.mem_singleton] at kept
    rw [changeOf, run_append, writesOf, List.map_append, List.map_singleton,
      lastWrite_append_singleton, ← writesOf, ih kept.1]
    cases edit with
    | put other =>
      rw [run_cons, run_nil, Edit.change, StateChange.put, Edit.write]
      by_cases same : other = key
      · subst same
        rw [if_pos rfl, lookup_insert]
        rfl
      · rw [if_neg same, lookup_insert_of_ne _ fun equal => same equal.symm]
        rfl
    | delete other =>
      have apart : other ≠ key := by
        rintro rfl
        exact kept.2 rfl
      rw [Edit.write, if_neg apart]
      rfl

/-- **What `CommitChanges` leaves under a key**: nothing when it was deleted at some point, and
otherwise what the last call left. -/
theorem commitChanges_apply (edits : List Edit) (contents : KeyValue Bytes Bytes)
    {updates deletions : List Bytes} (hupdates : (changeOf edits).updates.Visits updates)
    (hdeletions : (changeOf edits).deletions.Visits deletions) (key : Bytes) :
    applyWrites contents (((changeOf edits).ops updates deletions).map BatchOp.write) key =
      if .delete key ∈ edits then none else applyWrites contents (writesOf edits) key := by
  have log : ((changeOf edits).ops updates deletions).map BatchOp.write =
      (updates.map fun key => (key, some ((changeOf edits).updates.get key))) ++
        deletions.map fun key => (key, none) := by
    simp [StateChange.ops, BatchOp.write, Function.comp_def]
  rw [log, applyWrites_append, applyWrites_map _ fun _ => none, applyWrites_map]
  simp only [hdeletions.mem_iff, hupdates.mem_iff, mem_deletions_iff]
  by_cases deleted : .delete key ∈ edits
  · rw [if_pos deleted, if_pos deleted]
  · rw [if_neg deleted, if_neg deleted, applyWrites_apply _ (writesOf edits),
      lookup_updates deleted]
    by_cases updated : key ∈ (changeOf edits).updates
    · rw [if_pos updated, GoMap.lookup_eq_get updated]
      rfl
    · rw [if_neg updated, lookup_eq_none.mpr updated]
      rfl

/-- **When the two commits come to the same.**  Whatever the orders of the iterations and the
contents of the store, both commits leave what applying the calls in order leaves, exactly when
the last call on every key that was deleted is a deletion. -/
theorem commit_agrees_iff (edits : List Edit) (m : CoordStateManager) (now now' : ℕ → Time)
    {updates deletions : List Bytes} (hupdates : (changeOf edits).updates.Visits updates)
    (hdeletions : (changeOf edits).deletions.Visits deletions) :
    ((commitChanges none now updates deletions (changeOf edits) m).2.store =
        applyWrites m.store (writesOf edits) ∧
      (commitBatch none now' (batchOf edits) m).2.store =
        applyWrites m.store (writesOf edits)) ↔
      ∀ key, .delete key ∈ edits → lastWrite (writesOf edits) key = some none := by
  rw [store_commitChanges, store_commitBatch, write_batchOf]
  refine (and_iff_left rfl).trans (funext_iff.trans (forall_congr' fun key => ?_))
  rw [commitChanges_apply edits m.store hupdates hdeletions]
  by_cases deleted : .delete key ∈ edits
  · rw [if_pos deleted, applyWrites_apply]
    have written : lastWrite (writesOf edits) key ≠ none := by
      intro absent
      exact lastWrite_eq_none_iff.mp absent _ (mem_map.mpr ⟨_, deleted, rfl⟩) rfl
    obtain ⟨contents, last⟩ := Option.ne_none_iff_exists'.mp written
    rw [last]
    constructor
    · intro gone _
      exact congrArg some gone.symm
    · intro gone
      exact (Option.some.inj (gone deleted)).symm
  · rw [if_neg deleted]
    exact iff_of_true rfl fun member => absurd member deleted

/-! ### One key -/

theorem visits_k {α : Type} (value : α) :
    GoMap.Visits (Finmap.insert (ascii "k") value ∅ : GoMap Bytes α) [ascii "k"] := by
  refine ⟨List.nodup_singleton _, fun key => ?_⟩
  rw [List.mem_singleton, mem_insert]
  exact (or_iff_left notMem_empty).symm

def emptyManager : CoordStateManager where
  store := fun _ => none
  accessed := ∅

/-- The key `k` is put and then deleted: both commits delete it. -/
theorem commit_agrees_put_delete :
    let edits := [.put (ascii "k") [1], .delete (ascii "k")]
    (commitChanges none (fun _ => Time.zero) [ascii "k"] [ascii "k"]
        (changeOf edits) emptyManager).2.store =
      applyWrites emptyManager.store (writesOf edits) ∧
      (commitBatch none (fun _ => Time.zero) (batchOf edits)
        emptyManager).2.store = applyWrites emptyManager.store (writesOf edits) := by
  intro edits
  refine (commit_agrees_iff edits emptyManager _ _ (visits_k [1]) (visits_k ())).mpr
    fun key deleted => ?_
  have same : key = ascii "k" := by simpa [edits] using deleted
  subst same
  rfl

/-- The key `k` is deleted and then put: the batch has it, and the change deletes it. -/
theorem not_commit_agrees_delete_put :
    let edits := [.delete (ascii "k"), .put (ascii "k") [1]]
    (changeOf edits).updates.Visits [ascii "k"] ∧ (changeOf edits).deletions.Visits [ascii "k"] ∧
      (commitBatch none (fun _ => Time.zero) (batchOf edits)
        emptyManager).2.store (ascii "k") = some [1] ∧
      (commitChanges none (fun _ => Time.zero) [ascii "k"] [ascii "k"]
        (changeOf edits) emptyManager).2.store (ascii "k") = none :=
  ⟨visits_k [1], visits_k (), rfl, rfl⟩

end State

end Aristo
