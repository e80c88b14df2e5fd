import Aristo.Base.GoMap
import Aristo.Base.Run
import Mathlib.Data.Fintype.Pi

/-!
# Range proofs and their cache

A `MerkleStore` of `coordination/state` answers `GetRangeProof(start, end)` with the entries of its
view between the bounds, and keeps every answer in a `RangeCache` under the root of the view and the
text `start-end`.  `Commit` replaces the view and drops the cache.

The merkledb view is third-party code and enters as a `View`: what its iterator yields, how the
iteration ends, its root, and its own range proof.
-/

namespace Aristo

open GoBase Finmap Call

namespace State

abbrev ID := Fin 32 → UInt8

def defaultMaxKeyLen : ℕ := 512

/-- A `merkledb.View`, as far as `MerkleStore` uses one. -/
structure View (π : Type) where
  /-- The pairs that `NewIterator` yields, in order. -/
  pairs : List (Bytes × Bytes)
  /-- `iter.Error()` after the loop. -/
  iterError : Option GoError
  /-- `GetMerkleRoot`. -/
  merkleRoot : Except GoError ID
  /-- `GetRangeProof`. -/
  rangeProof : Bytes → Option Bytes → ℕ → Except GoError π

/-- `RangeProof`; a nil `EndKey` is `none`. -/
structure RangeProof (π : Type) where
  startKey : Bytes
  endKey : Option Bytes
  entries : GoMap Bytes Bytes
  proof : π

variable {π : Type}

def makeRangeKey (start : Bytes) (stop : Option Bytes) : Bytes :=
  start ++ ascii "-" ++ stop.getD []

/-! ## The cache -/

/-- The proofs of a `RangeCache`, by root and range key. -/
abbrev CacheEntries (π : Type) := GoMap ID (GoMap Bytes (RangeProof π))

structure RangeCache (π : Type) where
  entries : CacheEntries π
  size : Int64

namespace RangeCache

def new (maxSize : Int64) : RangeCache π :=
  { entries := ∅, size := maxSize }

def get (cache : RangeCache π) (start : Bytes) (stop : Option Bytes) (root : ID) :
    Option (RangeProof π) := do
  let proofs ← cache.entries.lookup root
  proofs.lookup (makeRangeKey start stop)

/-- The scan of `evictLeastUsed`, visiting the roots in `order`: the first root
with the fewest proofs. -/
def leastUsed (entries : CacheEntries π) (order : List ID) : Option (ID × ℕ) :=
  order.foldl
    (fun least root =>
      let used := (entries.get root).len
      match least with
      | none => some (root, used)
      | some (_, leastSize) => if used < leastSize then some (root, used) else least)
    none

/-- `evictLeastUsed`, visiting the roots in `order`. -/
def evictLeastUsed (cache : RangeCache π) (order : List ID) : RangeCache π :=
  match leastUsed cache.entries order with
  | none => cache
  | some (root, _) => { cache with entries := cache.entries.erase root }

/-- `Put`; `evict` is the order in which an eviction would visit the roots. -/
def put (cache : RangeCache π) (evict : CacheEntries π → List ID) (proof : RangeProof π)
    (root : ID) : RangeCache π :=
  let key := makeRangeKey proof.startKey proof.endKey
  let entries : CacheEntries π := cache.entries.insert root
    ((cache.entries.get root).insert key proof)
  let cache := { cache with entries }
  -- the bound is compared with the number of roots, not of proofs
  if (entries.len : ℤ) > cache.size.toInt then
    cache.evictLeastUsed (evict entries)
  else
    cache

/-- The cache tells two ranges apart by their texts only. -/
theorem get_congr {start start' : Bytes} {stop stop' : Option Bytes}
    (same : makeRangeKey start stop = makeRangeKey start' stop') (cache : RangeCache π)
    (root : ID) : cache.get start stop root = cache.get start' stop' root := by
  unfold get
  rw [same]

def added (cache : RangeCache π) (proof : RangeProof π) (root : ID) : RangeCache π :=
  let proofs := (cache.entries.get root).insert (makeRangeKey proof.startKey proof.endKey) proof
  { cache with entries := cache.entries.insert root proofs }

/-- With one root there is no eviction, -/
theorem put_of_roots {cache : RangeCache π} {root : ID} (size : cache.size = 1000)
    (roots : ∀ other ∈ cache.entries, other = root) (evict : CacheEntries π → List ID)
    (proof : RangeProof π) : cache.put evict proof root = cache.added proof root := by
  have keys : (cache.added proof root).entries.keys ⊆ {root} := by
    intro other mem
    rw [added, mem_keys, mem_insert] at mem
    exact Finset.mem_singleton.mpr (mem.elim id (roots other))
  have one : (cache.added proof root).entries.len ≤ 1 := Finset.card_le_card keys
  have bound : (1000 : Int64).toInt = 1000 := rfl
  have fits : ¬ ((cache.added proof root).entries.len : ℤ) > cache.size.toInt := by
    rw [size, bound]
    omega
  exact if_neg fits

/-- and the proof is found under the text of its range. -/
theorem get_added (cache : RangeCache π) (proof : RangeProof π) (root : ID) (start : Bytes)
    (stop : Option Bytes) :
    (cache.added proof root).get start stop root =
      if makeRangeKey start stop = makeRangeKey proof.startKey proof.endKey then some proof
      else cache.get start stop root := by
  unfold get added
  rw [lookup_insert]
  show ((cache.entries.get root).insert (makeRangeKey proof.startKey proof.endKey) proof).lookup
    (makeRangeKey start stop) = _
  by_cases same : makeRangeKey start stop = makeRangeKey proof.startKey proof.endKey
  · rw [if_pos same, same, lookup_insert]
  · rw [if_neg same, lookup_insert_of_ne _ same, GoMap.get]
    cases cache.entries.lookup root with
    | none | some => rfl

end RangeCache

/-! ## The store -/

/-- `MerkleStore`, without the database that only `Commit` reads. -/
structure MerkleStore (π : Type) where
  view : View π
  cache : RangeCache π

namespace MerkleStore

def new (view : View π) : MerkleStore π :=
  { view, cache := .new 1000 }

/-- The iterator loop of `GetRangeProof`. -/
def scan (start : Bytes) (stop : Option Bytes) :
    List (Bytes × Bytes) → GoMap Bytes Bytes → GoMap Bytes Bytes
  | [], entries => entries
  | (key, value) :: pairs, entries =>
    if key < start then
      scan start stop pairs entries
    else if stop.any (· < key) then
      entries
    else
      scan start stop pairs (entries.insert key value)

def getRangeProof (evict : CacheEntries π → List ID) (start : Bytes)
    (stop : Option Bytes) : Call (MerkleStore π) (RangeProof π) := do
  let store ← Call.read
  let root ← Call.lift store.view.merkleRoot
  match store.cache.get start stop root with
  | some proof => return proof
  | none =>
    let proof ← Call.lift (store.view.rangeProof start stop defaultMaxKeyLen)
    let entries := scan start stop store.view.pairs ∅
    match store.view.iterError with
    | some error => Call.fail error
    | none =>
      let rangeProof := { startKey := start, endKey := stop, entries, proof }
      Call.modify fun store =>
        { store with cache := store.cache.put evict rangeProof root }
      return rangeProof

def clearCache (store : MerkleStore π) : MerkleStore π :=
  { store with cache := .new 1000 }

/-- `Commit`, with what `NewView` returns for the changes. -/
def commit (newView : Except GoError (View π)) : Call (MerkleStore π) Unit := do
  let view ← Call.lift newView
  Call.modify fun store => clearCache { store with view }

/-! ## What a call does -/

/-- The proof that is computed after a miss. -/
def computed (view : View π) (start : Bytes) (stop : Option Bytes) :
    Except GoError (RangeProof π) := do
  let proof ← view.rangeProof start stop defaultMaxKeyLen
  match view.iterError with
  | some error => .error error
  | none =>
    return { startKey := start, endKey := stop, entries := scan start stop view.pairs ∅, proof }

variable {store : MerkleStore π}

/-- Without a root the call fails. -/
theorem getRangeProof_of_root_error {error : GoError} (root : store.view.merkleRoot = .error error)
    (evict : CacheEntries π → List ID) (start : Bytes) (stop : Option Bytes) :
    getRangeProof evict start stop store = (.err error, store) := by
  rw [getRangeProof, bind_of_ok (read_apply store), lift_bind_of_error root]

variable {stop : Option Bytes}

/-- A proof in the cache is returned, -/
theorem getRangeProof_of_hit {root : ID} {proof : RangeProof π} {start : Bytes}
    (hroot : store.view.merkleRoot = .ok root) (hit : store.cache.get start stop root = some proof)
    (evict : CacheEntries π → List ID) :
    getRangeProof evict start stop store = (.ok proof, store) := by
  rw [getRangeProof, bind_of_ok (read_apply store), lift_bind_of_ok hroot]
  dsimp only
  rw [hit]
  rfl

/-- and one that is not is computed and put there. -/
theorem getRangeProof_of_miss {root : ID} {start : Bytes} (hroot : store.view.merkleRoot = .ok root)
    (miss : store.cache.get start stop root = none) (evict : CacheEntries π → List ID) :
    getRangeProof evict start stop store =
      match computed store.view start stop with
      | .error error => (.err error, store)
      | .ok proof => (.ok proof, { store with cache := store.cache.put evict proof root }) := by
  rw [getRangeProof, bind_of_ok (read_apply store), lift_bind_of_ok hroot]
  dsimp only
  rw [miss]
  unfold computed
  cases store.view.rangeProof start stop defaultMaxKeyLen with
  | error => rfl
  | ok =>
    show (match store.view.iterError with
      | some error => _
      | none => _ : Call (MerkleStore π) (RangeProof π)) store = _
    cases store.view.iterError with
    | some | none => rfl

/-- A proof that is computed has the bounds that were asked for. -/
theorem bounds_of_computed {view : View π} {start : Bytes} {proof : RangeProof π}
    (h : computed view start stop = .ok proof) :
    proof.startKey = start ∧ proof.endKey = stop := by
  obtain ⟨inner, -, rest⟩ := except_bind_eq_ok.mp h
  cases ends : view.iterError with
  | some =>
    rw [ends] at rest
    cases rest
  | none =>
    rw [ends] at rest
    cases rest
    exact ⟨rfl, rfl⟩

end MerkleStore

open MerkleStore

/-! ## Histories -/

inductive Access (π : Type) where
  | getRangeProof (evict : CacheEntries π → List ID) (start : Bytes) (stop : Option Bytes)
  | commit (newView : Except GoError (View π))

def Access.apply (store : MerkleStore π) : Access π → MerkleStore π
  | getRangeProof evict start stop => (MerkleStore.getRangeProof evict start stop store).2
  | commit newView => (MerkleStore.commit newView store).2

namespace Access

/-- The proof that was returned has the bounds that were asked for and the entries of a `fresh`
one; without a fresh one the call fails in the same way. -/
def Matches (start : Bytes) (stop : Option Bytes) (returned : Outcome (RangeProof π)) :
    Outcome (RangeProof π) → Prop
  | .ok fresh => ∃ proof, returned = .ok proof ∧ proof.startKey = start ∧ proof.endKey = stop ∧
      proof.entries = fresh.entries
  | .err error => returned = .err error
  | .panicked => returned = .panicked

/-- A call for a range returns what was asked for and what it would return with an empty cache. -/
def Transparent (store : MerkleStore π) : Access π → Prop
  | getRangeProof evict start stop =>
    Matches start stop (MerkleStore.getRangeProof evict start stop store).1
      (MerkleStore.getRangeProof evict start stop store.clearCache).1
  | commit _ => True

end Access

/-- The view, with the ranges that were answered since it was made. -/
structure Session (π : Type) where
  view : View π
  answered : List (Bytes × Option Bytes)

namespace Session

/-- The view has an answer for the range. -/
def answers (view : View π) (start : Bytes) (stop : Option Bytes) : Bool :=
  view.merkleRoot.isOk && (computed view start stop).isOk

def step (session : Session π) : Access π → Session π
  | .getRangeProof _ start stop =>
    if answers session.view start stop then
      { session with answered := (start, stop) :: session.answered }
    else session
  | .commit (.ok view) => { view, answered := [] }
  | .commit (.error _) => session

/-- No other range with the text of this one was answered in the session. -/
def Separated (session : Session π) : Access π → Prop
  | .getRangeProof _ start stop => ∀ range ∈ session.answered,
      makeRangeKey range.1 range.2 = makeRangeKey start stop → range = (start, stop)
  | .commit _ => True

/-- The cache of a store has the proofs of the ranges that were answered, and no others. -/
structure Cached (store : MerkleStore π) (session : Session π) : Prop where
  view : store.view = session.view
  size : store.cache.size = 1000
  roots : ∀ root ∈ store.cache.entries, store.view.merkleRoot = .ok root
  sound : ∀ root start stop proof, store.view.merkleRoot = .ok root →
    store.cache.get start stop root = some proof →
      (proof.startKey, proof.endKey) ∈ session.answered ∧
      makeRangeKey proof.startKey proof.endKey = makeRangeKey start stop ∧
      computed store.view proof.startKey proof.endKey = .ok proof
  complete : ∀ range ∈ session.answered, ∃ root proof, store.view.merkleRoot = .ok root ∧
    store.cache.get range.1 range.2 root = some proof ∧ (proof.startKey, proof.endKey) = range

namespace Cached

variable {store : MerkleStore π} {session : Session π}

theorem of_new (view : View π) : Cached (.new view) { view, answered := [] } := by
  refine ⟨rfl, rfl, ?_, ?_, ?_⟩
  · intro root mem
    exact absurd mem notMem_empty
  · intro root start stop proof _ found
    cases found
  · intro range mem
    cases mem

/-- **A call for a range is answered as without the cache** exactly when no other range of the
session has its text. -/
theorem transparent_iff_separated (cached : Cached store session) (access : Access π) :
    access.Transparent store ↔ session.Separated access := by
  cases access with
  | commit => exact Iff.rfl
  | getRangeProof evict start stop =>
    constructor
    · intro transparent range mem same
      obtain ⟨root, proof, hroot, found, rfl⟩ := cached.complete range mem
      rw [RangeCache.get_congr same] at found
      rw [Access.Transparent, getRangeProof_of_hit hroot found] at transparent
      cases fresh : (getRangeProof evict start stop store.clearCache).1 <;>
        rw [fresh] at transparent
      case ok =>
        obtain ⟨returned, equal, hstart, hstop, -⟩ := transparent
        cases equal
        rw [hstart, hstop]
      all_goals cases transparent
    · intro separated
      rw [Access.Transparent]
      cases hroot : store.view.merkleRoot with
      | error error =>
        have cleared : store.clearCache.view.merkleRoot = .error error := hroot
        rw [getRangeProof_of_root_error hroot,
          getRangeProof_of_root_error cleared]
        rfl
      | ok root =>
        have cleared : store.clearCache.view.merkleRoot = .ok root := hroot
        rw [getRangeProof_of_miss cleared rfl]
        have sameView : store.clearCache.view = store.view := rfl
        rw [sameView]
        cases found : store.cache.get start stop root with
        | none =>
          rw [getRangeProof_of_miss hroot found]
          cases fresh : computed store.view start stop with
          | error => rfl
          | ok proof =>
            obtain ⟨hstart, hstop⟩ := bounds_of_computed fresh
            exact ⟨proof, rfl, hstart, hstop, rfl⟩
        | some proof =>
          obtain ⟨mem, same, valid⟩ := cached.sound root start stop proof hroot found
          obtain ⟨rfl, rfl⟩ := Prod.mk.inj (separated _ mem same)
          rw [getRangeProof_of_hit hroot found, valid]
          exact ⟨proof, rfl, rfl, rfl, rfl⟩

section

variable {root : ID} (cached : Cached store session) (hroot : store.view.merkleRoot = .ok root)

include cached hroot

theorem again {proof : RangeProof π}
    (found : store.cache.get proof.startKey proof.endKey root = some proof) :
    Cached store
      { session with answered := (proof.startKey, proof.endKey) :: session.answered } := by
  refine ⟨cached.view, cached.size, cached.roots, ?_, ?_⟩
  · intro root' start stop proof' hroot' found'
    obtain ⟨mem', rest⟩ := cached.sound root' start stop proof' hroot' found'
    exact ⟨List.mem_cons_of_mem _ mem', rest⟩
  · exact List.forall_mem_cons.mpr ⟨⟨root, proof, hroot, found, rfl⟩, cached.complete⟩

theorem added {proof : RangeProof π}
    (missed : store.cache.get proof.startKey proof.endKey root = none)
    (fresh : computed store.view proof.startKey proof.endKey = .ok proof) :
    Cached { store with cache := store.cache.added proof root }
      { session with answered := (proof.startKey, proof.endKey) :: session.answered } := by
  refine ⟨cached.view, cached.size, ?_, ?_, ?_⟩
  · intro other mem
    rcases mem_insert.mp mem with rfl | mem
    · exact hroot
    · exact cached.roots other mem
  · intro root' start stop proof' hroot' found'
    cases hroot.symm.trans hroot'
    rw [RangeCache.get_added] at found'
    by_cases same : makeRangeKey start stop = makeRangeKey proof.startKey proof.endKey
    · rw [if_pos same] at found'
      cases found'
      exact ⟨List.mem_cons_self, same.symm, fresh⟩
    · rw [if_neg same] at found'
      obtain ⟨mem, rest⟩ := cached.sound root start stop proof' hroot found'
      exact ⟨List.mem_cons_of_mem _ mem, rest⟩
  · refine List.forall_mem_cons.mpr ⟨⟨root, proof, hroot, ?_, rfl⟩, ?_⟩
    · rw [RangeCache.get_added, if_pos rfl]
    · intro range mem
      obtain ⟨root', proof', hroot', found', bounds⟩ := cached.complete range mem
      cases hroot.symm.trans hroot'
      refine ⟨root, proof', hroot, ?_, bounds⟩
      -- the new text is not in the cache yet
      have other : makeRangeKey range.1 range.2 ≠
          makeRangeKey proof.startKey proof.endKey := by
        intro same
        rw [RangeCache.get_congr same, missed] at found'
        cases found'
      rw [RangeCache.get_added, if_neg other]
      exact found'

end

theorem step (cached : Cached store session) (access : Access π)
    (separated : session.Separated access) :
    Cached (access.apply store) (session.step access) := by
  cases access with
  | commit newView =>
    cases newView with
    | error => exact cached
    | ok view => exact of_new view
  | getRangeProof evict start stop =>
    rw [Access.apply, Session.step]
    cases hroot : store.view.merkleRoot with
    | error =>
      have unanswered : answers session.view start stop = false := by
        rw [answers, ← cached.view, hroot]
        rfl
      rw [getRangeProof_of_root_error hroot, if_neg (by simp [unanswered])]
      exact cached
    | ok root =>
      have answered : answers session.view start stop =
          (computed store.view start stop).isOk := by
        rw [answers, ← cached.view, hroot]
        rfl
      rw [answered]
      cases found : store.cache.get start stop root with
      | some proof =>
        obtain ⟨mem, same, valid⟩ := cached.sound root start stop proof hroot found
        obtain ⟨rfl, rfl⟩ := Prod.mk.inj (separated _ mem same)
        rw [getRangeProof_of_hit hroot found, valid]
        exact cached.again hroot found
      | none =>
        rw [getRangeProof_of_miss hroot found]
        cases fresh : computed store.view start stop with
        | error => exact cached
        | ok =>
          obtain ⟨rfl, rfl⟩ := bounds_of_computed fresh
          have roots : ∀ other ∈ store.cache.entries, other = root := by
            intro other mem
            exact Except.ok.inj ((cached.roots other mem).symm.trans hroot)
          dsimp only
          rw [RangeCache.put_of_roots cached.size roots]
          exact cached.added hroot found fresh

end Cached

end Session

/-- **When the cache is transparent**: along a history over a new store, every call for a range is
answered as without the cache exactly when no two ranges that are asked for between two commits,
the earlier of them with success, have the same text. -/
theorem rangeCache_transparent_iff (view : View π) (history : List (Access π)) :
    Along Access.apply Access.Transparent (.new view) history ↔
      Along Session.step Session.Separated { view, answered := [] } history := by
  refine along_iff_along
    (fun store session access (cached : Session.Cached store session) =>
      cached.transparent_iff_separated access)
    (fun _ _ access cached _ separated => cached.step access separated) ?_ history
  exact Session.Cached.of_new view

/-! ### One text for two ranges -/

def viewA : View Unit where
  pairs := [(ascii "a", [1])]
  iterError := none
  merkleRoot := .ok fun _ => 0
  rangeProof := fun _ _ _ => .ok ()

def askTwo : List (Access Unit) :=
  [.getRangeProof (fun _ => []) (ascii "a") (some (ascii "b-c")),
    .getRangeProof (fun _ => []) (ascii "a-b") (some (ascii "c"))]

/-- Both texts are `a-b-c`.  The second call returns the proof of the first range, with the key
`a`, which is not in the second range. -/
theorem not_transparent_askTwo :
    (∃ proof, (getRangeProof (fun _ => []) (ascii "a-b") (some (ascii "c"))
        (run Access.apply (.new viewA) (askTwo.take 1))).1 = .ok proof ∧
      proof.startKey = ascii "a" ∧ proof.entries.lookup (ascii "a") = some [1]) ∧
      (∃ fresh, (getRangeProof (fun _ => []) (ascii "a-b") (some (ascii "c"))
        (.new viewA)).1 = .ok fresh ∧ fresh.entries.lookup (ascii "a") = none) ∧
      ¬ Along Access.apply Access.Transparent (.new viewA) askTwo := by
  have returned : ∃ proof, (getRangeProof (fun _ => []) (ascii "a-b")
      (some (ascii "c")) (run Access.apply (.new viewA) (askTwo.take 1))).1 = .ok proof ∧
      proof.startKey = ascii "a" ∧ proof.entries.lookup (ascii "a") = some [1] := by
    refine ⟨_, rfl, rfl, rfl⟩
  refine ⟨returned, ⟨_, rfl, rfl⟩, fun along => ?_⟩
  obtain ⟨proof, equal, start, -⟩ := along (askTwo.take 1) _ [] rfl
  obtain ⟨proof', equal', start', -⟩ := returned
  cases equal.symm.trans equal'
  exact absurd (start.symm.trans start') (by decide)

/-! ## Which range answers

Without a commit in between, a call for a range is answered with the proof of the first range that
was asked for under its text. -/

abbrev Bounds := Bytes × Option Bytes

/-- The first of the ranges that have the text of this one. -/
def firstWithText (asked : List Bounds) (start : Bytes) (stop : Option Bytes) : Option Bounds :=
  asked.find? fun range => makeRangeKey range.1 range.2 = makeRangeKey start stop

variable {start : Bytes} {stop : Option Bytes} {asked : List Bounds}

theorem text_of_firstWithText {range : Bounds}
    (found : firstWithText asked start stop = some range) :
    makeRangeKey range.1 range.2 = makeRangeKey start stop := by
  simpa using List.find?_some found

/-- An earlier range comes first. -/
theorem firstWithText_append (asked more : List Bounds) (start : Bytes) (stop : Option Bytes) :
    firstWithText (asked ++ more) start stop =
      (firstWithText asked start stop).or (firstWithText more start stop) :=
  List.find?_append

theorem firstWithText_singleton (range : Bounds) (start : Bytes) (stop : Option Bytes) :
    firstWithText [range] start stop =
      if makeRangeKey range.1 range.2 = makeRangeKey start stop then some range else none := by
  simp [firstWithText, List.find?_singleton]

/-- What is found under a text in a cache that has the proof of the first range asked for. -/
def HoldsFirst (view : View π) (cached : Option (RangeProof π)) : Option Bounds → Prop
  | none => cached = none
  | some range => ∃ proof, cached = some proof ∧
      computed view range.1 range.2 = .ok proof

/-- The cache of a store has under each text the proof of the first range asked for. -/
structure FirstKept (store : MerkleStore π) (root : ID) (asked : List Bounds) : Prop where
  hroot : store.view.merkleRoot = .ok root
  size : store.cache.size = 1000
  roots : ∀ other ∈ store.cache.entries, other = root
  first : ∀ start stop, HoldsFirst store.view (store.cache.get start stop root)
    (firstWithText asked start stop)

namespace FirstKept

variable {store : MerkleStore π} {root : ID} {asked : List Bounds}

theorem of_new {view : View π} (hroot : view.merkleRoot = .ok root) :
    FirstKept (.new view) root [] where
  hroot := hroot
  size := rfl
  roots := fun _ mem => absurd mem notMem_empty
  first := fun _ _ => rfl

theorem again (kept : FirstKept store root asked) {start : Bytes} {stop : Option Bytes}
    {range : Bounds} (found : firstWithText asked start stop = some range) :
    FirstKept store root (asked ++ [(start, stop)]) := by
  refine ⟨kept.hroot, kept.size, kept.roots, fun start' stop' => ?_⟩
  have before := kept.first start' stop'
  rw [firstWithText_append, firstWithText_singleton]
  by_cases same : makeRangeKey start stop = makeRangeKey start' stop'
  · rw [firstWithText, same, ← firstWithText] at found
    rw [found, Option.some_or, ← found]
    exact before
  · rw [if_neg same, Option.or_none]
    exact before

theorem added (kept : FirstKept store root asked) {proof : RangeProof π}
    (missing : firstWithText asked proof.startKey proof.endKey = none)
    (fresh : computed store.view proof.startKey proof.endKey = .ok proof) :
    FirstKept { store with cache := store.cache.added proof root } root
      (asked ++ [(proof.startKey, proof.endKey)]) := by
  refine ⟨kept.hroot, kept.size, fun other mem => ?_, fun start stop => ?_⟩
  · exact (mem_insert.mp mem).elim id (kept.roots other)
  · have before := kept.first start stop
    dsimp only
    rw [RangeCache.get_added, firstWithText_append, firstWithText_singleton]
    by_cases same : makeRangeKey start stop = makeRangeKey proof.startKey proof.endKey
    · have none : firstWithText asked start stop = none := by
        rw [firstWithText, same]
        exact missing
      rw [if_pos same, none, if_pos same.symm]
      exact ⟨proof, rfl, fresh⟩
    · rw [if_neg same, if_neg (Ne.symm same), Option.or_none]
      exact before

/-- **One call** on a store that has the first proofs, for a range that can be proved. -/
theorem getRangeProof (kept : FirstKept store root asked) {start : Bytes} {stop : Option Bytes}
    {fresh : RangeProof π} (provable : computed store.view start stop = .ok fresh)
    (evict : CacheEntries π → List ID) :
    ∃ proof after range,
      getRangeProof evict start stop store = (.ok proof, after) ∧
      after.view = store.view ∧ FirstKept after root (asked ++ [(start, stop)]) ∧
      firstWithText (asked ++ [(start, stop)]) start stop = some range ∧
      computed store.view range.1 range.2 = .ok proof := by
  have before := kept.first start stop
  cases earlier : firstWithText asked start stop with
  | some range =>
    rw [earlier] at before
    obtain ⟨proof, hit, computed⟩ := before
    exact ⟨proof, store, range, getRangeProof_of_hit kept.hroot hit evict, rfl,
      kept.again earlier, by rw [firstWithText_append, earlier, Option.some_or], computed⟩
  | none =>
    rw [earlier] at before
    obtain ⟨rfl, rfl⟩ := bounds_of_computed provable
    have answered := getRangeProof_of_miss kept.hroot before evict
    rw [provable] at answered
    dsimp only at answered
    rw [RangeCache.put_of_roots kept.size kept.roots] at answered
    refine ⟨fresh, _, (fresh.startKey, fresh.endKey), answered, rfl,
      kept.added earlier provable, ?_, provable⟩
    rw [firstWithText_append, earlier, firstWithText_singleton, if_pos rfl]
    rfl

end FirstKept

/-! ### The entries of a proof -/

def isInRange (key start : Bytes) (stop : Option Bytes) : Bool :=
  decide (bytesLE start key) && stop.all fun last => decide (bytesLE key last)

/-- A key in the range is neither skipped nor past the end. -/
theorem isInRange_iff {key : Bytes} :
    isInRange key start stop = true ↔ ¬ key < start ∧ ¬ stop.any (· < key) = true := by
  cases stop <;> simp [isInRange, bytesLE]

/-- **What the loop collects**: from ascending keys that are not in the map yet, exactly the pairs
whose key is in the range. -/
theorem lookup_scan_iff {pairs : List (Bytes × Bytes)}
    (ascending : pairs.Pairwise fun pair later => pair.1 < later.1) {entries : GoMap Bytes Bytes}
    (absent : ∀ pair ∈ pairs, pair.1 ∉ entries) (key value : Bytes) :
    (scan start stop pairs entries).lookup key = some value ↔
      entries.lookup key = some value ∨
        (key, value) ∈ pairs ∧ isInRange key start stop = true := by
  induction pairs generalizing entries with
  | nil => simp [scan]
  | cons pair pairs ih =>
    obtain ⟨above, rest⟩ := List.pairwise_cons.mp ascending
    obtain ⟨here, behind⟩ := List.forall_mem_cons.mp absent
    obtain ⟨first, held⟩ := pair
    rw [scan, List.mem_cons]
    by_cases below : first < start
    · rw [if_pos below, ih rest behind]
      have outside : ¬ ((key, value) = (first, held) ∧ isInRange key start stop = true) := by
        rintro ⟨equal, inside⟩
        cases equal
        exact (isInRange_iff.mp inside).1 below
      tauto
    rw [if_neg below]
    by_cases past : stop.any (· < first) = true
    · -- the loop stops, and no later key is in the range
      rw [if_pos past]
      have beyond {later : Bytes} (follows : bytesLE first later) :
          ¬ isInRange later start stop = true := fun inside => by
        cases stop with
        | none => cases past
        | some last =>
          have less := lt_of_lt_of_bytesLE (of_decide_eq_true past) follows
          exact (isInRange_iff.mp inside).2 (decide_eq_true less)
      refine (or_iff_left ?_).symm
      rintro ⟨equal | mem, inside⟩
      · cases equal
        exact beyond (bytesLE_refl _) inside
      · exact beyond (bytesLE_of_lt (above _ mem)) inside
    · have fresh : ∀ pair ∈ pairs, pair.1 ∉ entries.insert first held := by
        intro pair mem there
        rcases mem_insert.mp there with same | before
        · exact List.lt_irrefl first (same ▸ above pair mem)
        · exact behind pair mem before
      rw [if_neg past, ih rest fresh]
      by_cases same : key = first
      · subst same
        have inside : isInRange key start stop = true := isInRange_iff.mpr ⟨below, past⟩
        have missing : entries.lookup key = none := lookup_eq_none.mpr here
        have only : (key, value) ∉ pairs := fun mem => List.lt_irrefl key (above _ mem)
        rw [lookup_insert, missing, Option.some.injEq]
        simp [inside, only, eq_comm]
      · have other : (key, value) ≠ (first, held) := fun equal => same (congrArg Prod.fst equal)
        rw [lookup_insert_of_ne _ same]
        simp [other]

/-- So a key is there when the pairs have it and it lies between the bounds. -/
theorem mem_scan_iff {stop : Bytes} {pairs : List (Bytes × Bytes)}
    (ascending : pairs.Pairwise fun pair later => pair.1 < later.1) (key : Bytes) :
    key ∈ scan start (some stop) pairs ∅ ↔
      key ∈ pairs.map Prod.fst ∧ bytesLE start key ∧ bytesLE key stop := by
  have absent : ∀ pair ∈ pairs, pair.1 ∉ (∅ : GoMap Bytes Bytes) := fun _ _ => notMem_empty
  rw [mem_iff]
  simp only [lookup_scan_iff ascending absent, lookup_empty]
  simp [isInRange]

/-- The iterator of a view yields its contents, every key once and in ascending order. -/
structure View.Iterates (view : View π) (contents : GoMap Bytes Bytes) : Prop where
  ascending : view.pairs.Pairwise fun pair later => pair.1 < later.1
  yields : ∀ key value, (key, value) ∈ view.pairs ↔ contents.lookup key = some value

/-- **A range that is not in the cache is answered with exactly the pairs of the view in it**,
each with its value. -/
theorem getRangeProof_entries_iff {store : MerkleStore π} {contents : GoMap Bytes Bytes}
    (iterates : store.view.Iterates contents) {root : ID} {start : Bytes} {stop : Option Bytes}
    {inner : π} (hroot : store.view.merkleRoot = .ok root)
    (miss : store.cache.get start stop root = none)
    (proved : store.view.rangeProof start stop defaultMaxKeyLen = .ok inner)
    (ended : store.view.iterError = none) (evict : CacheEntries π → List ID) :
    ∃ proof after, getRangeProof evict start stop store = (.ok proof, after) ∧
      ∀ key value, proof.entries.lookup key = some value ↔
        contents.lookup key = some value ∧ isInRange key start stop = true := by
  have computed : computed store.view start stop = .ok
      { startKey := start, endKey := stop,
        entries := scan start stop store.view.pairs ∅, proof := inner } := by
    rw [computed, proved, ended]
    rfl
  have answered := getRangeProof_of_miss hroot miss evict
  rw [computed] at answered
  refine ⟨_, _, answered, fun key value => ?_⟩
  have absent : ∀ pair ∈ store.view.pairs, pair.1 ∉ (∅ : GoMap Bytes Bytes) := fun _ _ =>
    notMem_empty
  rw [lookup_scan_iff iterates.ascending absent, iterates.yields, lookup_empty]
  exact or_iff_right (Option.some_ne_none value).symm

/-- A view with ascending keys yields its contents. -/
theorem iterates_ofEntries {view : View π}
    (ascending : view.pairs.Pairwise fun pair later => pair.1 < later.1) :
    view.Iterates (GoMap.ofEntries view.pairs) where
  ascending := ascending
  yields key value := by
    have distinct : (view.pairs.map Prod.fst).Nodup := by
      refine List.pairwise_map.mpr (ascending.imp fun {pair later} less same => ?_)
      exact List.lt_irrefl later.1 (same ▸ less)
    exact (GoMap.lookup_ofEntries_eq_some_iff distinct).symm

def viewABCD : View Unit :=
  { viewA with
    pairs := [(ascii "a", [1]), (ascii "b", [2]), (ascii "c", [3]), (ascii "d", [4])] }

/-- Of four keys the proof for a range has the two in the middle: the first is skipped, and the loop
ends at the last. -/
theorem getRangeProof_entries_viewABCD :
    ∃ proof after, getRangeProof (fun _ => []) (ascii "b") (some (ascii "c"))
        (.new viewABCD) = (.ok proof, after) ∧
      proof.entries.lookup (ascii "a") = none ∧ proof.entries.lookup (ascii "b") = some [2] ∧
        proof.entries.lookup (ascii "c") = some [3] ∧
          proof.entries.lookup (ascii "d") = none := by
  have iterates : (new viewABCD).view.Iterates (GoMap.ofEntries viewABCD.pairs) :=
    iterates_ofEntries (by decide)
  have miss : (new viewABCD).cache.get (ascii "b") (some (ascii "c")) (fun _ => 0) =
      none := rfl
  obtain ⟨proof, after, returned, entries⟩ :=
    getRangeProof_entries_iff iterates rfl miss rfl rfl fun _ => []
  refine ⟨proof, after, returned, ?_, (entries _ _).mpr ⟨by decide +kernel, by decide⟩,
    (entries _ _).mpr ⟨by decide +kernel, by decide⟩, ?_⟩
  all_goals
    refine Option.eq_none_iff_forall_not_mem.mpr fun value found => ?_
    exact absurd ((entries _ value).mp found).2 (by decide)

end State

end Aristo
