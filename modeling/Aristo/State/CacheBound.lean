import Aristo.Base.NestedMap
import Aristo.State.RangeProof

/-!
# How many proofs a cache holds

`RangeCache.Put` evicts when there are more *roots* than `size`, while the size announced is one of
proofs.  A `Put` exceeds the size exactly when the text is new under its root, the cache is full and
no eviction follows (`Fits.proofs_apply_le_iff`).

A `MerkleStore` has one root between two commits, so it never evicts: it holds one proof for each
text that was answered since the last commit (`Requested.Kept`).
-/

namespace Aristo

open GoBase Finmap GoMap

namespace State

variable {π : Type}

namespace RangeCache

/-- The number of proofs held over all roots. -/
def proofs (cache : RangeCache π) : ℕ :=
  total cache.entries

/-- There is a proof with this one's text under the root. -/
def Holds (cache : RangeCache π) (proof : RangeProof π) (root : ID) : Prop :=
  makeRangeKey proof.startKey proof.endKey ∈ cache.entries.get root

theorem put_eq (cache : RangeCache π) (evict : CacheEntries π → List ID) (proof : RangeProof π)
    (root : ID) :
    cache.put evict proof root =
      if ((cache.added proof root).entries.len : ℤ) > cache.size.toInt then
        (cache.added proof root).evictLeastUsed (evict (cache.added proof root).entries)
      else cache.added proof root := rfl

/-! ## Adding a proof -/

variable {cache : RangeCache π} {proof : RangeProof π} {root : ID}

/-- A proof with a text that is there takes its place, -/
theorem proofs_added_of_holds (holds : cache.Holds proof root) :
    (cache.added proof root).proofs = cache.proofs := by
  have written := total_insert cache.entries root
    ((cache.entries.get root).insert (makeRangeKey proof.startKey proof.endKey) proof)
  rw [len_insert_of_mem holds] at written
  exact Nat.add_right_cancel written

/-- and any other is one more. -/
theorem proofs_added_of_not_holds (fresh : ¬ cache.Holds proof root) :
    (cache.added proof root).proofs = cache.proofs + 1 := by
  have written := total_insert cache.entries root
    ((cache.entries.get root).insert (makeRangeKey proof.startKey proof.endKey) proof)
  rw [len_insert_of_notMem fresh] at written
  have total : (cache.added proof root).proofs + (cache.entries.get root).len
      = cache.proofs + ((cache.entries.get root).len + 1) := written
  omega

theorem len_added_of_mem (mem : root ∈ cache.entries) (proof : RangeProof π) :
    (cache.added proof root).entries.len = cache.entries.len :=
  len_insert_of_mem mem _

theorem len_added_of_notMem (absent : root ∉ cache.entries) (proof : RangeProof π) :
    (cache.added proof root).entries.len = cache.entries.len + 1 :=
  len_insert_of_notMem absent _

/-- No root is left without proofs. -/
theorem nonempty_added (nonempty : ∀ root ∈ cache.entries, 0 < (cache.entries.get root).len)
    (proof : RangeProof π) (root : ID) :
    ∀ other ∈ (cache.added proof root).entries,
      0 < ((cache.added proof root).entries.get other).len := by
  intro other mem
  by_cases here : other = root
  · rw [here, added, get_insert_self]
    refine Nat.pos_of_ne_zero fun zero => ?_
    exact len_eq_zero_iff.mp zero _ (mem_insert.mpr (Or.inl rfl))
  · rw [added, get_insert_of_ne _ _ here]
    exact nonempty other ((mem_insert.mp mem).resolve_left here)

/-! ## Evicting a root -/

/-- The loop finds one of the roots that it visits, -/
theorem leastUsed_cases (entries : CacheEntries π) (order : List ID) :
    order = [] ∨ ∃ root used, leastUsed entries order = some (root, used) ∧ root ∈ order := by
  induction order using List.reverseRecOn with
  | nil => exact Or.inl rfl
  | append_singleton visited last ih =>
    refine Or.inr ?_
    rw [leastUsed, List.foldl_append, ← leastUsed]
    rcases ih with rfl | ⟨root, used, found, mem⟩
    · exact ⟨last, _, rfl, List.mem_singleton.mpr rfl⟩
    · rw [found]
      by_cases fewer : (entries.get last).len < used
      · exact ⟨last, _, if_pos fewer, List.mem_append_right _ (List.mem_singleton.mpr rfl)⟩
      · exact ⟨root, used, if_neg fewer, List.mem_append_left _ mem⟩

/-- which is evicted. -/
theorem exists_evicted {order : List ID} (visits : Visits cache.entries order)
    (some : 0 < cache.entries.len) :
    ∃ root ∈ cache.entries,
      cache.evictLeastUsed order = { cache with entries := cache.entries.erase root } := by
  rcases leastUsed_cases cache.entries order with rfl | ⟨root, used, found, mem⟩
  · have zero := visits.length_eq
    rw [List.length_nil] at zero
    omega
  · refine ⟨root, (visits.mem_iff root).mp mem, ?_⟩
    rw [evictLeastUsed, found]

end RangeCache

open RangeCache

/-! ## Runs of `Put` -/

structure Put (π : Type) where
  evict : Range ID (GoMap Bytes (RangeProof π))
  proof : RangeProof π
  root : ID

def Put.apply (cache : RangeCache π) (call : Put π) : RangeCache π :=
  cache.put call.evict.order call.proof call.root

namespace RangeCache

/-- What a call needs: its text is there, or there is room for one more proof, or its root is new
and there are as many roots as allowed. -/
def Room (cache : RangeCache π) (call : Put π) : Prop :=
  cache.Holds call.proof call.root ∨
    (cache.proofs : ℤ) < cache.size.toInt ∨
    call.root ∉ cache.entries ∧ (cache.entries.len : ℤ) = cache.size.toInt

/-- The proofs fit, and so do the roots, none of which is without proofs. -/
structure Fits (maxSize : Int64) (cache : RangeCache π) : Prop where
  size : cache.size = maxSize
  proofs : (cache.proofs : ℤ) ≤ maxSize.toInt
  nonempty : ∀ root ∈ cache.entries, 0 < (cache.entries.get root).len

namespace Fits

variable {maxSize : Int64} {cache : RangeCache π}

variable (fits : Fits maxSize cache)

include fits

/-- A call evicts a root exactly when there are too many. -/
theorem apply_cases (call : Put π) :
    ((cache.added call.proof call.root).entries.len : ℤ) ≤ maxSize.toInt ∧
        call.apply cache = cache.added call.proof call.root ∨
      ((cache.added call.proof call.root).entries.len : ℤ) > maxSize.toInt ∧
        ∃ root ∈ (cache.added call.proof call.root).entries,
          call.apply cache = { cache.added call.proof call.root with
            entries := (cache.added call.proof call.root).entries.erase root } := by
  rw [Put.apply, put_eq, fits.size]
  by_cases above : ((cache.added call.proof call.root).entries.len : ℤ) > maxSize.toInt
  · rw [if_pos above]
    have bound := fits.proofs
    have visits := call.evict.visits (cache.added call.proof call.root).entries
    obtain ⟨root, mem, evicted⟩ := exists_evicted visits (by omega)
    exact Or.inr ⟨above, root, mem, evicted⟩
  · rw [if_neg above]
    exact Or.inl ⟨by omega, rfl⟩

/-- **One call**: the proofs still fit exactly when there was room. -/
theorem proofs_apply_le_iff (call : Put π) :
    ((call.apply cache).proofs : ℤ) ≤ maxSize.toInt ↔ cache.Room call := by
  have size := fits.size
  have bound := fits.proofs
  have fewer : cache.entries.len ≤ cache.proofs := len_le_total fits.nonempty
  by_cases holds : cache.Holds call.proof call.root
  · -- nothing is added, so nothing is evicted
    have there : call.root ∈ cache.entries := by
      by_contra absent
      rw [Holds, get_of_notMem absent] at holds
      exact notMem_empty holds
    have roots := len_added_of_mem there call.proof
    have same := proofs_added_of_holds holds
    rcases fits.apply_cases call with ⟨-, kept⟩ | ⟨above, -⟩
    · rw [kept, same]
      exact iff_of_true bound (Or.inl holds)
    · omega
  · have more := proofs_added_of_not_holds holds
    rcases fits.apply_cases call with ⟨under, kept⟩ | ⟨above, root, mem, evicted⟩
    · rw [kept, more]
      constructor
      · intro fit
        refine Or.inr (Or.inl ?_)
        rw [size]
        omega
      · rintro (there | less | ⟨absent, full⟩)
        · exact absurd there holds
        · rw [size] at less
          omega
        · have roots := len_added_of_notMem absent call.proof
          rw [size] at full
          omega
    · -- the root is new, and each root has one place
      have absent : call.root ∉ cache.entries := by
        intro there
        have roots := len_added_of_mem there call.proof
        omega
      have roots := len_added_of_notMem absent call.proof
      have erased := total_erase (cache.added call.proof call.root).entries root
      have some := nonempty_added fits.nonempty call.proof call.root root mem
      have total : (call.apply cache).proofs
          + ((cache.added call.proof call.root).entries.get root).len
            = (cache.added call.proof call.root).proofs := by
        rw [evicted]
        exact erased
      refine iff_of_true (by omega) (Or.inr (Or.inr ⟨absent, ?_⟩))
      rw [size]
      omega

/-- A call after which the proofs fit keeps the rest too. -/
theorem apply (call : Put π)
    (proofs : ((call.apply cache).proofs : ℤ) ≤ maxSize.toInt) :
    Fits maxSize (call.apply cache) := by
  have nonempty := nonempty_added fits.nonempty call.proof call.root
  rcases fits.apply_cases call with ⟨-, kept⟩ | ⟨-, root, mem, evicted⟩
  · rw [kept] at proofs ⊢
    exact ⟨fits.size, proofs, nonempty⟩
  · rw [evicted] at proofs ⊢
    refine ⟨fits.size, proofs, fun other there => ?_⟩
    obtain ⟨different, before⟩ := mem_erase.mp there
    rw [get_erase_of_ne _ different]
    exact nonempty other before

end Fits

end RangeCache

/-! ## What a store holds -/

/-- The view of a store and the texts that were answered since it was made, each once. -/
structure Requested (π : Type) where
  view : View π
  texts : List Bytes

namespace Requested

-- Texts are compared byte by byte.
local instance lawfulTexts : LawfulBEq Bytes := inferInstance

def step (requested : Requested π) : Access π → Requested π
  | .getRangeProof _ start stop =>
    if Session.answers requested.view start stop ∧
        makeRangeKey start stop ∉ requested.texts then
      { requested with texts := makeRangeKey start stop :: requested.texts }
    else requested
  | .commit (.ok view) => { view, texts := [] }
  | .commit (.error _) => requested

/-- A range that is answered has a text that was answered before, or there were fewer than 1000
texts. -/
def Room (requested : Requested π) : Access π → Prop
  | .getRangeProof _ start stop => Session.answers requested.view start stop →
      makeRangeKey start stop ∈ requested.texts ∨ requested.texts.length < 1000
  | .commit _ => True

/-- The cache of a store has one proof for each text. -/
structure Kept (store : MerkleStore π) (requested : Requested π) : Prop where
  view : store.view = requested.view
  size : store.cache.size = 1000
  roots : ∀ root ∈ store.cache.entries, store.view.merkleRoot = .ok root
  texts : ∀ root, store.view.merkleRoot = .ok root →
    Visits (store.cache.entries.get root) requested.texts
  rootless : ∀ error, store.view.merkleRoot = .error error → requested.texts = []

namespace Kept

variable {store : MerkleStore π} {requested : Requested π}

/-- There is no text yet after a commit. -/
theorem of_new (view : View π) : Kept (.new view) { view, texts := [] } where
  view := rfl
  size := rfl
  roots := fun _ mem => absurd mem notMem_empty
  texts := fun _ _ => ⟨List.nodup_nil, fun _ =>
    iff_of_false List.not_mem_nil notMem_empty⟩
  rootless := fun _ _ => rfl

variable (kept : Kept store requested)

include kept

/-- The proofs are counted by the texts, -/
theorem proofs_eq :
    store.cache.proofs = requested.texts.length := by
  cases hroot : store.view.merkleRoot with
  | error error =>
    have none : ∀ root ∈ store.cache.entries, root = default := by
      intro root mem
      cases hroot.symm.trans (kept.roots root mem)
    have absent : default ∉ store.cache.entries := by
      intro mem
      cases hroot.symm.trans (kept.roots _ mem)
    rw [proofs, total_of_forall_eq none, len_get_of_notMem absent,
      kept.rootless error hroot, List.length_nil]
  | ok root =>
    have only : ∀ other ∈ store.cache.entries, other = root := by
      intro other mem
      exact Except.ok.inj ((kept.roots other mem).symm.trans hroot)
    rw [proofs, total_of_forall_eq only, (kept.texts root hroot).length_eq]

/-- a new text adds one, -/
theorem added {root : ID} {proof : RangeProof π}
    (hroot : store.view.merkleRoot = .ok root)
    (fresh : makeRangeKey proof.startKey proof.endKey ∉ requested.texts) :
    Kept { store with cache := store.cache.added proof root }
      { requested with
        texts := makeRangeKey proof.startKey proof.endKey :: requested.texts } where
  view := kept.view
  size := kept.size
  roots := by
    intro other mem
    rcases mem_insert.mp mem with rfl | there
    · exact hroot
    · exact kept.roots other there
  texts := by
    intro root' hroot'
    cases hroot.symm.trans hroot'
    have before := kept.texts root hroot
    refine ⟨List.nodup_cons.mpr ⟨fresh, before.nodup⟩, fun text => ?_⟩
    show _ ↔ text ∈ get (store.cache.entries.insert root _) root
    rw [get_insert_self, mem_insert, List.mem_cons, before.mem_iff]
  rootless := by
    intro error broken
    cases hroot.symm.trans broken

/-- the cache misses the texts that were not asked for, -/
theorem get_eq_none_iff {root : ID}
    (hroot : store.view.merkleRoot = .ok root) (start : Bytes) (stop : Option Bytes) :
    store.cache.get start stop root = none ↔ makeRangeKey start stop ∉ requested.texts := by
  rw [(kept.texts root hroot).mem_iff, ← lookup_eq_none, RangeCache.get, GoMap.get]
  cases store.cache.entries.lookup root with
  | none => exact iff_of_true rfl rfl
  | some => exact Iff.rfl

/-- and **every access keeps this**. -/
theorem step (access : Access π) :
    Kept (access.apply store) (requested.step access) := by
  cases access with
  | commit newView =>
    cases newView with
    | error => exact kept
    | ok view => exact of_new view
  | getRangeProof evict start stop =>
    rw [Access.apply, Requested.step]
    cases hroot : store.view.merkleRoot with
    | error =>
      have unanswered : Session.answers requested.view start stop = false := by
        rw [Session.answers, ← kept.view, hroot]
        rfl
      rw [MerkleStore.getRangeProof_of_root_error hroot, if_neg (by simp [unanswered])]
      exact kept
    | ok root =>
      have answers : Session.answers requested.view start stop
          = (MerkleStore.computed store.view start stop).isOk := by
        rw [Session.answers, ← kept.view, hroot]
        rfl
      rw [answers]
      by_cases asked : makeRangeKey start stop ∈ requested.texts
      · have hit : store.cache.get start stop root ≠ none := fun missing =>
          (kept.get_eq_none_iff hroot start stop).mp missing asked
        obtain ⟨proof, found⟩ := Option.ne_none_iff_exists'.mp hit
        rw [MerkleStore.getRangeProof_of_hit hroot found, if_neg (fun both => both.2 asked)]
        exact kept
      · have miss := (kept.get_eq_none_iff hroot start stop).mpr asked
        rw [MerkleStore.getRangeProof_of_miss hroot miss]
        cases fresh : MerkleStore.computed store.view start stop with
        | error => exact kept
        | ok =>
          obtain ⟨rfl, rfl⟩ := MerkleStore.bounds_of_computed fresh
          have roots : ∀ other ∈ store.cache.entries, other = root := by
            intro other mem
            exact Except.ok.inj ((kept.roots other mem).symm.trans hroot)
          rw [if_pos ⟨rfl, asked⟩]
          dsimp only
          rw [put_of_roots kept.size roots]
          exact kept.added hroot asked

end Kept

/-- **One access**: at most 1000 texts are left exactly when there was room. -/
theorem length_step_le_iff {requested : Requested π} (fits : requested.texts.length ≤ 1000)
    (access : Access π) :
    (requested.step access).texts.length ≤ 1000 ↔ requested.Room access := by
  cases access with
  | commit newView =>
    cases newView with
    | error => exact iff_of_true fits trivial
    | ok => exact iff_of_true (Nat.zero_le _) trivial
  | getRangeProof evict start stop =>
    rw [step, Room]
    by_cases answered : Session.answers requested.view start stop = true
    · by_cases asked : makeRangeKey start stop ∈ requested.texts
      · rw [if_neg (fun both => both.2 asked)]
        exact iff_of_true fits fun _ => Or.inl asked
      · rw [if_pos ⟨answered, asked⟩, List.length_cons]
        constructor
        · exact fun less _ => Or.inr less
        · exact fun room => (room answered).resolve_left asked
    · rw [if_neg (fun both => answered both.1)]
      exact iff_of_true fits fun yes => absurd yes answered

end Requested

/-- **When the cache is bounded**: along a run of `Put` on a new cache it never holds more proofs
than its size exactly when each call finds room, and a new store never has more than 1000 exactly
when no 1001st text is answered between two commits. -/
theorem rangeCache_bounded_iff {maxSize : Int64} (positive : 1 ≤ maxSize.toInt)
    (calls : List (Put π)) (view : View π) (history : List (Access π)) :
    (Along Put.apply (fun cache call => ((call.apply cache).proofs : ℤ) ≤ maxSize.toInt)
        (.new maxSize) calls ↔
      Along Put.apply Room (.new maxSize) calls) ∧
    (Along Access.apply (fun store access => (access.apply store).cache.proofs ≤ 1000)
        (.new view) history ↔
      Along Requested.step Requested.Room { view, texts := [] } history) := by
  constructor
  · have start : Fits maxSize (.new maxSize : RangeCache π) := by
      refine ⟨rfl, ?_, fun root mem => absurd mem notMem_empty⟩
      rw [show (new maxSize : RangeCache π).proofs = 0 from total_empty]
      omega
    exact along_iff_of_invariant
      (fun cache call (fits : Fits maxSize cache) => fits.proofs_apply_le_iff call)
      (fun cache call fits bound => fits.apply call bound) start calls
  · refine along_iff_along
      (fun store requested access (both : Requested.Kept store requested ∧
        requested.texts.length ≤ 1000) => ?_)
      (fun store requested access both bound room => ?_)
      ⟨Requested.Kept.of_new view, Nat.zero_le _⟩ history
    · rw [(both.1.step access).proofs_eq]
      exact Requested.length_step_le_iff both.2 access
    · exact ⟨both.1.step access, (Requested.length_step_le_iff both.2 access).mpr room⟩

/-! ### Two proofs in a cache of one -/

def proofFrom (start : Bytes) : RangeProof Unit :=
  { startKey := start, endKey := none, entries := ∅, proof := () }

/-- The ranges from `a` and from `b`, under one root. -/
noncomputable def putTwo : List (Put Unit) :=
  [⟨default, proofFrom (ascii "a"), fun _ => 0⟩, ⟨default, proofFrom (ascii "b"), fun _ => 0⟩]

theorem rangeCache_bounded_iff_putTwo :
    (Along Put.apply (fun cache call => ((call.apply cache).proofs : ℤ) ≤ (1 : Int64).toInt)
        (.new 1) putTwo ↔
      Along Put.apply Room (.new 1) putTwo) ∧
    (Along Access.apply (fun store access => (access.apply store).cache.proofs ≤ 1000)
        (.new viewA) askTwo ↔
      Along Requested.step Requested.Room { view := viewA, texts := [] } askTwo) :=
  rangeCache_bounded_iff (by decide) putTwo viewA askTwo

/-- A cache of size 1 has one root and holds both proofs. -/
theorem not_bounded_putTwo :
    (run Put.apply (.new 1) putTwo).proofs = 2 ∧
      ¬ Along Put.apply (fun cache call => ((call.apply cache).proofs : ℤ) ≤ (1 : Int64).toInt)
        (.new 1) putTwo := by
  have two : (run Put.apply (.new 1) putTwo).proofs = 2 := rfl
  refine ⟨two, fun along => ?_⟩
  have second := along (putTwo.take 1) _ [] rfl
  have after : (run Put.apply (.new 1) putTwo).proofs ≤ 1 := Int.ofNat_le.mp second
  omega

end State

end Aristo
