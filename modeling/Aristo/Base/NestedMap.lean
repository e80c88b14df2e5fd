import Aristo.Base.GoMap
import Mathlib.Algebra.Order.BigOperators.Group.Finset

/-!
# Maps of maps

How many entries a Go `map[κ]map[ι]α` has over all of its inner maps, and what writing or
deleting an inner map does to this number and to the number of inner maps.
-/

namespace GoBase

namespace GoMap

section Len

variable {κ α : Type} [DecidableEq κ]

theorem len_insert_of_mem {m : GoMap κ α} {key : κ} (mem : key ∈ m) (value : α) :
    GoMap.len (m.insert key value) = m.len := by
  have keys : (m.insert key value).keys = m.keys := by
    ext other
    rw [Finmap.mem_keys, Finmap.mem_insert, Finmap.mem_keys]
    constructor
    · rintro (rfl | there)
      · exact mem
      · exact there
    · exact Or.inr
  rw [len, keys, len]

theorem len_insert_of_notMem {m : GoMap κ α} {key : κ} (absent : key ∉ m) (value : α) :
    GoMap.len (m.insert key value) = m.len + 1 := by
  have keys : (m.insert key value).keys = insert key m.keys := by
    ext other
    rw [Finmap.mem_keys, Finmap.mem_insert, Finset.mem_insert, Finmap.mem_keys]
  rw [len, keys, Finset.card_insert_of_notMem (mt Finmap.mem_keys.mp absent), len]

theorem get_erase_of_ne [Inhabited α] (m : GoMap κ α) {key other : κ} (h : other ≠ key) :
    GoMap.get (m.erase key) other = m.get other := by
  rw [get, Finmap.lookup_erase_ne h, get]

end Len

section Total

variable {κ ι α : Type} [DecidableEq κ]

/-- The number of entries of all inner maps. -/
def total (m : GoMap κ (GoMap ι α)) : ℕ :=
  ∑ key ∈ m.keys, (m.get key).len

theorem total_empty : total (∅ : GoMap κ (GoMap ι α)) = 0 := by
  rw [total, Finmap.keys_empty, Finset.sum_empty]

variable {m : GoMap κ (GoMap ι α)}

theorem len_get_of_notMem {key : κ} (absent : key ∉ m) : (m.get key).len = 0 := by
  rw [get_of_notMem absent]
  rfl

theorem total_erase (m : GoMap κ (GoMap ι α)) (key : κ) :
    total (m.erase key) + (m.get key).len = total m := by
  have others : total (m.erase key) = ∑ other ∈ m.keys.erase key, (m.get other).len := by
    rw [total, Finmap.keys_erase]
    refine Finset.sum_congr rfl fun other mem => ?_
    rw [get_erase_of_ne m (Finset.ne_of_mem_erase mem)]
  rw [others, total]
  by_cases mem : key ∈ m
  · exact Finset.sum_erase_add m.keys _ (Finmap.mem_keys.mpr mem)
  · rw [Finset.erase_eq_of_notMem (mt Finmap.mem_keys.mp mem), len_get_of_notMem mem, add_zero]

theorem total_insert (m : GoMap κ (GoMap ι α)) (key : κ) (inner : GoMap ι α) :
    total (m.insert key inner) + (m.get key).len = total m + inner.len := by
  have erased : (m.insert key inner).erase key = m.erase key := by
    refine Finmap.ext_lookup fun other => ?_
    by_cases here : other = key
    · rw [here, Finmap.lookup_erase, Finmap.lookup_erase]
    · rw [Finmap.lookup_erase_ne here, Finmap.lookup_insert_of_ne m here,
        Finmap.lookup_erase_ne here]
  have written := total_erase (m.insert key inner) key
  have before := total_erase m key
  rw [erased, get_insert_self] at written
  omega

theorem len_le_total (nonempty : ∀ key ∈ m, 0 < (m.get key).len) : m.len ≤ total m := by
  rw [len, Finset.card_eq_sum_ones, total]
  exact Finset.sum_le_sum fun key mem => nonempty key (Finmap.mem_keys.mp mem)

theorem total_of_forall_eq {key : κ} (only : ∀ other ∈ m, other = key) :
    total m = (m.get key).len := by
  have rest : total (m.erase key) = 0 := by
    have none : (m.erase key).keys = ∅ := by
      refine Finset.eq_empty_iff_forall_notMem.mpr fun other mem => ?_
      obtain ⟨different, there⟩ := Finmap.mem_erase.mp (Finmap.mem_keys.mp mem)
      exact different (only other there)
    rw [total, none, Finset.sum_empty]
  rw [← total_erase m key, rest, zero_add]

end Total

end GoMap

end GoBase
