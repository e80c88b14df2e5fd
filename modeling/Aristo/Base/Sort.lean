import Aristo.Base.Bytes
import Mathlib.Data.List.Perm.Basic
import Mathlib.Data.List.Sort
import Mathlib.Order.Basic
import Mathlib.Order.Defs.LinearOrder

/-!
# `sort.Slice`

`sort.Slice` is not stable: it leaves *some* permutation of the slice in which no element is less
than an earlier one.  `SortedBy key input output` says that `output` is such a permutation when
elements are compared by `bytes.Compare` of their keys: the sequence of keys is determined
(`SortedBy.keys_eq`), and any element can come last among its equals (`SortedBy.exists_last`).

`SliceSorted less` is the same for any comparison.
-/

namespace GoBase

instance : IsTrans Bytes bytesLE := ⟨fun _ _ _ => bytesLE_trans⟩

instance : Std.Antisymm bytesLE := ⟨fun _ _ => bytesLE_antisymm⟩

instance : Std.Total bytesLE := ⟨bytesLE_total⟩

variable {α : Type} {key : α → Bytes} {input output : List α}

/-- `output` is a permutation of `input` in ascending order of keys. -/
structure SortedBy (key : α → Bytes) (input output : List α) : Prop where
  perm : output.Perm input
  ascending : output.Pairwise fun a b => bytesLE (key a) (key b)

instance decidableSortedBy [DecidableEq α] (key : α → Bytes) (input output : List α) :
    Decidable (SortedBy key input output) :=
  decidable_of_iff (output.Perm input ∧ output.Pairwise fun a b => bytesLE (key a) (key b))
    ⟨fun h => ⟨h.1, h.2⟩, fun h => ⟨h.perm, h.ascending⟩⟩

namespace SortedBy

section

variable (h : SortedBy key input output)

include h

theorem mem_iff {a : α} : a ∈ output ↔ a ∈ input :=
  h.perm.mem_iff

theorem eq_nil_iff : output = [] ↔ input = [] := by
  constructor
  · rintro rfl
    exact h.perm.nil_eq.symm
  · rintro rfl
    exact h.perm.eq_nil

theorem keys_eq {other : List α} (h' : SortedBy key input other) :
    output.map key = other.map key := by
  refine List.Perm.eq_of_pairwise (fun a b _ _ => bytesLE_antisymm) ?_ ?_
    ((h.perm.trans h'.perm.symm).map key)
  · exact List.pairwise_map.mpr h.ascending
  · exact List.pairwise_map.mpr h'.ascending

theorem exists_last [DecidableEq α] {a : α} (mem : a ∈ input) :
    ∃ before after, SortedBy key input (before ++ a :: after) ∧
      ∀ b ∈ after, key b ≠ key a := by
  -- `a` goes behind everything that is not above it, its equals included
  let others := output.erase a
  have sorted : others.Pairwise fun a b => bytesLE (key a) (key b) :=
    h.ascending.sublist List.erase_sublist
  let upTo : α → Bool := fun b => decide (bytesLE (key b) (key a))
  have above : ∀ b ∈ others.filter (!upTo ·), ¬ bytesLE (key b) (key a) := fun b hb => by
    simpa [upTo] using (List.mem_filter.mp hb).2
  have below : ∀ b ∈ others.filter upTo, bytesLE (key b) (key a) := fun b hb => by
    simpa [upTo] using (List.mem_filter.mp hb).2
  refine ⟨others.filter upTo, others.filter (!upTo ·), ⟨?_, ?_⟩, ?_⟩
  · have merged : (a :: (others.filter upTo ++ others.filter (!upTo ·))).Perm
        (a :: others) := (List.filter_append_perm upTo others).cons a
    have restored : (a :: others).Perm output := (List.perm_cons_erase (h.mem_iff.mpr mem)).symm
    exact List.perm_middle.trans (merged.trans (restored.trans h.perm))
  · rw [List.pairwise_append, List.pairwise_cons]
    refine ⟨sorted.filter _, ⟨fun b hb => ?_, sorted.filter _⟩, fun b hb c hc => ?_⟩
    · exact (bytesLE_total _ _).resolve_right (above b hb)
    · rcases List.mem_cons.mp hc with rfl | hc
      · exact below b hb
      · exact bytesLE_trans (below b hb) ((bytesLE_total _ _).resolve_right (above c hc))
  · intro b hb equal
    exact above b hb (equal ▸ bytesLE_refl _)

end

end SortedBy

/-! ## Any comparison -/

/-- `output` is a permutation of `input` in which no element is less than an earlier one. -/
structure SliceSorted (less : α → α → Prop) (input output : List α) : Prop where
  perm : output.Perm input
  ascending : output.Pairwise fun a b => ¬ less b a

/-- An implementation of `sort.Slice`. -/
structure SliceSort (less : α → α → Prop) where
  sort : List α → List α
  sorts : ∀ input, SliceSorted less input (sort input)

section Ranked

variable {β : Type} [LinearOrder β] {rank : α → β} {less : α → α → Prop}

theorem SliceSorted.ranks_ascend (h : SliceSorted less input output)
    (ranked : ∀ a b, less a b ↔ rank a < rank b) : (output.map rank).Pairwise (· ≤ ·) := by
  refine List.pairwise_map.mpr (h.ascending.imp fun {a b} notLess => ?_)
  rw [ranked] at notLess
  exact not_lt.mp notLess

theorem SliceSorted.ranks_eq {input' output' : List α} (h : SliceSorted less input output)
    (h' : SliceSorted less input' output') (same : input.Perm input')
    (ranked : ∀ a b, less a b ↔ rank a < rank b) : output.map rank = output'.map rank := by
  refine List.Perm.eq_of_pairwise (fun a b _ _ => le_antisymm) (h.ranks_ascend ranked)
    (h'.ranks_ascend ranked) ?_
  exact ((h.perm.trans same).trans h'.perm.symm).map rank

/-- Insertion sort is an implementation, when elements are compared by their ranks. -/
def SliceSort.insertion [DecidableRel less] (ranked : ∀ a b, less a b ↔ rank a < rank b) :
    SliceSort less where
  sort := List.insertionSort fun a b => ¬ less b a
  sorts input := by
    have iff : ∀ a b, ¬ less b a ↔ rank a ≤ rank b := by
      intro a b
      rw [ranked, not_lt]
    have total : Std.Total fun a b : α => ¬ less b a := by
      constructor
      intro a b
      rw [iff, iff]
      exact le_total _ _
    have transitive : IsTrans α fun a b => ¬ less b a := by
      constructor
      intro a b c
      rw [iff, iff, iff]
      exact le_trans
    exact ⟨List.perm_insertionSort _ input, List.pairwise_insertionSort _ input⟩

end Ranked

/-- **Robustness of the median.**  The element in the middle of an ascending list lies in every
interval that has more than half of the elements. -/
theorem median_mem_interval {β : Type} [LinearOrder β] {xs : List β}
    (ascending : xs.Pairwise (· ≤ ·)) {median low high : β}
    (middle : xs[xs.length / 2]? = some median)
    (majority : xs.length < 2 * xs.countP fun x => low ≤ x ∧ x ≤ high) :
    low ≤ median ∧ median ≤ high := by
  obtain ⟨inRange, rfl⟩ := List.getElem?_eq_some_iff.mp middle
  have split : xs = xs.take (xs.length / 2) ++
      xs[xs.length / 2] :: xs.drop (xs.length / 2 + 1) := by
    rw [List.getElem_cons_drop, List.take_append_drop]
  have parts := ascending
  rw [split, List.pairwise_append, List.pairwise_cons] at parts
  obtain ⟨-, ⟨above, -⟩, below⟩ := parts
  have whole := congrArg (List.countP fun x => low ≤ x ∧ x ≤ high) split
  rw [List.countP_append] at whole
  have counted (part : List β) : part.countP (fun x => low ≤ x ∧ x ≤ high) ≤ part.length :=
    List.countP_le_length
  have front := counted (xs.take (xs.length / 2))
  have back := counted (xs.drop (xs.length / 2 + 1))
  rw [List.length_take] at front
  rw [List.length_drop] at back
  have outside {part : List β} (out : ∀ x ∈ part, low ≤ x → ¬ x ≤ high) :
      part.countP (fun x => low ≤ x ∧ x ≤ high) = 0 :=
    List.countP_eq_zero.mpr fun x mem holds =>
      out x mem (of_decide_eq_true holds).1 (of_decide_eq_true holds).2
  constructor
  · by_contra isBelow
    -- everything up to the middle is below the interval
    rw [outside fun x mem inside => absurd (inside.trans (below x mem _ List.mem_cons_self))
      isBelow, List.countP_cons_of_neg (by simp [isBelow])] at whole
    omega
  · by_contra isAbove
    -- everything from the middle on is above the interval
    rw [outside (List.forall_mem_cons.mpr
      ⟨fun _ => isAbove, fun x later _ inside => isAbove ((above x later).trans inside)⟩)] at whole
    omega

end GoBase
