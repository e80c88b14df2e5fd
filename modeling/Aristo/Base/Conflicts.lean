import Aristo.Base.Call
import Mathlib.Data.List.Pairwise

/-!
# Loops that refuse conflicts

A loop over a list that refuses an item because of an earlier one.  It accepts a list exactly when
the items are pairwise compatible in the order in which they stand (`Call.forM_accepts_iff`), so
what matters for other orders is whether compatibility is symmetric (`forall_perm_pairwise_iff`).
-/

namespace GoBase

variable {σ ι : Type}

theorem forall_perm_pairwise_iff {R : ι → ι → Prop} {items : List ι} :
    (∀ other : List ι, other.Perm items → other.Pairwise R) ↔
      items.Pairwise fun first second => R first second ∧ R second first := by
  constructor
  · intro everyOrder
    have forwards := everyOrder items (List.Perm.refl items)
    have backwards := everyOrder items.reverse (List.reverse_perm items)
    exact forwards.and (List.pairwise_reverse.mp backwards)
  · intro both other perm
    have symmetric : ∀ {first second}, R first second ∧ R second first →
        R second first ∧ R first second := And.symm
    exact ((perm.pairwise_iff symmetric).mpr both).imp And.left

/-- **Conflict rule.**  If an item is accepted exactly when every earlier one is compatible with it,
a list is accepted exactly when its items are pairwise compatible. -/
theorem Call.forM_accepts_iff (body : ι → Call σ Unit) (R : ι → ι → Prop)
    (Admissible : ι → Prop) (Knows : List ι → σ → Prop)
    (accepts : ∀ before state item, Knows before state → Admissible item →
      ((∃ after, body item state = (.ok (), after)) ↔ ∀ earlier ∈ before, R earlier item))
    (learns : ∀ before state item after, Knows before state → Admissible item →
      body item state = (.ok (), after) → Knows (before ++ [item]) after)
    {before : List ι} {state : σ} (knows : Knows before state) {items : List ι}
    (admissible : ∀ item ∈ items, Admissible item) :
    (∃ after, forM items body state = (.ok (), after)) ↔
      items.Pairwise R ∧ ∀ earlier ∈ before, ∀ item ∈ items, R earlier item := by
  induction items generalizing before state with
  | nil => exact iff_of_true ⟨state, rfl⟩ ⟨List.Pairwise.nil, fun _ _ _ mem => by cases mem⟩
  | cons item items ih =>
    obtain ⟨here, rest⟩ := List.forall_mem_cons.mp admissible
    rw [List.forM_cons, List.pairwise_cons]
    constructor
    · rintro ⟨after, done⟩
      obtain ⟨⟨⟩, middle, taken, done⟩ := Call.bind_eq_ok.mp done
      have compatible := (accepts _ _ _ knows here).mp ⟨middle, taken⟩
      obtain ⟨pairwise, behind⟩ := (ih (learns _ _ _ _ knows here taken) rest).mp ⟨after, done⟩
      refine ⟨⟨?_, pairwise⟩, fun earlier mem => List.forall_mem_cons.mpr ⟨?_, ?_⟩⟩
      · exact behind item (List.mem_append_right _ (List.mem_singleton_self item))
      · exact compatible earlier mem
      · exact behind earlier (List.mem_append_left _ mem)
    · rintro ⟨⟨first, pairwise⟩, behind⟩
      obtain ⟨middle, taken⟩ := (accepts _ _ _ knows here).mpr fun earlier mem =>
        behind earlier mem item List.mem_cons_self
      have later : ∀ earlier ∈ before ++ [item], ∀ next ∈ items, R earlier next := by
        intro earlier mem next next_mem
        rcases List.mem_append.mp mem with mem | mem
        · exact behind earlier mem next (List.mem_cons_of_mem _ next_mem)
        · obtain rfl := List.mem_singleton.mp mem
          exact first next next_mem
      obtain ⟨after, done⟩ := (ih (learns _ _ _ _ knows here taken) rest).mpr ⟨pairwise, later⟩
      exact ⟨after, (Call.bind_of_ok taken).trans done⟩

end GoBase
