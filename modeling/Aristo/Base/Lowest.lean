import Aristo.Base.Float64
import Aristo.Base.Slice

/-!
# The lowest number of a loop

A loop that keeps the lowest `float64` below a bound, among the items that qualify, and something
that it makes of the item.  It is the loop of `leastBelow` on the line of the numbers, so it ends
with the first lowest item (`foldl_keepLower_cases`, `foldl_keepLower_of_isFirstLowest`).
-/

namespace GoBase

namespace Float64

theorem lt_of_le_of_lt {a b c : Float64} (ab : a ≤ b) (bc : b < c) : a < c := by
  obtain ⟨x, hx, y, hy, xy⟩ := le_iff.mp ab
  obtain ⟨y', hy', z, hz, yz⟩ := lt_iff.mp bc
  obtain rfl : y = y' := Option.some.inj (hy.symm.trans hy')
  exact lt_iff.mpr ⟨x, hx, z, hz, xy.trans_lt yz⟩

theorem lt_irrefl (a : Float64) : ¬ a < a := by
  intro lt
  obtain ⟨x, hx, y, hy, xy⟩ := lt_iff.mp lt
  exact absurd (Option.some.inj (hx.symm.trans hy)) xy.ne

theorem exists_place {a : Float64} (number : a ≠ nan) : ∃ k, a.place = some k := by
  cases a with
  | nan => exact absurd rfl number
  | negInf | finite | posInf => exact ⟨_, rfl⟩

section Lowest

variable {α β : Type} (p : α → Prop) [DecidablePred p] (f : α → Float64) (g : α → β)

/-- One round of the loop: a number below the best one so far replaces it. -/
def keepLower (best : Float64 × β) (item : α) : Float64 × β :=
  if f item < best.1 ∧ p item then (f item, g item) else best

/-- The item stands first among those with the lowest number. -/
structure IsFirstLowest (bound : Float64) (before : List α) (item : α) (after : List α) :
    Prop where
  qualified : p item
  below : f item < bound
  beforeHigher : ∀ other ∈ before, p other → ¬ f other ≤ f item
  afterNotLower : ∀ other ∈ after, p other → ¬ f other < f item

/-- Where the number of an item that qualifies is on the line. -/
def placed (item : α) : Option (WithBot (WithTop ℚ)) :=
  if p item then (f item).place else none

variable {p f g}

variable {after before : List α} {item : α}

theorem mem_placed {k : WithBot (WithTop ℚ)} :
    k ∈ placed p f item ↔ p item ∧ (f item).place = some k := by
  by_cases qualified : p item <;> simp [placed, qualified]

theorem foldl_keepLower {best : Float64 × β} {least : WithBot (WithTop ℚ) × Option α} {start : β}
    (bound : best.1.place = some least.1) (same : best.2 = (least.2.map g).getD start)
    (items : List α) :
    (items.foldl (keepLower p f g) best).2 =
      ((items.foldl (keepLeast (placed p f)) least).2.map g).getD start := by
  -- the two loops take a new best at the same rounds, so their bounds stay the same number
  induction items generalizing best least with
  | nil => exact same
  | cons item items ih =>
    rw [List.foldl_cons, List.foldl_cons]
    by_cases better : f item < best.1 ∧ p item
    · obtain ⟨k, place, bound', found, less⟩ := lt_iff.mp better.1
      obtain rfl : bound' = least.1 := Option.some.inj (found.symm.trans bound)
      have key : placed p f item = some k := mem_placed.mpr ⟨better.2, place⟩
      rw [keepLower, if_pos better, keepLeast_of_lt key less]
      exact ih place rfl
    · have notSmaller : ∀ k ∈ placed p f item, least.1 ≤ k := by
        intro k key
        obtain ⟨qualified, place⟩ := mem_placed.mp key
        by_contra smaller
        exact better ⟨lt_iff.mpr ⟨k, place, least.1, bound, not_le.mp smaller⟩, qualified⟩
      rw [keepLower, if_neg better, keepLeast_of_le notSmaller]
      exact ih bound same

variable {bound : Float64}

theorem isFirstLeast_placed_iff {b : WithBot (WithTop ℚ)} (place : bound.place = some b) :
    (∃ k, IsFirstLeast (placed p f) b before item after k) ↔
      IsFirstLowest p f bound before item after := by
  have higher {k : WithBot (WithTop ℚ)} (here : (f item).place = some k) (other : α) :
      (p other → ¬ f other ≤ f item) ↔ ∀ k' ∈ placed p f other, k < k' := by
    by_cases qualified : p other <;> simp [placed, qualified, le_iff, here]
  have notLower {k : WithBot (WithTop ℚ)} (here : (f item).place = some k) (other : α) :
      (p other → ¬ f other < f item) ↔ ∀ k' ∈ placed p f other, k ≤ k' := by
    by_cases qualified : p other <;> simp [placed, qualified, lt_iff, here]
  constructor
  · rintro ⟨k, key, below, larger, notSmaller⟩
    obtain ⟨qualified, here⟩ := mem_placed.mp key
    exact ⟨qualified, lt_iff.mpr ⟨k, here, b, place, below⟩,
      fun other mem => (higher here other).mpr (larger other mem),
      fun other mem => (notLower here other).mpr (notSmaller other mem)⟩
  · rintro ⟨qualified, below, beforeHigher, afterNotLower⟩
    obtain ⟨k, here, y, place', less⟩ := lt_iff.mp below
    obtain rfl : b = y := Option.some.inj (place.symm.trans place')
    exact ⟨k, mem_placed.mpr ⟨qualified, here⟩, less,
      fun other mem => (higher here other).mp (beforeHigher other mem),
      fun other mem => (notLower here other).mp (afterNotLower other mem)⟩

omit [DecidablePred p] in
theorem IsFirstLowest.le (lowest : IsFirstLowest p f bound before item after) {other : α}
    (mem : other ∈ before ++ item :: after) (qualified : p other) (number : f other ≠ nan) :
    f item ≤ f other := by
  obtain ⟨k, here, -⟩ := lt_iff.mp lowest.below
  obtain ⟨k', there⟩ := exists_place number
  refine le_iff.mpr ⟨k, here, k', there, ?_⟩
  by_contra smaller
  have lower : f other < f item := lt_iff.mpr ⟨k', there, k, here, not_le.mp smaller⟩
  rcases List.mem_append.mp mem with mem | mem
  · exact lowest.beforeHigher other mem qualified (Or.inl lower)
  · rcases List.mem_cons.mp mem with rfl | mem
    · exact smaller (Option.some.inj (here.symm.trans there)).le
    · exact lowest.afterNotLower other mem qualified lower

theorem foldl_keepLower_of_isFirstLowest (lowest : IsFirstLowest p f bound before item after)
    (start : β) :
    ((before ++ item :: after).foldl (keepLower p f g) (bound, start)).2 = g item := by
  obtain ⟨-, -, b, place, -⟩ := lt_iff.mp lowest.below
  obtain ⟨k, least⟩ := (isFirstLeast_placed_iff place).mpr lowest
  have loop : ((before ++ item :: after).foldl (keepLower p f g) (bound, start)).2 =
      ((leastBelow (placed p f) b (before ++ item :: after)).map g).getD start :=
    foldl_keepLower place rfl (before ++ item :: after)
  rw [loop, leastBelow_of_isFirstLeast least]
  rfl

/-- **What the loop ends with**: what it started with, or what it makes of the first lowest. -/
theorem foldl_keepLower_cases (number : bound ≠ nan) (start : β) (items : List α) :
    ((∀ item ∈ items, p item → ¬ f item < bound) ∧
        (items.foldl (keepLower p f g) (bound, start)).2 = start) ∨
      ∃ before item after, items = before ++ item :: after ∧
        IsFirstLowest p f bound before item after ∧
          (items.foldl (keepLower p f g) (bound, start)).2 = g item := by
  obtain ⟨b, place⟩ := exists_place number
  rcases foldl_keepLeast_cases (placed p f) (b, none) items with
    none | ⟨before, item, after, k, rfl, least⟩
  · refine Or.inl ⟨fun item mem qualified below => ?_, ?_⟩
    · obtain ⟨k, here, y, place', less⟩ := lt_iff.mp below
      obtain rfl : b = y := Option.some.inj (place.symm.trans place')
      exact not_lt.mpr (none item mem k (mem_placed.mpr ⟨qualified, here⟩)) less
    · have loop : (items.foldl (keepLower p f g) (bound, start)).2 =
          ((items.foldl (keepLeast (placed p f)) (b, Option.none)).2.map g).getD start :=
        foldl_keepLower place rfl items
      rw [loop, foldl_keepLeast_of_le none]
      rfl
  · have lowest := (isFirstLeast_placed_iff place).mp ⟨k, least⟩
    exact Or.inr ⟨before, item, after, rfl, lowest, foldl_keepLower_of_isFirstLowest lowest start⟩

end Lowest

end Float64

end GoBase
