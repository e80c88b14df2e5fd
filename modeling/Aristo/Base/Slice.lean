import Aristo.Base.Bytes
import Mathlib.Data.List.Nodup
import Mathlib.Data.List.TakeDrop
import Mathlib.Order.Lattice

/-!
# Slices of named items

Two loops over a slice.  `upsert` overwrites the first item of a name, or appends.  `leastBelow`
keeps the first item whose key is the least below a bound; an item can have no key.

`upsert` puts its item between `earlier` and `later`, which do not depend on what stood there
(`upsert_eq`), so a second `upsert` of the name leaves nothing of the first (`upsert_upsert`).
`leastBelow_eq_some_iff` says which item the second loop ends with.
-/

namespace GoBase

open List

/-! ## Overwrite or append -/

section Upsert

variable {α κ : Type} [DecidableEq κ] (name : α → κ)

/-- Overwrite the first item of the name, or append the item. -/
def upsert (key : κ) (item : α) : List α → List α
  | [] => [item]
  | first :: rest => if name first = key then item :: rest else first :: upsert key item rest

def earlier (key : κ) (items : List α) : List α :=
  items.takeWhile fun item => name item ≠ key

def later (key : κ) (items : List α) : List α :=
  (items.dropWhile fun item => name item ≠ key).tail

variable {name} {key : κ} {item : α}

theorem upsert_eq (items : List α) :
    upsert name key item items = earlier name key items ++ item :: later name key items := by
  induction items with
  | nil => rfl
  | cons first rest ih =>
    by_cases same : name first = key
    · simp [upsert, earlier, later, same]
    · simpa [upsert, earlier, later, same] using ih

theorem notMem_earlier (items : List α) : key ∉ (earlier name key items).map name := by
  intro mem
  obtain ⟨item, front, named⟩ := mem_map.mp mem
  simpa [named] using mem_takeWhile_imp front

theorem earlier_later_append {before after : List α} (fresh : key ∉ before.map name)
    (named : name item = key) :
    earlier name key (before ++ item :: after) = before ∧
      later name key (before ++ item :: after) = after := by
  induction before with
  | nil => simp [earlier, later, named]
  | cons first rest ih =>
    rw [map_cons, mem_cons, not_or] at fresh
    obtain ⟨front, back⟩ := ih fresh.2
    have other : name first ≠ key := Ne.symm fresh.1
    constructor
    · simpa [earlier, other] using front
    · simpa [later, other] using back

section

variable (named : name item = key)

include named

theorem upsert_upsert (other : α) (items : List α) :
    upsert name key other (upsert name key item items) = upsert name key other items := by
  have fresh : key ∉ (earlier name key items).map name := notMem_earlier items
  rw [upsert_eq (upsert name key item items), upsert_eq items,
    (earlier_later_append fresh named).1, (earlier_later_append fresh named).2, ← upsert_eq]

theorem map_upsert (items : List α) :
    (upsert name key item items).map name =
      if key ∈ items.map name then items.map name else items.map name ++ [key] := by
  induction items with
  | nil => simp [upsert, named]
  | cons first rest ih =>
    by_cases same : name first = key
    · simp [upsert, same, named]
    · rw [upsert, if_neg same, map_cons, ih, map_cons]
      by_cases mem : key ∈ rest.map name
      · rw [if_pos mem, if_pos (mem_cons_of_mem _ mem)]
      · rw [if_neg mem, if_neg (not_mem_cons_of_ne_of_not_mem (Ne.symm same) mem),
          cons_append]

theorem nodup_upsert {items : List α} (distinct : (items.map name).Nodup) :
    ((upsert name key item items).map name).Nodup := by
  rw [map_upsert named]
  split
  · exact distinct
  · rename_i fresh
    exact List.Nodup.append distinct (nodup_singleton key) (by simpa using fresh)

end

variable (name) in
/-- The first item of the name. -/
def firstNamed (key : κ) (items : List α) : Option α :=
  items.find? fun item => name item = key

variable (name) in
/-- Change the first item of the name where it stands; `none` when there is no such item. -/
def modifyFirst (key : κ) (change : α → α) : List α → Option (List α)
  | [] => none
  | first :: rest =>
    if name first = key then some (change first :: rest)
    else (modifyFirst key change rest).map (first :: ·)

theorem modifyFirst_eq (change : α → α) (items : List α) :
    modifyFirst name key change items =
      (firstNamed name key items).map fun item => upsert name key (change item) items := by
  induction items with
  | nil => rfl
  | cons first rest ih =>
    by_cases same : name first = key
    · simp [modifyFirst, firstNamed, upsert, same]
    · rw [firstNamed] at ih
      rw [modifyFirst, if_neg same, ih, firstNamed, find?_cons_of_neg (by simpa using same),
        Option.map_map]
      congr 1
      funext item
      simp [upsert, same]

theorem firstNamed_upsert_self (named : name item = key) (items : List α) :
    firstNamed name key (upsert name key item items) = some item := by
  induction items with
  | nil => simp [upsert, firstNamed, named]
  | cons first rest ih =>
    by_cases same : name first = key
    · simp [upsert, firstNamed, same, named]
    · simpa [upsert, firstNamed, same] using ih

theorem firstNamed_upsert_of_ne (named : name item = key) {other : κ} (h : other ≠ key)
    (items : List α) :
    firstNamed name other (upsert name key item items) = firstNamed name other items := by
  have apart : name item ≠ other := fun equal => h (equal.symm.trans named)
  induction items with
  | nil => simp [upsert, firstNamed, apart]
  | cons first rest ih =>
    by_cases same : name first = key
    · simp [upsert, firstNamed, same, apart, h.symm]
    · rw [upsert, if_neg same]
      by_cases here : name first = other
      · simp [firstNamed, here]
      · simpa [firstNamed, here] using ih

theorem firstNamed_eq_some_iff {items : List α} (distinct : (items.map name).Nodup) :
    firstNamed name key items = some item ↔ item ∈ items ∧ name item = key := by
  constructor
  · intro found
    exact ⟨mem_of_find?_eq_some found, by simpa using find?_some found⟩
  · rintro ⟨mem, named⟩
    cases found : firstNamed name key items with
    | none =>
      have absent := find?_eq_none.mp found item mem
      simp [named] at absent
    | some other =>
      have named' : name other = key := by simpa using find?_some found
      rw [inj_on_of_nodup_map distinct (mem_of_find?_eq_some found) mem
        (named'.trans named.symm)]

omit [DecidableEq κ] in
theorem split_unique {before after before' after' : List α} {other : α}
    (distinct : ((before ++ item :: after).map name).Nodup)
    (split : before ++ item :: after = before' ++ other :: after')
    (same : name item = name other) : before = before' ∧ item = other ∧ after = after' := by
  have fresh : ∀ {front back : List α} {x : α}, ((front ++ x :: back).map name).Nodup →
      name x ∉ front.map name := by
    intro front back x nodup mem
    rw [map_append, map_cons] at nodup
    exact disjoint_of_nodup_append nodup mem mem_cons_self
  have names := congrArg (map name) split
  rw [map_append, map_append, map_cons, map_cons, ← same] at names
  have fronts := (append_sep_inj (fresh distinct) (same ▸ fresh (split ▸ distinct)) names).1
  have lengths : before.length = before'.length := by
    simpa using congrArg length fronts
  obtain ⟨rfl, rest⟩ := append_inj split lengths
  obtain ⟨rfl, rfl⟩ := cons.inj rest
  exact ⟨rfl, rfl, rfl⟩

end Upsert

/-! ## One place -/

theorem exists_place {α : Type} {items : List α} {i : ℕ} {item : α} (here : items[i]? = some item) :
    ∃ front back, items = front ++ item :: back ∧ ∀ x, items.set i x = front ++ x :: back := by
  obtain ⟨inRange, rfl⟩ := List.getElem?_eq_some_iff.mp here
  refine ⟨items.take i, items.drop (i + 1), ?_, fun x => ?_⟩
  · rw [getElem_cons_drop, take_append_drop]
  · rw [set_eq_take_append_cons_drop, if_pos inRange]

/-! ## The first least item -/

section Least

variable {α κ : Type} [LinearOrder κ] (key : α → Option κ)

/-- One round of the loop: a key below the best one so far replaces it. -/
def keepLeast (best : κ × Option α) (item : α) : κ × Option α :=
  match key item with
  | none => best
  | some k => if k < best.1 then (k, some item) else best

/-- The first item with the least key below the bound. -/
def leastBelow (bound : κ) (items : List α) : Option α :=
  (items.foldl (keepLeast key) (bound, none)).2

/-- The item stands first among those with the least key. -/
structure IsFirstLeast (bound : κ) (before : List α) (item : α) (after : List α) (k : κ) :
    Prop where
  hasKey : key item = some k
  below : k < bound
  beforeLarger : ∀ other ∈ before, ∀ k' ∈ key other, k < k'
  afterNotSmaller : ∀ other ∈ after, ∀ k' ∈ key other, k ≤ k'

variable {key} {best : κ × Option α}

variable {items : List α} {item : α} {k : κ}

theorem keepLeast_of_le (notSmaller : ∀ k ∈ key item, best.1 ≤ k) :
    keepLeast key best item = best := by
  unfold keepLeast
  split
  · rfl
  · rename_i k found
    exact if_neg (not_lt.mpr (notSmaller k found))

theorem keepLeast_of_lt (found : key item = some k) (smaller : k < best.1) :
    keepLeast key best item = (k, some item) := by
  simp [keepLeast, found, smaller]

theorem foldl_keepLeast_of_le (notSmaller : ∀ item ∈ items, ∀ k ∈ key item, best.1 ≤ k) :
    items.foldl (keepLeast key) best = best := by
  induction items with
  | nil => rfl
  | cons item items ih =>
    obtain ⟨first, rest⟩ := forall_mem_cons.mp notSmaller
    rw [foldl_cons, keepLeast_of_le first, ih rest]

theorem lt_foldl_keepLeast (start : k < best.1) (larger : ∀ item ∈ items, ∀ k' ∈ key item, k < k') :
    k < (items.foldl (keepLeast key) best).1 := by
  induction items generalizing best with
  | nil => exact start
  | cons item items ih =>
    obtain ⟨first, rest⟩ := forall_mem_cons.mp larger
    refine ih ?_ rest
    unfold keepLeast
    split
    · exact start
    · rename_i k' found
      split
      · exact first k' found
      · exact start

theorem foldl_keepLeast_cases (key : α → Option κ) (best : κ × Option α) (items : List α) :
    (∀ item ∈ items, ∀ k ∈ key item, best.1 ≤ k) ∨
      ∃ before item after k, items = before ++ item :: after ∧
        IsFirstLeast key best.1 before item after k := by
  induction items generalizing best with
  | nil => exact Or.inl fun item mem => absurd mem not_mem_nil
  | cons first items ih =>
    by_cases notSmaller : ∀ k ∈ key first, best.1 ≤ k
    · rcases ih best with none | ⟨before, item, after, k, rfl, least⟩
      · exact Or.inl (forall_mem_cons.mpr ⟨notSmaller, none⟩)
      · refine Or.inr ⟨first :: before, item, after, k, rfl, least.hasKey, least.below, ?_,
          least.afterNotSmaller⟩
        refine forall_mem_cons.mpr ⟨fun k' found => ?_, least.beforeLarger⟩
        exact lt_of_lt_of_le least.below (notSmaller k' found)
    · obtain ⟨k, found, smaller⟩ : ∃ k, key first = some k ∧ k < best.1 := by
        simpa using notSmaller
      rcases ih (k, some first) with none | ⟨before, item, after, k', rfl, least⟩
      · refine Or.inr ⟨[], first, items, k, rfl, found, smaller, ?_, none⟩
        exact fun item mem => absurd mem not_mem_nil
      · refine Or.inr ⟨first :: before, item, after, k', rfl, least.hasKey,
          lt_trans least.below smaller, ?_, least.afterNotSmaller⟩
        refine forall_mem_cons.mpr ⟨fun other same => ?_, least.beforeLarger⟩
        rw [Option.mem_def, found] at same
        exact Option.some.inj same ▸ least.below

theorem leastBelow_of_isFirstLeast {bound : κ} {before after : List α}
    (least : IsFirstLeast key bound before item after k) :
    leastBelow key bound (before ++ item :: after) = some item := by
  have reached : k < (before.foldl (keepLeast key) (bound, none)).1 :=
    lt_foldl_keepLeast least.below least.beforeLarger
  rw [leastBelow, foldl_append, foldl_cons, keepLeast_of_lt least.hasKey reached,
    foldl_keepLeast_of_le least.afterNotSmaller]

theorem leastBelow_eq_some_iff {bound : κ} :
    leastBelow key bound items = some item ↔
      ∃ before after k, items = before ++ item :: after ∧
        IsFirstLeast key bound before item after k := by
  constructor
  · intro selected
    rcases foldl_keepLeast_cases key (bound, none) items with
      none | ⟨before, other, after, k, rfl, least⟩
    · rw [leastBelow, foldl_keepLeast_of_le none] at selected
      cases selected
    · rw [leastBelow_of_isFirstLeast least] at selected
      obtain rfl := Option.some.inj selected
      exact ⟨before, after, k, rfl, least⟩
  · rintro ⟨before, after, k, rfl, least⟩
    exact leastBelow_of_isFirstLeast least

end Least

end GoBase
