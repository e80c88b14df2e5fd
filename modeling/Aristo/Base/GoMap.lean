import Mathlib.Data.Finmap
import Mathlib.Data.List.Perm.Basic
import Mathlib.Data.List.Nodup

/-!
# Go maps and their iteration orders

A Go map is a finite map, Mathlib's `Finmap`, and `for k := range m` visits every key once in an
order the language leaves open: `Visits m order`.  A loop over a map is a function of the order, and
a property of the program is one for every such order.  The orders of a map are the permutations of
any one of them (`Visits.perm`, `Visits.of_perm`).
-/

namespace GoBase

open Finmap

variable {κ α : Type}

abbrev GoMap (κ α : Type) := Finmap fun _ : κ => α

namespace GoMap

/-- `order` is one of the orders in which `range` may visit the keys of `m`. -/
structure Visits (m : GoMap κ α) (order : List κ) : Prop where
  nodup : order.Nodup
  mem_iff : ∀ key, key ∈ order ↔ key ∈ m

section Orders

variable {m : GoMap κ α} {order other : List κ}

/-- Two orders have the same keys, -/
theorem Visits.perm (h : m.Visits order) (h' : m.Visits other) : order.Perm other :=
  (List.perm_ext_iff_of_nodup h.nodup h'.nodup).mpr fun key =>
    (h.mem_iff key).trans (h'.mem_iff key).symm

/-- and every permutation of an order is one. -/
theorem Visits.of_perm (h : m.Visits order) (p : other.Perm order) : m.Visits other :=
  ⟨p.nodup_iff.mpr h.nodup, fun key => p.mem_iff.trans (h.mem_iff key)⟩

/-- Every map can be visited. -/
theorem exists_visits (m : GoMap κ α) : ∃ order, m.Visits order :=
  ⟨m.keys.toList, m.keys.nodup_toList, fun key => by
    rw [Finset.mem_toList, mem_keys]⟩

structure Range (κ α : Type) where
  order : GoMap κ α → List κ
  visits : ∀ m : GoMap κ α, m.Visits (order m)

noncomputable instance : Inhabited (Range κ α) :=
  ⟨fun m => (exists_visits m).choose, fun m => (exists_visits m).choose_spec⟩

variable [BEq κ] [LawfulBEq κ]

/-- Any key can come first, -/
theorem Visits.first (h : m.Visits order) {key : κ} (mem : key ∈ m) :
    m.Visits (key :: order.erase key) :=
  h.of_perm (List.perm_cons_erase ((h.mem_iff key).mpr mem)).symm

/-- or last. -/
theorem Visits.last (h : m.Visits order) {key : κ} (mem : key ∈ m) :
    m.Visits (order.erase key ++ [key]) :=
  (h.first mem).of_perm (List.perm_append_singleton key _)

end Orders

variable {m : GoMap κ α} {key : κ}

/-- An insertion changes nothing if the value is there. -/
theorem insert_eq_self_iff [DecidableEq κ] {value : α} :
    m.insert key value = m ↔ m.lookup key = some value := by
  constructor
  · intro same
    rw [← same]
    exact lookup_insert m
  · intro stored
    refine ext_lookup fun other => ?_
    by_cases here : other = key
    · rw [here, lookup_insert, stored]
    · exact lookup_insert_of_ne m here

/-- A lookup after an insertion finds what was inserted, or what was there. -/
theorem lookup_insert_cases [DecidableEq κ] {value found : α} {other : κ}
    (h : (m.insert key value).lookup other = some found) :
    other = key ∧ value = found ∨ other ≠ key ∧ m.lookup other = some found := by
  by_cases same : other = key
  · subst same
    exact Or.inl ⟨rfl, Option.some.inj ((lookup_insert m).symm.trans h)⟩
  · exact Or.inr ⟨same, (lookup_insert_of_ne m same).symm.trans h⟩

def len (m : GoMap κ α) : ℕ :=
  m.keys.card

variable {order : List κ}

/-- A loop makes as many rounds as the map has entries. -/
theorem Visits.length_eq (h : m.Visits order) : order.length = m.len := by
  have listed : m.Visits m.keys.toList :=
    ⟨m.keys.nodup_toList, fun key => by rw [Finset.mem_toList, mem_keys]⟩
  rw [(h.perm listed).length_eq, Finset.length_toList, len]

/-- Only the empty map has no entries. -/
theorem len_eq_zero_iff : m.len = 0 ↔ ∀ key, key ∉ m := by
  rw [len, Finset.card_eq_zero, Finset.eq_empty_iff_forall_notMem]
  exact forall_congr' fun key => not_congr mem_keys

/-- A map with one key has one entry at most, -/
theorem len_le_one_of_forall_eq (h : ∀ key ∈ m, ∀ other ∈ m, key = other) : m.len ≤ 1 :=
  Finset.card_le_one.mpr fun key mem other mem' =>
    h key (mem_keys.mp mem) other (mem_keys.mp mem')

/-- and one order. -/
theorem Visits.eq_of_len_le_one {other : List κ} (h : m.Visits order) (h' : m.Visits other)
    (small : m.len ≤ 1) : order = other := by
  have same := h.perm h'
  rw [← h.length_eq] at small
  match order, small with
  | [], _ => exact (List.nil_perm.mp same).symm
  | [key], _ => exact List.singleton_perm.mp same

/-- More keys are more entries. -/
theorem len_le_len {β : Type} {m' : GoMap κ β} (keys : ∀ key, key ∈ m → key ∈ m') :
    m.len ≤ m'.len :=
  Finset.card_le_card fun key mem => mem_keys.mpr (keys key (mem_keys.mp mem))

/-- Distinct keys of a map are no more than its entries, -/
theorem card_le_len {keys : Multiset κ} (distinct : keys.Nodup) (mem : ∀ key ∈ keys, key ∈ m) :
    keys.card ≤ m.len :=
  Finset.card_le_card (s := ⟨keys, distinct⟩) fun key listed =>
    mem_keys.mpr (mem key listed)

variable [DecidableEq κ]

/-- and a list of all keys is no shorter. -/
theorem len_le_length {keys : List κ} (listed : ∀ key ∈ m, key ∈ keys) : m.len ≤ keys.length := by
  have subset : m.keys ⊆ keys.toFinset := by
    intro key mem
    exact List.mem_toFinset.mpr (listed key (mem_keys.mp mem))
  exact (Finset.card_le_card subset).trans (List.toFinset_card_le keys)

/-- An insertion adds one entry at most. -/
theorem len_insert_le (m : GoMap κ α) (key : κ) (value : α) :
    GoMap.len (m.insert key value) ≤ m.len + 1 := by
  have keys : (m.insert key value).keys ⊆ insert key m.keys := by
    intro other mem
    rw [mem_keys, mem_insert] at mem
    rw [Finset.mem_insert, mem_keys]
    exact mem
  exact (Finset.card_le_card keys).trans (Finset.card_insert_le _ _)

/-! ### Loops that change the values

A loop `for k, v := range m` that writes or deletes only the entry it visits does the same in
every order. -/

def mapValues {β : Type} (f : α → β) (m : GoMap κ α) : GoMap κ β where
  entries := m.entries.map fun entry => ⟨entry.1, f entry.2⟩
  nodupKeys := by
    have keys : (m.entries.map fun entry => (⟨entry.1, f entry.2⟩ : Sigma fun _ : κ => β)).keys =
        m.entries.keys := Multiset.map_map _ _ _
    rw [← Multiset.nodup_keys, keys]
    exact Multiset.nodup_keys.mpr m.nodupKeys

def filterValues (p : α → Prop) [DecidablePred p] (m : GoMap κ α) : GoMap κ α where
  entries := m.entries.filter fun entry => p entry.2
  nodupKeys := Multiset.nodup_keys.mp (Multiset.nodup_of_le
    (Multiset.map_le_map (Multiset.filter_le _ _)) (Multiset.nodup_keys.mpr m.nodupKeys))

/-- The loop over the values changes each where it is. -/
@[simp] theorem lookup_mapValues {β : Type} (f : α → β) (m : GoMap κ α) (key : κ) :
    (m.mapValues f).lookup key = (m.lookup key).map f := by
  ext value
  simp only [Option.map_eq_some_iff, lookup_eq_some_iff, mapValues, Multiset.mem_map]
  constructor
  · rintro ⟨⟨key', before⟩, mem, equal⟩
    cases equal
    exact ⟨before, mem, rfl⟩
  · rintro ⟨before, mem, rfl⟩
    exact ⟨⟨key, before⟩, mem, rfl⟩

/-- The loop that deletes keeps the others. -/
@[simp] theorem lookup_filterValues (p : α → Prop) [DecidablePred p] (m : GoMap κ α) (key : κ) :
    (m.filterValues p).lookup key = (m.lookup key).filter p := by
  ext value
  simp only [Option.filter_eq_some_iff, lookup_eq_some_iff, filterValues,
    Multiset.mem_filter, decide_eq_true_eq]

/-- `m[key]`, the zero value when `key` is absent. -/
def get [Inhabited α] (m : GoMap κ α) (key : κ) : α :=
  (m.lookup key).getD default

/-- What was inserted is read, -/
@[simp] theorem get_insert_self [Inhabited α] (m : GoMap κ α) (key : κ) (value : α) :
    GoMap.get (m.insert key value) key = value := by
  simp [get]

/-- and other keys read as before. -/
theorem get_insert_of_ne [Inhabited α] (m : GoMap κ α) {other : κ} (value : α) (h : other ≠ key) :
    GoMap.get (m.insert key value) other = m.get other := by
  simp [get, lookup_insert_of_ne _ h]

theorem get_of_lookup [Inhabited α] {value : α} (h : m.lookup key = some value) :
    m.get key = value := by
  simp [get, h]

/-- A key that is there has the value that is read. -/
theorem lookup_eq_get [Inhabited α] (h : key ∈ m) : m.lookup key = some (m.get key) := by
  obtain ⟨value, found⟩ := mem_iff.mp h
  rw [found, get_of_lookup found]

/-- An absent key reads as the zero value. -/
theorem get_of_notMem [Inhabited α] (h : key ∉ m) : m.get key = default := by
  simp [get, lookup_eq_none.mpr h]

/-- What holds of the zero value and of the values in a loop holds of all values. -/
theorem Visits.forall_get [Inhabited α] (visits : m.Visits order) {P : α → Prop} (zero : P default)
    (h : ∀ key ∈ order, P (m.get key)) (key : κ) : P (m.get key) := by
  by_cases mem : key ∈ m
  · exact h key ((visits.mem_iff key).mpr mem)
  · rwa [get_of_notMem mem]

/-- A key whose list has an item is there. -/
theorem mem_of_mem_get {β : Type} {m : GoMap κ (List β)} {item : β} (h : item ∈ m.get key) :
    key ∈ m := by
  by_contra absent
  rw [get_of_notMem absent] at h
  exact List.not_mem_nil h

/-- A loop over lists sees every item. -/
theorem Visits.forall_mem_get {β : Type} {m : GoMap κ (List β)} (visits : m.Visits order)
    {P : β → Prop} (h : ∀ key ∈ order, ∀ item ∈ m.get key, P item) :
    ∀ key, ∀ item ∈ m.get key, P item :=
  fun key item mem => h key ((visits.mem_iff key).mpr (mem_of_mem_get mem)) item mem

/-- A map literal; a later entry for a key replaces an earlier one. -/
def ofEntries (entries : List (κ × α)) : GoMap κ α :=
  entries.foldl (fun m entry => m.insert entry.1 entry.2) ∅

variable {entries : List (κ × α)}

/-- A loop of insertions adds the keys of its entries, -/
theorem mem_foldl_insert {m : GoMap κ α} :
    key ∈ entries.foldl (fun m entry => m.insert entry.1 entry.2) m ↔
      key ∈ entries.map Prod.fst ∨ key ∈ m := by
  induction entries generalizing m with
  | nil => simp
  | cons entry entries ih =>
    rw [List.foldl_cons, ih, mem_insert, List.map_cons, List.mem_cons]
    tauto

/-- and no other values. -/
theorem mem_of_lookup_foldl_insert {m : GoMap κ α} {value : α}
    (found : (entries.foldl (fun m entry => m.insert entry.1 entry.2) m).lookup key = some value) :
    (key, value) ∈ entries ∨ m.lookup key = some value := by
  induction entries generalizing m with
  | nil => exact Or.inr found
  | cons entry entries ih =>
    rcases ih found with later | earlier
    · exact Or.inl (List.mem_cons_of_mem _ later)
    · rcases lookup_insert_cases earlier with ⟨rfl, rfl⟩ | ⟨-, before⟩
      · exact Or.inl List.mem_cons_self
      · exact Or.inr before

/-- What a literal has comes from its entries. -/
theorem mem_of_lookup_ofEntries {value : α} (found : (ofEntries entries).lookup key = some value) :
    (key, value) ∈ entries := by
  rcases mem_of_lookup_foldl_insert found with listed | none
  · exact listed
  · rw [lookup_empty] at none
    cases none

theorem mem_ofEntries : key ∈ ofEntries entries ↔ key ∈ entries.map Prod.fst :=
  mem_foldl_insert.trans (or_iff_left notMem_empty)

/-- With distinct keys every entry is there. -/
theorem lookup_ofEntries_eq_some_iff (distinct : (entries.map Prod.fst).Nodup) {value : α} :
    (ofEntries entries).lookup key = some value ↔ (key, value) ∈ entries := by
  refine ⟨mem_of_lookup_ofEntries, fun listed => ?_⟩
  have there : key ∈ ofEntries entries :=
    mem_ofEntries.mpr (List.mem_map.mpr ⟨_, listed, rfl⟩)
  obtain ⟨other, found⟩ := mem_iff.mp there
  have same := List.inj_on_of_nodup_map distinct (mem_of_lookup_ofEntries found) listed rfl
  cases same
  exact found

/-- The keys of a literal can be visited in any order. -/
theorem visits_ofEntries (distinct : (entries.map Prod.fst).Nodup)
    (p : order.Perm (entries.map Prod.fst)) :
    (ofEntries entries).Visits order :=
  ⟨p.nodup_iff.mpr distinct, fun _ => p.mem_iff.trans mem_ofEntries.symm⟩

/-- **Rebuilding a map.**  Inserting the entries of `m` in any order into an empty
map gives `m` back. -/
theorem ofEntries_along [Inhabited α] (h : m.Visits order) :
    ofEntries (order.map fun key => (key, m.get key)) = m := by
  have keys : (order.map fun key => (key, m.get key)).map Prod.fst = order := by
    simp [Function.comp_def]
  have distinct : ((order.map fun key => (key, m.get key)).map Prod.fst).Nodup := by
    rw [keys]
    exact h.nodup
  refine ext_lookup fun key => Option.ext fun value => ?_
  rw [lookup_ofEntries_eq_some_iff distinct, List.mem_map]
  constructor
  · rintro ⟨key, visited, ⟨⟩⟩
    exact lookup_eq_get ((h.mem_iff key).mp visited)
  · intro found
    refine ⟨key, (h.mem_iff key).mpr (mem_of_lookup_eq_some found), ?_⟩
    rw [get_of_lookup found]

end GoMap

/-! ## Nested loops

A loop over the keys of a map whose body loops over the value at the key visits the
concatenation of the values.  An item of the concatenation has been visited after
the values of the earlier keys and the earlier items of its own. -/

section NestedLoops

variable {ι β : Type}

/-- A loop in a loop is one loop. -/
theorem foldlM_flatMap {m : Type → Type} [Monad m] [LawfulMonad m] {σ : Type}
    (items : ι → List β) (body : σ → β → m σ) (outer : List ι) (state : σ) :
    outer.foldlM (fun state i => (items i).foldlM body state) state =
      (outer.flatMap items).foldlM body state := by
  induction outer generalizing state with
  | nil => simp
  | cons i outer ih =>
    rw [List.foldlM_cons, List.flatMap_cons, List.foldlM_append]
    exact congrArg _ (funext ih)

/-- An item was visited in the loop of one key, -/
theorem flatMap_eq_append_cons {items : ι → List β} {outer : List ι}
    {before after : List β} {x : β} (h : outer.flatMap items = before ++ x :: after) :
    ∃ earlier i later front back, outer = earlier ++ i :: later ∧
      items i = front ++ x :: back ∧ before = earlier.flatMap items ++ front := by
  induction outer generalizing before with
  | nil => simp at h
  | cons i outer ih =>
    rw [List.flatMap_cons] at h
    rcases List.append_eq_append_iff.mp h with ⟨rest, hbefore, hrest⟩ | ⟨rest, hitems, hafter⟩
    · obtain ⟨earlier, j, later, front, back, houter, hj, hfront⟩ := ih hrest
      exact ⟨i :: earlier, j, later, front, back, by rw [houter]; rfl, hj, by
        rw [hbefore, hfront, List.flatMap_cons, List.append_assoc]⟩
    · cases rest with
      | nil =>
        have next : outer.flatMap items = [] ++ x :: after := hafter.symm
        obtain ⟨earlier, j, later, front, back, houter, hj, hfront⟩ := ih next
        exact ⟨i :: earlier, j, later, front, back, by rw [houter]; rfl, hj, by
          simp only [List.append_nil] at hitems
          rw [List.flatMap_cons, hitems, List.append_assoc, ← hfront, List.append_nil]⟩
      | cons y rest =>
        obtain ⟨rfl, -⟩ := List.cons.inj hafter
        exact ⟨[], i, outer, before, rest, rfl, hitems, by simp⟩

/-- and the other way round. -/
theorem append_cons_eq_flatMap {items : ι → List β} {earlier later : List ι} {i : ι}
    {front back : List β} {x : β} (h : items i = front ++ x :: back) :
    (earlier ++ i :: later).flatMap items =
      (earlier.flatMap items ++ front) ++ x :: (back ++ later.flatMap items) := by
  simp [h]

end NestedLoops

end GoBase
