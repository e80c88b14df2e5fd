import Aristo.Base.Run
import Mathlib.Logic.Function.Basic
import Mathlib.Order.Basic

/-!
# Key-value maps and logs of writes

A store that behaves as a key-value map is a function `κ → Option α`.  A write is a key with its
new contents, `none` for a removal.  What a log of writes does to a key is decided by its last write
to that key (`applyWrites_apply`); in particular a key that is not mentioned keeps its contents, and
two logs with the same writes, none of which disagree, end in the same store
(`applyWrites_eq_of_agree`).
-/

namespace GoBase

variable {κ α : Type} [DecidableEq κ]

abbrev KeyValue (κ α : Type) := κ → Option α

namespace KeyValue

def insert (store : KeyValue κ α) (key : κ) (value : α) : KeyValue κ α :=
  Function.update store key (some value)

def remove (store : KeyValue κ α) (key : κ) : KeyValue κ α :=
  Function.update store key none

section

variable (store : KeyValue κ α)

@[simp] theorem insert_self (key : κ) (value : α) :
    store.insert key value key = some value := by
  simp [insert]

@[simp] theorem remove_self (key : κ) :
    store.remove key key = none := by
  simp [remove]

theorem insert_of_ne {key other : κ} (value : α) (h : other ≠ key) :
    store.insert key value other = store other := by
  simp [insert, h]

@[simp] theorem insert_insert (key : κ) (first second : α) :
    (store.insert key first).insert key second = store.insert key second := by
  simp [insert]

theorem remove_of_ne {key other : κ} (h : other ≠ key) :
    store.remove key other = store other := by
  simp [remove, h]

end

end KeyValue

abbrev Write (κ α : Type) := κ × Option α

/-- Run a log of writes from left to right. -/
def applyWrites (store : KeyValue κ α) (log : List (Write κ α)) : KeyValue κ α :=
  log.foldl (fun store write => Function.update store write.1 write.2) store

def lastWrite (log : List (Write κ α)) (key : κ) : Option (Option α) :=
  (log.reverse.find? fun write => write.1 = key).map Prod.snd

@[simp] theorem applyWrites_nil (store : KeyValue κ α) : applyWrites store [] = store :=
  rfl

@[simp] theorem applyWrites_cons (store : KeyValue κ α) (write : Write κ α)
    (log : List (Write κ α)) :
    applyWrites store (write :: log) =
      applyWrites (Function.update store write.1 write.2) log := rfl

theorem applyWrites_append (store : KeyValue κ α) (first second : List (Write κ α)) :
    applyWrites store (first ++ second) =
      applyWrites (applyWrites store first) second := by
  simp [applyWrites]

theorem forM_applyWrites {β : Type} {body : β → Call (KeyValue κ α) Unit}
    {writes : β → List (Write κ α)}
    (h : ∀ item store, body item store = (.ok (), applyWrites store (writes item)))
    (items : List β) (store : KeyValue κ α) :
    forM items body store = (.ok (), applyWrites store (items.flatMap writes)) := by
  induction items generalizing store with
  | nil => rfl
  | cons item items ih =>
    rw [List.forM_cons]
    rw [Call.bind_of_ok (h item store), ih, List.flatMap_cons, applyWrites_append]

@[simp] theorem lastWrite_nil (key : κ) :
    lastWrite ([] : List (Write κ α)) key = none := rfl

theorem lastWrite_append_singleton (log : List (Write κ α)) (write : Write κ α)
    (key : κ) :
    lastWrite (log ++ [write]) key =
      if write.1 = key then some write.2 else lastWrite log key := by
  by_cases h : write.1 = key <;> simp [lastWrite, h]

/-- **Last write wins.**  The contents of a key after a log are those of the
log's last write to it, or the old contents when there is none. -/
theorem applyWrites_apply (store : KeyValue κ α) (log : List (Write κ α)) (key : κ) :
    applyWrites store log key = (lastWrite log key).getD (store key) := by
  induction log using List.reverseRecOn with
  | nil => simp
  | append_singleton log write ih =>
    rw [applyWrites_append, lastWrite_append_singleton]
    by_cases h : write.1 = key
    · subst h
      simp
    · have other : key ≠ write.1 := fun equal => h equal.symm
      simp [h, other, ih]

variable {log : List (Write κ α)} {key : κ}

theorem mem_of_lastWrite {contents : Option α} (h : lastWrite log key = some contents) :
    (key, contents) ∈ log := by
  obtain ⟨write, found, rfl⟩ := Option.map_eq_some_iff.mp h
  have same : write.1 = key := by simpa using List.find?_some found
  have member : write ∈ log := List.mem_reverse.mp (List.mem_of_find?_eq_some found)
  rwa [← same]

theorem lastWrite_eq_none_iff : lastWrite log key = none ↔ ∀ write ∈ log, write.1 ≠ key := by
  simp [lastWrite]

/-- **Two logs of one history.**  When the items that write `key` in the first log are those that
write `key'` in the second one, the last write of `key` is that of `key'`. -/
theorem lastWrite_filterMap {ι κ' β : Type} [DecidableEq κ'] {items : List ι}
    {first : ι → Option (Write κ α)} {second : ι → Option (Write κ' β)} {key' : κ'}
    {contents : Option β → Option α} (matching : ∀ item ∈ items,
      (∃ written, second item = some (key', written) ∧
        first item = some (key, contents written)) ∨
      ((∀ written, first item ≠ some (key, written)) ∧
        ∀ written, second item ≠ some (key', written))) :
    lastWrite (items.filterMap first) key =
      (lastWrite (items.filterMap second) key').map contents := by
  induction items using List.reverseRecOn with
  | nil => rfl
  | append_singleton items item ih =>
    have before := ih fun earlier mem => matching earlier (List.mem_append_left _ mem)
    have skip {κ α : Type} [DecidableEq κ] {log : ι → Option (Write κ α)} {key : κ}
        (other : ∀ written, log item ≠ some (key, written)) :
        lastWrite ((items ++ [item]).filterMap log) key =
          lastWrite (items.filterMap log) key := by
      rw [List.filterMap_append]
      cases found : log item with
      | none => simp [found]
      | some write =>
        have apart : write.1 ≠ key := by
          rintro rfl
          exact other write.2 found
        simp only [List.filterMap_cons, found, List.filterMap_nil]
        rw [lastWrite_append_singleton, if_neg apart]
    rcases matching item (List.mem_append_right _ List.mem_cons_self) with
      ⟨written, hsecond, hfirst⟩ | ⟨hfirst, hsecond⟩
    · rw [List.filterMap_append, List.filterMap_append]
      simp only [List.filterMap_cons, hfirst, hsecond, List.filterMap_nil]
      rw [lastWrite_append_singleton, lastWrite_append_singleton, if_pos rfl, if_pos rfl]
      rfl
    · rw [skip hfirst, skip hsecond, before]

/-- A run of calls that write when they return, and leave the store alone when they do not. -/
theorem after_eq_applyWrites {σ ι β : Type} {call : ι → Call σ β} {view : σ → KeyValue κ α}
    {write : ι → Option (Write κ α)}
    (step : ∀ input state, Call.Ends (call input) state fun outcome next =>
      (outcome.Succeeded → view next = applyWrites (view state) (write input).toList) ∧
      (¬ outcome.Succeeded → view next = view state))
    (state : σ) (inputs : List ι) :
    view (Call.after call state inputs) =
      applyWrites (view state)
        ((Call.returned call state inputs).filterMap fun done => write done.1) := by
  induction inputs generalizing state with
  | nil => rfl
  | cons input inputs ih =>
    rcases h : call input state with ⟨outcome, next⟩
    have first := step input state
    rw [Call.Ends, h] at first
    rw [Call.after_cons h, ih]
    by_cases succeeded : outcome.Succeeded
    · rw [first.1 succeeded]
      obtain ⟨value, rfl⟩ := Outcome.succeeded_iff.mp succeeded
      rw [Call.returned_cons_of_ok h]
      cases written : write input <;> simp [written]
    · rw [first.2 succeeded, Call.returned_cons_of_not h succeeded]

theorem applyWrites_of_notMem (store : KeyValue κ α) (h : ∀ write ∈ log, write.1 ≠ key) :
    applyWrites store log key = store key := by
  rw [applyWrites_apply, lastWrite_eq_none_iff.mpr h, Option.getD_none]

theorem applyWrites_last (store : KeyValue κ α) (before after : List (Write κ α))
    (write : Write κ α) (h : ∀ later ∈ after, later.1 ≠ write.1) :
    applyWrites store (before ++ write :: after) write.1 = write.2 := by
  rw [applyWrites_append, applyWrites_cons, applyWrites_of_notMem _ h]
  simp

theorem applyWrites_of_repeats {store : KeyValue κ α} {contents : Option α}
    (holds : store key = contents) (repeats : ∀ write ∈ log, write.1 = key → write.2 = contents) :
    applyWrites store log key = contents := by
  rw [applyWrites_apply]
  cases last : lastWrite log key with
  | none => exact holds
  | some => exact repeats _ (mem_of_lastWrite last) rfl

/-- No two writes of the log bind one key to different contents. -/
def Agree (log : List (Write κ α)) : Prop :=
  ∀ first ∈ log, ∀ second ∈ log, first.1 = second.1 → first.2 = second.2

theorem applyWrites_of_agree (store : KeyValue κ α) (agree : Agree log) {write : Write κ α}
    (mem : write ∈ log) :
    applyWrites store log write.1 = write.2 := by
  rw [applyWrites_apply]
  cases last : lastWrite log write.1 with
  | none => exact absurd rfl (lastWrite_eq_none_iff.mp last write mem)
  | some => exact agree _ (mem_of_lastWrite last) _ mem rfl

/-- One write for every key of a list, with contents that depend on the key. -/
theorem applyWrites_map (store : KeyValue κ α) (contents : κ → Option α) (keys : List κ) (key : κ) :
    applyWrites store (keys.map fun key => (key, contents key)) key =
      if key ∈ keys then contents key else store key := by
  split
  case isTrue listed =>
    refine applyWrites_of_agree store ?_ (List.mem_map.mpr ⟨key, listed, rfl⟩)
    intro first hfirst second hsecond same
    obtain ⟨one, -, rfl⟩ := List.mem_map.mp hfirst
    obtain ⟨other, -, rfl⟩ := List.mem_map.mp hsecond
    exact congrArg contents same
  case isFalse unlisted =>
    refine applyWrites_of_notMem store fun write mem equal => ?_
    obtain ⟨other, listed, rfl⟩ := List.mem_map.mp mem
    exact unlisted (equal ▸ listed)

/-- **Order does not matter without disagreement.**  Two logs with the same writes
have the same effect when no two of the writes disagree. -/
theorem applyWrites_eq_of_agree (store : KeyValue κ α) {first second : List (Write κ α)}
    (agree : Agree first) (same : ∀ write, write ∈ first ↔ write ∈ second) :
    applyWrites store first = applyWrites store second := by
  funext key
  by_cases mentioned : ∃ write ∈ first, write.1 = key
  · obtain ⟨write, mem, rfl⟩ := mentioned
    have agree' : Agree second := fun one hone other hother =>
      agree one ((same one).mpr hone) other ((same other).mpr hother)
    rw [applyWrites_of_agree store agree mem,
      applyWrites_of_agree store agree' ((same write).mp mem)]
  · have unmentioned : ∀ write ∈ first, write.1 ≠ key := fun write mem equal =>
      mentioned ⟨write, mem, equal⟩
    rw [applyWrites_of_notMem _ unmentioned,
      applyWrites_of_notMem _ fun write mem => unmentioned write ((same write).mpr mem)]

end GoBase
