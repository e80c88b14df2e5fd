import Mathlib.Data.List.Nodup
import Aristo.Base.Run
import Aristo.Interfaces

/-!
# The TEE pairs of a region

`Region` of `region.go`, as far as its TEE pairs go.  `AddTEEPair` and `RemoveTEEPair` compare the
two endpoints, `GetTEEPairByID`, `HasTEEPair` and `UpdateTEEPair` compare the ID, and none looks at
the key of the others.  So an added pair can bring an ID that is there already, and an update can
bring the endpoints of another pair.
-/

namespace Aristo.Vm

open GoBase Interfaces List

/-- The endpoints of a pair, by which `AddTEEPair` and `RemoveTEEPair` know it. -/
def endpoints (pair : TEEPairConfig) : Bytes × Bytes :=
  (pair.sgxEndpoint, pair.sevEndpoint)

/-- `Region`, with the fields that the methods on TEE pairs use. -/
structure Region where
  teePairs : List TEEPairConfig
  lastUpdated : Time

namespace Region

def errInvalidTEE : GoError :=
  .new ⟨"vm", "ErrInvalidTEE"⟩ "invalid TEE configuration"

def addTEEPair (pair : TEEPairConfig) (r : Region) : Region :=
  if r.teePairs.any fun existing =>
      existing.sgxEndpoint = pair.sgxEndpoint ∧ existing.sevEndpoint = pair.sevEndpoint then r
  else { r with teePairs := r.teePairs ++ [pair] }

def removeTEEPair (pair : TEEPairConfig) (r : Region) : Region :=
  { r with teePairs := r.teePairs.filter fun existing =>
      existing.sgxEndpoint ≠ pair.sgxEndpoint ∨ existing.sevEndpoint ≠ pair.sevEndpoint }

def getTEEPairByID (id : Bytes) (r : Region) : Except GoError TEEPairConfig :=
  match r.teePairs.find? fun pair => pair.id = id with
  | some pair => .ok pair
  | none => .error errInvalidTEE

def hasTEEPair (id : Bytes) (r : Region) : Bool :=
  r.teePairs.any fun pair => pair.id = id

/-- The loop of `UpdateTEEPair`: the first pair with the ID is replaced. -/
def replaceFirst (pair : TEEPairConfig) : List TEEPairConfig → Option (List TEEPairConfig)
  | [] => none
  | existing :: rest =>
    if existing.id = pair.id then some (pair :: rest)
    else (replaceFirst pair rest).map (existing :: ·)

/-- `UpdateTEEPair`, at time `now`. -/
def updateTEEPair (now : Time) (pair : TEEPairConfig) : Call Region Unit := do
  let r ← Call.read
  match replaceFirst pair r.teePairs with
  | some teePairs => Call.modify fun _ => { teePairs, lastUpdated := now }
  | none => Call.fail errInvalidTEE

variable {pair : TEEPairConfig}

/-- An update fails when no pair has the ID, -/
theorem replaceFirst_eq_none_iff {pairs : List TEEPairConfig} :
    replaceFirst pair pairs = none ↔ pair.id ∉ pairs.map TEEPairConfig.id := by
  induction pairs with
  | nil => simp [replaceFirst]
  | cons existing rest ih =>
    by_cases here : existing.id = pair.id
    · simp [replaceFirst, here]
    · simp [replaceFirst, here, ih, Ne.symm here]

/-- and otherwise replaces the first that has. -/
theorem replaceFirst_eq_some {pairs replaced : List TEEPairConfig}
    (found : replaceFirst pair pairs = some replaced) :
    ∃ front existing back, pairs = front ++ existing :: back ∧ existing.id = pair.id ∧
      replaced = front ++ pair :: back := by
  induction pairs generalizing replaced with
  | nil => simp [replaceFirst] at found
  | cons first rest ih =>
    by_cases here : first.id = pair.id
    · simp only [replaceFirst, here, if_true, Option.some.injEq] at found
      exact ⟨[], first, rest, rfl, here, found.symm⟩
    · simp only [replaceFirst, here, if_false, Option.map_eq_some_iff] at found
      obtain ⟨tail, inner, rfl⟩ := found
      obtain ⟨front, existing, back, rfl, same, rfl⟩ := ih inner
      exact ⟨first :: front, existing, back, rfl, same, rfl⟩

/-! ## Both keys are unique -/

/-- No two entries have the same endpoints and no two have the same ID, so an ID stands for at most
one pair. -/
structure Distinct (r : Region) : Prop where
  endpoints_nodup : (r.teePairs.map endpoints).Nodup
  ids_nodup : (r.teePairs.map TEEPairConfig.id).Nodup
  identified : ∀ id, r.teePairs.countP (fun pair => pair.id = id) ≤ 1

/-- With distinct IDs an ID stands for at most one pair. -/
theorem distinct_iff {r : Region} :
    Distinct r ↔
      (r.teePairs.map endpoints).Nodup ∧ (r.teePairs.map TEEPairConfig.id).Nodup := by
  constructor
  · intro distinct
    exact ⟨distinct.endpoints_nodup, distinct.ids_nodup⟩
  · rintro ⟨ends, ids⟩
    refine ⟨ends, ids, fun id => ?_⟩
    have once := nodup_iff_count_le_one.mp ids id
    rw [List.count, countP_map] at once
    exact (countP_congr fun pair _ => by simp).trans_le once

/-- With distinct IDs, `GetTEEPairByID` finds a pair exactly when it is there under the ID. -/
theorem Distinct.getTEEPairByID_iff {r : Region} (distinct : Distinct r) {id : Bytes}
    {pair : TEEPairConfig} : r.getTEEPairByID id = .ok pair ↔ pair ∈ r.teePairs ∧ pair.id = id := by
  unfold getTEEPairByID
  cases found : r.teePairs.find? fun pair => pair.id = id with
  | none =>
    refine iff_of_false nofun fun ⟨mem, named⟩ => ?_
    exact find?_eq_none.mp found pair mem (decide_eq_true named)
  | some first =>
    have mem := mem_of_find?_eq_some found
    have named : first.id = id := by simpa using find?_some found
    constructor
    · rintro ⟨⟩
      exact ⟨mem, named⟩
    · rintro ⟨other, same⟩
      rw [inj_on_of_nodup_map distinct.ids_nodup other mem (same.trans named.symm)]

/-- `HasTEEPair` says whether `GetTEEPairByID` finds a pair. -/
theorem hasTEEPair_iff {r : Region} {id : Bytes} :
    r.hasTEEPair id = true ↔ ∃ pair, r.getTEEPairByID id = .ok pair := by
  unfold hasTEEPair getTEEPairByID
  rw [any_eq_true, ← find?_isSome]
  cases r.teePairs.find? fun pair => pair.id = id <;> simp

/-- The calls that write the pairs, with the time that an update reads. -/
inductive PairCall where
  | add (pair : TEEPairConfig)
  | remove (pair : TEEPairConfig)
  | update (now : Time) (pair : TEEPairConfig)

def PairCall.apply (r : Region) : PairCall → Region
  | .add pair => r.addTEEPair pair
  | .remove pair => r.removeTEEPair pair
  | .update now pair => (updateTEEPair now pair r).2

/-- An added pair that is new by its endpoints is new by its ID, and an update brings no endpoints
of another ID. -/
def Careful (r : Region) : PairCall → Prop
  | .add pair =>
    endpoints pair ∈ r.teePairs.map endpoints ∨ pair.id ∉ r.teePairs.map TEEPairConfig.id
  | .remove _ => True
  | .update _ pair =>
    pair.id ∈ r.teePairs.map TEEPairConfig.id →
      ∀ other ∈ r.teePairs, endpoints other = endpoints pair → other.id = pair.id

section Steps

variable {r : Region} {pair : TEEPairConfig}

/-- A pair with new endpoints is added, whatever its ID. -/
theorem addTEEPair_eq : r.addTEEPair pair =
    if endpoints pair ∈ r.teePairs.map endpoints then r
    else { r with teePairs := r.teePairs ++ [pair] } := by
  have same : (r.teePairs.any fun existing =>
      existing.sgxEndpoint = pair.sgxEndpoint ∧ existing.sevEndpoint = pair.sevEndpoint) = true ↔
        endpoints pair ∈ r.teePairs.map endpoints := by
    simp [endpoints, mem_map]
  exact if_congr same rfl rfl

/-- So its ID has to be new as well, -/
theorem distinct_add_iff (distinct : Distinct r) :
    Distinct (r.addTEEPair pair) ↔ Careful r (.add pair) := by
  by_cases present : endpoints pair ∈ r.teePairs.map endpoints
  · rw [addTEEPair_eq, if_pos present]
    exact iff_of_true distinct (.inl present)
  · rw [addTEEPair_eq, if_neg present, distinct_iff]
    simp only [map_append, map_cons, map_nil, nodup_middle, append_nil, nodup_cons]
    have ends := distinct.endpoints_nodup
    have ids := distinct.ids_nodup
    simp only [Careful]
    tauto

/-- while less is as distinct, -/
theorem distinct_remove (distinct : Distinct r) : Distinct (r.removeTEEPair pair) := by
  have kept : (r.removeTEEPair pair).teePairs.Sublist r.teePairs := filter_sublist
  rw [distinct_iff]
  exact ⟨distinct.endpoints_nodup.sublist (kept.map _), distinct.ids_nodup.sublist (kept.map _)⟩

/-- and an update must not bring the endpoints of another pair. -/
theorem distinct_update_iff {now : Time} (distinct : Distinct r) :
    Distinct (updateTEEPair now pair r).2 ↔ Careful r (.update now pair) := by
  cases looked : replaceFirst pair r.teePairs with
  | none =>
    have missing := replaceFirst_eq_none_iff.mp looked
    have failed : updateTEEPair now pair r = (.err errInvalidTEE, r) := by
      simp [updateTEEPair, Call.bind_apply, looked, Call.fail]
    rw [failed]
    exact iff_of_true distinct fun present => absurd present missing
  | some replaced =>
    have updated : updateTEEPair now pair r = (.ok (), ⟨replaced, now⟩) := by
      simp [updateTEEPair, Call.bind_apply, looked]
    rw [updated, distinct_iff]
    obtain ⟨front, existing, back, pairs, same, rfl⟩ := replaceFirst_eq_some looked
    have ends := distinct.endpoints_nodup
    have ids := distinct.ids_nodup
    simp only [pairs, map_append, map_cons, nodup_middle, nodup_cons]
      at ends ids
    simp only [map_append, map_cons, nodup_middle, nodup_cons, ← same,
      ids, ends, not_false_eq_true, and_true]
    constructor
    · intro free _ other mem equal
      rw [pairs, mem_append, mem_cons] at mem
      rcases mem with mem | rfl | mem
      · exact absurd (mem_append_left _ (mem_map.mpr ⟨other, mem, equal⟩)) free
      · exact same
      · exact absurd (mem_append_right _ (mem_map.mpr ⟨other, mem, equal⟩)) free
    · intro careful taken
      have hit : pair.id ∈ r.teePairs.map TEEPairConfig.id := by simp [pairs, same]
      rw [← map_append] at taken
      obtain ⟨other, mem, equal⟩ := mem_map.mp taken
      have inside : other ∈ r.teePairs := by
        rw [pairs]
        rcases mem_append.mp mem with mem | mem
        · exact mem_append_left _ mem
        · exact mem_append_right _ (mem_cons_of_mem _ mem)
      have clash : other.id = existing.id := (careful hit other inside equal).trans same.symm
      refine ids.1 ?_
      rw [← map_append]
      exact mem_map.mpr ⟨other, mem, clash⟩

end Steps

/-- **One call** keeps both keys unique exactly when it is careful. -/
theorem distinct_apply_iff {r : Region} (distinct : Distinct r) (call : PairCall) :
    Distinct (call.apply r) ↔ Careful r call := by
  cases call with
  | add => exact distinct_add_iff distinct
  | remove => exact iff_of_true (distinct_remove distinct) trivial
  | update => exact distinct_update_iff distinct

def withoutPairs (lastUpdated : Time) : Region :=
  ⟨[], lastUpdated⟩

/-- **When both keys stay unique.**  From a region without pairs, every call of a run leaves the
endpoints and the IDs distinct exactly when every call of it is careful. -/
theorem distinct_along_iff (lastUpdated : Time) (calls : List PairCall) :
    Along PairCall.apply (fun r call => Distinct (PairCall.apply r call))
        (withoutPairs lastUpdated) calls ↔
      Along PairCall.apply Careful (withoutPairs lastUpdated) calls := by
  have start : Distinct (withoutPairs lastUpdated) := distinct_iff.mpr ⟨nodup_nil, nodup_nil⟩
  have agree : ∀ r call, Distinct r → (Distinct (PairCall.apply r call) ↔ Careful r call) :=
    fun _ call distinct => distinct_apply_iff distinct call
  have keep : ∀ r call, Distinct r → Distinct (PairCall.apply r call) →
      Distinct (PairCall.apply r call) := fun _ _ _ after => after
  exact along_iff_of_invariant agree keep start calls

/-- Two pairs with one ID and different endpoints are both added; and an update of the second of two
pairs to the endpoints of the first leaves two pairs with the same endpoints. -/
theorem not_distinct_added_updated :
    ¬ Distinct (run PairCall.apply (withoutPairs Time.zero)
        [.add ⟨ascii "p", ascii "a", ascii "b", []⟩, .add ⟨ascii "p", ascii "c", ascii "d", []⟩]) ∧
      ¬ Distinct (run PairCall.apply (withoutPairs Time.zero)
        [.add ⟨ascii "p", ascii "a", ascii "b", []⟩, .add ⟨ascii "q", ascii "c", ascii "d", []⟩,
          .update Time.zero ⟨ascii "q", ascii "a", ascii "b", []⟩]) := by
  constructor
  · intro distinct
    exact absurd distinct.ids_nodup (by decide)
  · intro distinct
    exact absurd distinct.endpoints_nodup (by decide)

end Region

end Aristo.Vm
