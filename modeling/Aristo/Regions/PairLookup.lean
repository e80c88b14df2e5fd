import Aristo.Base.Slice
import Aristo.Regions.Manager

/-!
# Looking up a TEE pair

`FindTEEPair` and `ValidateTEEPair` of `regions/config.go`: the first pair of a region's
configuration with the two IDs.  What `Validate` accepts has no two pairs with the same IDs, so the
first pair is the only one and the order of the pairs does not matter.  The duplicates that
`Validate` reports are found through printed texts, which two pairs share only if they share the
IDs.
-/

namespace Aristo

open GoBase Call List

namespace Regions

/-! ## Duplicates -/

def duplicateTEEPair : Sentinel := ⟨"regions", "ErrDuplicateTEEPair"⟩

variable {error : GoError}

theorem seq_eq_error {first : Except GoError Unit} {next : Unit → Except GoError Unit}
    (h : (first >>= next) = .error error) :
    first = .error error ∨ next () = .error error := by
  cases first with
  | ok => exact Or.inr h
  | error => exact Or.inl h

theorem of_refuse_eq_error {c : Prop} [Decidable c] {failure : GoError}
    (h : refuse c failure = .error error) : c ∧ failure = error := by
  refine ⟨?_, eq_of_refuse_eq_error h⟩
  by_contra accepted
  rw [refuse_eq_ok.mpr accepted] at h
  cases h

/-- The checks do not fail with `ErrDuplicateTEEPair`. -/
def NoDuplicate (check : Except GoError Unit) : Prop :=
  ∀ error, check = .error error → error.is duplicateTEEPair = false

theorem noDuplicate_refuse (c : Prop) [Decidable c] {failure : GoError}
    (other : failure.is duplicateTEEPair = false) : NoDuplicate (refuse c failure) := by
  intro error h
  rw [← eq_of_refuse_eq_error h]
  exact other

theorem NoDuplicate.seq {first : Except GoError Unit} {next : Unit → Except GoError Unit}
    (hfirst : NoDuplicate first) (hnext : NoDuplicate (next ())) : NoDuplicate (first >>= next) :=
  fun error h => (seq_eq_error h).elim (hfirst error) (hnext error)

theorem noDuplicate_validateLocation (c : RegionConfig) : NoDuplicate c.validateLocation :=
  (noDuplicate_refuse _ rfl).seq ((noDuplicate_refuse _ rfl).seq
    ((noDuplicate_refuse _ rfl).seq (noDuplicate_refuse _ rfl)))

theorem noDuplicate_validateLoadBalancerConfig (c : RegionConfig) :
    NoDuplicate c.validateLoadBalancerConfig :=
  (noDuplicate_refuse _ rfl).seq ((noDuplicate_refuse _ rfl).seq
    ((noDuplicate_refuse _ rfl).seq ((noDuplicate_refuse _ rfl).seq
      ((noDuplicate_refuse _ rfl).seq ((noDuplicate_refuse _ rfl).seq
        (noDuplicate_refuse _ rfl))))))

/-- A duplicate is reported for a pair whose IDs were seen before, in the list or earlier. -/
theorem seen_of_validatePairs_eq_error {i : ℕ} {seen : GoMap Bytes Bool} {pairs : List TEEPair}
    (h : validatePairs i seen pairs = .error error) (duplicate : error.is duplicateTEEPair = true) :
    ¬ (pairs.map TEEPair.ids).Nodup ∨ ∃ pair ∈ pairs, seen.get (pairKey pair) = true := by
  induction pairs generalizing i seen with
  | nil => cases h
  | cons pair pairs ih =>
    iterate 2
      rcases seq_eq_error h with missing | h
      · rw [noDuplicate_refuse _ rfl error missing] at duplicate
        cases duplicate
    rcases seq_eq_error h with again | h
    · exact Or.inr ⟨pair, mem_cons_self, (of_refuse_eq_error again).1⟩
    rcases ih h with twice | ⟨other, mem, there⟩
    · refine Or.inl fun distinct => twice ?_
      rw [map_cons] at distinct
      exact (nodup_cons.mp distinct).2
    · by_cases same : pairKey other = pairKey pair
      · -- the second of the two pairs is further down the list
        refine Or.inl fun distinct => ?_
        rw [map_cons] at distinct
        refine (nodup_cons.mp distinct).1 ?_
        rw [← pairKey_eq_iff.mp same]
        exact mem_map_of_mem mem
      · rw [GoMap.get_insert_of_ne _ _ same] at there
        exact Or.inr ⟨other, mem_cons_of_mem _ mem, there⟩

/-- **`Validate` reports a duplicate only if two pairs have the same IDs.** -/
theorem RegionConfig.not_nodup_of_duplicate {c : RegionConfig} (h : c.validate = .error error)
    (duplicate : error.is duplicateTEEPair = true) :
    ¬ (c.teePairs.map TEEPair.ids).Nodup := by
  have impossible : ∀ {check : Except GoError Unit}, NoDuplicate check →
      check = .error error → False := by
    intro check none failed
    rw [none error failed] at duplicate
    cases duplicate
  iterate 2
    rcases seq_eq_error h with failed | h
    · exact (impossible (noDuplicate_refuse _ rfl) failed).elim
  rcases seq_eq_error h with failed | h
  · rcases seen_of_validatePairs_eq_error failed duplicate with twice | ⟨pair, -, there⟩
    · exact twice
    · simp [GoMap.get] at there
  rcases seq_eq_error h with failed | h
  · exact (impossible (noDuplicate_refuse _ rfl) failed).elim
  rcases seq_eq_error h with failed | failed
  · exact (impossible (noDuplicate_validateLoadBalancerConfig c) failed).elim
  · exact (impossible (noDuplicate_validateLocation c) failed).elim

/-! ## Lookup -/

namespace RegionManager

def findTEEPair (missing : Option GoError) (regionID sgxID sevID : Bytes) :
    Call RegionManager TEEPair := do
  match ← getConfig missing regionID with
  | none => Call.crash
  | some config =>
    match firstNamed TEEPair.ids (sgxID, sevID) config.teePairs with
    | some pair => return pair
    | none => Call.fail errInvalidTEEPair

def validateTEEPair (missing : Option GoError) (regionID sgxID sevID : Bytes) :
    Call RegionManager Unit := do
  let _ ← findTEEPair missing regionID sgxID sevID
  return ()

/-- The manager holds the configuration, in memory or in its storage. -/
def Holds (missing : Option GoError) (regionID : Bytes) (m : RegionManager)
    (config : RegionConfig) : Prop :=
  ∃ after, getConfig missing regionID m = (.ok (some config), after)

def answerOf (config : RegionConfig) (sgxID sevID : Bytes) : Outcome TEEPair :=
  match firstNamed TEEPair.ids (sgxID, sevID) config.teePairs with
  | some pair => .ok pair
  | none => .err errInvalidTEEPair

variable {config : RegionConfig}

theorem findTEEPair_of_holds {missing : Option GoError} {regionID : Bytes} {m : RegionManager}
    (holds : Holds missing regionID m config) (sgxID sevID : Bytes) :
    (findTEEPair missing regionID sgxID sevID m).1 = answerOf config sgxID sevID := by
  obtain ⟨after, read⟩ := holds
  rw [findTEEPair, bind_of_ok read, answerOf]
  dsimp only
  cases firstNamed TEEPair.ids (sgxID, sevID) config.teePairs <;> rfl

theorem validateTEEPair_eq_ok_iff (missing : Option GoError) (regionID sgxID sevID : Bytes)
    (m : RegionManager) :
    (validateTEEPair missing regionID sgxID sevID m).1 = .ok () ↔
      ∃ pair, (findTEEPair missing regionID sgxID sevID m).1 = .ok pair := by
  rw [validateTEEPair, bind_apply]
  rcases findTEEPair missing regionID sgxID sevID m with ⟨outcome, after⟩
  cases outcome with
  | ok pair => exact iff_of_true rfl ⟨pair, rfl⟩
  | err | panicked => exact iff_of_false nofun fun ⟨_, equal⟩ => nomatch equal

theorem answerOf_eq_ok_iff (distinct : (config.teePairs.map TEEPair.ids).Nodup)
    (sgxID sevID : Bytes) (pair : TEEPair) :
    answerOf config sgxID sevID = .ok pair ↔
      pair ∈ config.teePairs ∧ pair.ids = (sgxID, sevID) := by
  rw [← firstNamed_eq_some_iff distinct, answerOf]
  cases firstNamed TEEPair.ids (sgxID, sevID) config.teePairs with
  | none => exact iff_of_false nofun nofun
  | some => exact ⟨fun h => congrArg some (Outcome.ok.inj h), fun h => by cases h; rfl⟩

theorem answerOf_eq_of_perm {other : RegionConfig}
    (distinct : (config.teePairs.map TEEPair.ids).Nodup)
    (perm : other.teePairs.Perm config.teePairs) (sgxID sevID : Bytes) :
    answerOf other sgxID sevID = answerOf config sgxID sevID := by
  have distinct' : (other.teePairs.map TEEPair.ids).Nodup :=
    (perm.map TEEPair.ids).nodup_iff.mpr distinct
  have same : firstNamed TEEPair.ids (sgxID, sevID) other.teePairs =
      firstNamed TEEPair.ids (sgxID, sevID) config.teePairs := Option.ext fun pair => by
    rw [firstNamed_eq_some_iff distinct', firstNamed_eq_some_iff distinct, perm.mem_iff]
  rw [answerOf, answerOf, same]

/-- **Looking up a pair.** A duplicate is reported only if two pairs have the same IDs. In a
configuration that is accepted no two pairs do and all IDs are there; `FindTEEPair` returns the one
pair with the IDs or fails, `ValidateTEEPair` accepts the IDs that are listed, and the order of the
pairs does not matter. -/
theorem teePair_lookup_correct {missing : Option GoError} {regionID : Bytes} {m : RegionManager}
    {config : RegionConfig} (holds : Holds missing regionID m config) :
    (∀ error, config.validate = .error error → error.is duplicateTEEPair = true →
      ¬ (config.teePairs.map TEEPair.ids).Nodup) ∧
    (config.validate = .ok () →
      PairsValid config.teePairs ∧ ∀ sgxID sevID,
        (∀ pair, (findTEEPair missing regionID sgxID sevID m).1 = .ok pair ↔
          pair ∈ config.teePairs ∧ pair.ids = (sgxID, sevID)) ∧
        ((validateTEEPair missing regionID sgxID sevID m).1 = .ok () ↔
          (sgxID, sevID) ∈ config.teePairs.map TEEPair.ids) ∧
        ∀ missing' m' other, Holds missing' regionID m' other →
          other.teePairs.Perm config.teePairs →
            (findTEEPair missing' regionID sgxID sevID m').1
              = (findTEEPair missing regionID sgxID sevID m).1) := by
  refine ⟨fun error => RegionConfig.not_nodup_of_duplicate, fun valid => ?_⟩
  obtain ⟨-, -, pairs⟩ := (RegionConfig.validate_eq_ok_iff config).mp valid
  refine ⟨pairs, fun sgxID sevID => ?_⟩
  have found : ∀ pair, (findTEEPair missing regionID sgxID sevID m).1 = .ok pair ↔
      pair ∈ config.teePairs ∧ pair.ids = (sgxID, sevID) := by
    intro pair
    rw [findTEEPair_of_holds holds, answerOf_eq_ok_iff pairs.distinct]
  refine ⟨found, ?_, ?_⟩
  · rw [validateTEEPair_eq_ok_iff, mem_map]
    exact exists_congr found
  · intro missing' m' other holds' perm
    rw [findTEEPair_of_holds holds', findTEEPair_of_holds holds,
      answerOf_eq_of_perm pairs.distinct perm]

def twoPairs : RegionConfig :=
  { RegionConfig.sample [7] with
    teePairs := [⟨[1], [2], [3], [], [], []⟩, ⟨[4], [5], [6], [], [], []⟩] }

def withTwoPairs : RegionManager :=
  { new emptyStorage with
    configs := (∅ : GoMap Bytes (Option RegionConfig)).insert [7] (some twoPairs) }

/-- The second of two pairs is found. -/
theorem teePair_lookup_withTwoPairs :
    Holds none [7] withTwoPairs twoPairs ∧ twoPairs.validate = .ok () ∧
      (findTEEPair none [7] [5] [6] withTwoPairs).1 = .ok ⟨[4], [5], [6], [], [], []⟩ := by
  have holds : Holds none [7] withTwoPairs twoPairs := ⟨withTwoPairs, rfl⟩
  have valid : twoPairs.validate = .ok () := by decide +kernel
  obtain ⟨-, looks⟩ := (teePair_lookup_correct holds).2 valid
  exact ⟨holds, valid, ((looks [5] [6]).1 _).mpr ⟨by simp [twoPairs], rfl⟩⟩

end RegionManager

end Regions

end Aristo
