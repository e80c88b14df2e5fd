import Aristo.Storage.State

/-!
# Regional keys

Three builders of keys that start with `r/<region>/`, and four functions that read the region out of
a key with `bytes.Split` or `bytes.SplitN`.  All keys have the shape that `Reports` is proved for,
so the readers agree on the region.  `ParseRegionalKey` also returns the key, but only the part
before the next separator: it inverts `MakeRegionalKey` on keys without a separator only.
-/

namespace Aristo

open GoBase List

namespace Core

def errInvalidRegionalKey : GoError :=
  GoError.new ⟨"core", "ErrInvalidRegionalKey"⟩ "invalid regional key format"

def makeRegionalKey (regionID key : Bytes) : Bytes :=
  [slash].intercalate [ascii "r", regionID, key]

/-- `ParseRegionalKey`: the region and the key. -/
def parseRegionalKey (key : Bytes) : Except GoError (Bytes × Bytes) :=
  match key.splitOn slash with
  | first :: regionID :: rest :: _ =>
    if first = ascii "r" then .ok (regionID, rest) else .error errInvalidRegionalKey
  | _ => .error errInvalidRegionalKey

end Core

namespace Storage

def extractRegionFromKey (key : Bytes) : Bytes :=
  match key.splitOn slash with
  | first :: regionID :: _ => if first = ascii "r" then regionID else []
  | _ => []

def extractRegionID (key : Bytes) : Bytes :=
  match key.splitOn slash with
  | _ :: regionID :: _ :: _ => regionID
  | _ => []

end Storage

/-! ## The shape of a regional key -/

variable {regionID : Bytes}

theorem splitOn_regional (noSlash : slash ∉ regionID) (rest : Bytes) :
    (ascii "r/" ++ regionID ++ slash :: rest).splitOn slash
      = ascii "r" :: regionID :: rest.splitOn slash := by
  have shape : ascii "r/" ++ regionID ++ slash :: rest
      = ascii "r" ++ slash :: (regionID ++ slash :: rest) := by
    rw [append_assoc]
    rfl
  rw [shape, splitOn_append_cons_self_of_not_mem (by decide),
    splitOn_append_cons_self_of_not_mem noSlash]

theorem exists_splitOn_eq (text : Bytes) :
    ∃ others, text.splitOn slash = text.takeWhile (· ≠ slash) :: others := by
  have head : (text.splitOn slash).head? = some (text.takeWhile (· ≠ slash)) := head_splitOn text
  cases parts : text.splitOn slash with
  | nil => exact absurd parts (splitOn_ne_nil slash text)
  | cons first others =>
    rw [parts] at head
    cases head
    exact ⟨others, rfl⟩

/-- `IsRegionalKey` as the source computes it: the second of at most three parts. -/
theorem isRegionalKey_eq_splitN (key : Bytes) :
    StateManager.isRegionalKey key
      = if hasPrefix key (ascii "r/") then (splitN slash 3 key)[1]? else none := by
  unfold StateManager.isRegionalKey
  split
  · rename_i regional
    obtain ⟨rest, rfl⟩ := hasPrefix_iff.mp regional
    have first : slash ∉ ascii "r" := by decide
    have parts : splitN slash 3 (ascii "r/" ++ rest) = ascii "r" :: splitN slash 2 rest :=
      splitN_append_sep first 1 rest
    have second : (splitN slash 2 rest)[0]? = some (rest.takeWhile (· ≠ slash)) := by
      rw [← List.head?_eq_getElem?]
      exact head_splitN 0 rest
    rw [parts, List.getElem?_cons_succ, second]
    rfl
  · rfl

/-- All four readers find the region in a key. -/
structure Reports (regionID key : Bytes) : Prop where
  isRegionalKey : StateManager.isRegionalKey key = some regionID
  extractRegionFromKey : Storage.extractRegionFromKey key = regionID
  extractRegionID : Storage.extractRegionID key = regionID
  parseRegionalKey : ∃ rest, Core.parseRegionalKey key = .ok (regionID, rest)

section

variable (noSlash : slash ∉ regionID) (rest : Bytes)

include noSlash

theorem parseRegionalKey_regional :
    Core.parseRegionalKey (ascii "r/" ++ regionID ++ slash :: rest)
      = .ok (regionID, rest.takeWhile (· ≠ slash)) := by
  obtain ⟨others, parts⟩ := exists_splitOn_eq rest
  rw [Core.parseRegionalKey, splitOn_regional noSlash, parts]
  rfl

theorem parseRegionalKey_regional_iff :
    Core.parseRegionalKey (ascii "r/" ++ regionID ++ slash :: rest) = .ok (regionID, rest)
      ↔ slash ∉ rest := by
  rw [parseRegionalKey_regional noSlash]
  constructor
  · intro same mem
    have first : rest.takeWhile (· ≠ slash) = rest := congrArg Prod.snd (Except.ok.inj same)
    have unequal : decide (slash ≠ slash) = true := takeWhile_eq_self_iff.mp first slash mem
    exact of_decide_eq_true unequal rfl
  · intro absent
    rw [takeWhile_ne_of_notMem absent]

theorem reports_regional :
    Reports regionID (ascii "r/" ++ regionID ++ slash :: rest) where
  isRegionalKey := by
    have regional : hasPrefix (ascii "r/" ++ regionID ++ slash :: rest) (ascii "r/") = true :=
      hasPrefix_iff.mpr ⟨regionID ++ slash :: rest, by rw [append_assoc]⟩
    have dropped : (ascii "r/" ++ regionID ++ slash :: rest).drop 2 = regionID ++ slash :: rest :=
      rfl
    rw [StateManager.isRegionalKey, if_pos regional, dropped, takeWhile_ne_append_sep noSlash]
  extractRegionFromKey := by
    rw [Storage.extractRegionFromKey, splitOn_regional noSlash]
    rfl
  extractRegionID := by
    obtain ⟨others, parts⟩ := exists_splitOn_eq rest
    rw [Storage.extractRegionID, splitOn_regional noSlash, parts]
  parseRegionalKey := ⟨_, parseRegionalKey_regional noSlash rest⟩

end

/-! ## The builders -/

theorem makeRegionalKey_eq_core (regionID key : Bytes) :
    Storage.makeRegionalKey regionID key = Core.makeRegionalKey regionID key := by
  simp [Storage.makeRegionalKey, Core.makeRegionalKey, List.intercalate, ascii, slash]

/-- **The region extractors agree**: on every key that one of the three builders makes for a
non-empty region without a separator, each of the four readers reports this region, and the two
builders of plain keys build the same. -/
theorem readers_agree_on_built_keys {regionID : Bytes} (nonempty : regionID ≠ [])
    (noSlash : slash ∉ regionID) (key : Bytes) (kind : UInt8) (id : Bytes) :
    Reports regionID (Storage.makeKey regionID kind id) ∧
      Reports regionID (Storage.makeRegionalKey regionID key) ∧
      Reports regionID (Core.makeRegionalKey regionID key) ∧
      Storage.makeRegionalKey regionID key = Core.makeRegionalKey regionID key := by
  have printed : Reports regionID (Storage.makeRegionalKey regionID key) :=
    reports_regional noSlash key
  refine ⟨?_, printed, ?_, makeRegionalKey_eq_core regionID key⟩
  · rw [Storage.makeKey, if_neg nonempty]
    exact reports_regional noSlash _
  · rw [← makeRegionalKey_eq_core]
    exact printed

theorem readers_agree_on_built_keys_east :
    Reports (ascii "east") (Storage.makeKey (ascii "east") 4 (ascii "a/b")) ∧
      Reports (ascii "east") (Storage.makeRegionalKey (ascii "east") []) ∧
      Reports (ascii "east") (Core.makeRegionalKey (ascii "east") []) ∧
      Storage.makeRegionalKey (ascii "east") [] = Core.makeRegionalKey (ascii "east") [] :=
  readers_agree_on_built_keys (by decide) (by decide) [] 4 (ascii "a/b")

/-! ## The round trip -/

/-- **When `ParseRegionalKey` inverts `MakeRegionalKey`**: exactly for the keys without a
separator. -/
theorem parseRegionalKey_makeRegionalKey_iff {regionID : Bytes} (noSlash : slash ∉ regionID)
    (key : Bytes) :
    Core.parseRegionalKey (Core.makeRegionalKey regionID key) = .ok (regionID, key)
      ↔ slash ∉ key := by
  rw [← makeRegionalKey_eq_core]
  exact parseRegionalKey_regional_iff noSlash key

theorem parseRegionalKey_makeRegionalKey_plain :
    Core.parseRegionalKey (Core.makeRegionalKey (ascii "east") (ascii "abc"))
        = .ok (ascii "east", ascii "abc")
      ↔ slash ∉ ascii "abc" :=
  parseRegionalKey_makeRegionalKey_iff (by decide) (ascii "abc")

/-- The key of an object of region `east` comes back as `east`. -/
theorem parseRegionalKey_loses_object :
    slash ∉ ascii "east" ∧
      Core.parseRegionalKey (Core.makeRegionalKey (ascii "east")
          (Storage.makeRegionKey (ascii "east") (ascii "object") (ascii "1")))
        = .ok (ascii "east", ascii "east") ∧
      ¬ Core.parseRegionalKey (Core.makeRegionalKey (ascii "east")
          (Storage.makeRegionKey (ascii "east") (ascii "object") (ascii "1")))
        = .ok (ascii "east",
            Storage.makeRegionKey (ascii "east") (ascii "object") (ascii "1")) := by
  decide +kernel

end Aristo
