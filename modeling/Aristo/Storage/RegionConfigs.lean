import Aristo.Coordination.Storage
import Aristo.Storage.Objects

/-!
# The configurations of the regions

`RegionStore` of `storage/region_store.go`: the configuration of a region is kept in JSON under
`config/<region>`, in a view of a merkle database, and in a cache in front of the view.  A write
makes a new view from the database and not from the view that is there; the cache still has what the
view has lost.  `configCache_transparent_iff` says when this does not show.
-/

namespace Aristo

open GoBase Finmap Call List

namespace Storage

def isValidRegionID (id : Bytes) : Bool :=
  if id.length = 0 ∨ id.length > 64 then false
  else !id.any fun byte => (ascii "/\\?#[]\x7b\x7d").contains byte

/-- `createRegionKey`; `start` is its prefix. -/
def createRegionKey (start regionID suffix : Bytes) : Bytes :=
  if suffix = [] then start ++ slash :: regionID
  else start ++ slash :: (regionID ++ slash :: suffix)

def configKey (regionID : Bytes) : Bytes :=
  createRegionKey (ascii "config") regionID []

/-- `RegionStore`.  The cache has pointers, which can be nil. -/
structure RegionStore (Config : Type) where
  db : MerkleDB
  view : MerkleDB
  cache : GoMap Bytes (Option Config)

namespace RegionStore

variable {Config : Type} (codec : Coordination.Codec Config)

def new (db : MerkleDB) : RegionStore Config where
  db := db
  view := applyWrites db []
  cache := ∅

def updateState (fault : Option GoError) (changes : List (Write Bytes Bytes)) :
    Call (RegionStore Config) Unit :=
  match fault with
  | some error => Call.fail error
  | none => Call.modify fun r => { r with view := applyWrites r.db changes }

def marshal : Option Config → Except GoError Bytes
  | some config => codec.marshal config
  | none => .ok (ascii "null")

def configIn (view : MerkleDB) (regionID : Bytes) : Except GoError Config := do
  let value ← (match view (configKey regionID) with
    | some value => .ok value
    | none => .error errNotFound : Except GoError Bytes).mapError
      (GoError.wrap (ascii "failed to get region config"))
  (codec.unmarshal value).mapError (GoError.wrap (ascii "failed to unmarshal config"))

def getRegionConfig (regionID : Bytes) : Call (RegionStore Config) (Option Config) := do
  Call.lift (refuse (¬ isValidRegionID regionID) errInvalidRegionID)
  let r ← Call.read
  match r.cache.lookup regionID with
  | some config => return config
  | none => do
    let config ← Call.lift (configIn codec r.view regionID)
    Call.modify fun r => { r with cache := r.cache.insert regionID (some config) }
    return some config

def setRegionConfig (fault : Option GoError) (regionID : Bytes) (config : Option Config) :
    Call (RegionStore Config) Unit := do
  Call.lift (refuse (¬ isValidRegionID regionID) errInvalidRegionID)
  let value ← Call.wrapping (ascii "failed to marshal config") (Call.lift (marshal codec config))
  Call.wrapping (ascii "failed to store region config")
    (updateState fault [(configKey regionID, some value)])
  Call.modify fun r => { r with cache := r.cache.insert regionID config }

def deleteRegionConfig (fault : Option GoError) (regionID : Bytes) :
    Call (RegionStore Config) Unit := do
  Call.lift (refuse (¬ isValidRegionID regionID) errInvalidRegionID)
  Call.wrapping (ascii "failed to delete region config")
    (updateState fault [(configKey regionID, none)])
  Call.modify fun r => { r with cache := r.cache.erase regionID }

/-! ## Calls -/

/-- What `GetRegionConfig` returns for a configuration that it has found, or not. -/
def returned : Except GoError Config → Outcome (Option Config)
  | .ok config => .ok (some config)
  | .error error => .err error

/-- The result without a configuration. -/
def missing : Outcome (Option Config) :=
  .err (errNotFound.wrap (ascii "failed to get region config"))

/-- The cache comes first, the view behind it. -/
theorem getRegionConfig_apply {regionID : Bytes} (valid : isValidRegionID regionID = true)
    (r : RegionStore Config) :
    (getRegionConfig codec regionID r).1 =
      match r.cache.lookup regionID with
      | some config => .ok config
      | none => returned (configIn codec r.view regionID) := by
  rw [getRegionConfig, refuse_bind_of_not (not_not.mpr valid), bind_of_ok (read_apply r)]
  cases r.cache.lookup regionID with
  | some => rfl
  | none =>
    cases configIn codec r.view regionID with
    | ok | error => rfl

inductive ConfigCall (Config : Type) where
  | get (regionID : Bytes)
  | set (regionID : Bytes) (config : Option Config)
  | delete (regionID : Bytes)

def call : ConfigCall Config × Option GoError → Call (RegionStore Config) Unit
  | (.get regionID, _) => do
    let _ ← getRegionConfig codec regionID
  | (.set regionID config, fault) => setRegionConfig codec fault regionID config
  | (.delete regionID, fault) => deleteRegionConfig fault regionID

/-- What a call writes: a configuration for a region, or none. -/
def write : ConfigCall Config × Option GoError → Option (Write Bytes (Option Config))
  | (.get _, _) => none
  | (.set regionID config, fault) =>
    if isValidRegionID regionID ∧ (marshal codec config).isOk ∧ fault = none then
      some (regionID, some config)
    else none
  | (.delete regionID, fault) =>
    if isValidRegionID regionID ∧ fault = none then some (regionID, none) else none

inductive Does (r : RegionStore Config) :
    Option (Write Bytes (Option Config)) → RegionStore Config → Prop where
  | nothing : Does r none r
  | load (regionID : Bytes) (config : Config) (valid : isValidRegionID regionID = true)
      (found : configIn codec r.view regionID = .ok config) :
      Does r none { r with cache := r.cache.insert regionID (some config) }
  | set (regionID : Bytes) (config : Option Config) (value : Bytes)
      (valid : isValidRegionID regionID = true) (encoded : marshal codec config = .ok value) :
      Does r (some (regionID, some config)) { r with
        view := applyWrites r.db [(configKey regionID, some value)]
        cache := r.cache.insert regionID config }
  | delete (regionID : Bytes) (valid : isValidRegionID regionID = true) :
      Does r (some (regionID, none)) { r with
        view := applyWrites r.db [(configKey regionID, none)]
        cache := r.cache.erase regionID }

/-- Every call does one of the four things, and writes what is said. -/
theorem call_does (input : ConfigCall Config × Option GoError) (r : RegionStore Config) :
    Does codec r (write codec input) (call codec input r).2 := by
  obtain ⟨operation, fault⟩ := input
  cases operation with
  | get regionID =>
    by_cases valid : isValidRegionID regionID = true
    · rw [call, bind_apply, getRegionConfig, refuse_bind_of_not (not_not.mpr valid),
        bind_of_ok (read_apply r), write]
      cases r.cache.lookup regionID with
      | some => exact .nothing
      | none =>
        cases found : configIn codec r.view regionID with
        | ok config => exact .load regionID config valid found
        | error => exact .nothing
    · rw [call, getRegionConfig, bind_of_err (refuse_bind_of valid)]
      exact .nothing
  | set regionID config =>
    by_cases valid : isValidRegionID regionID = true
    · rw [call, setRegionConfig, refuse_bind_of_not (not_not.mpr valid), write]
      cases encoded : marshal codec config with
      | error =>
        rw [if_neg fun writes => Bool.false_ne_true writes.2.1]
        exact .nothing
      | ok value =>
        cases fault with
        | some error =>
          rw [if_neg fun writes => Option.some_ne_none error writes.2.2]
          exact .nothing
        | none =>
          rw [if_pos ⟨valid, rfl, rfl⟩]
          exact .set regionID config value valid encoded
    · rw [call, setRegionConfig, refuse_bind_of valid, write, if_neg fun writes => valid writes.1]
      exact .nothing
  | delete regionID =>
    by_cases valid : isValidRegionID regionID = true
    · rw [call, deleteRegionConfig, refuse_bind_of_not (not_not.mpr valid), write]
      cases fault with
      | some error =>
        rw [if_neg fun writes => Option.some_ne_none error writes.2]
        exact .nothing
      | none =>
        rw [if_pos ⟨valid, rfl⟩]
        exact .delete regionID valid
    · rw [call, deleteRegionConfig, refuse_bind_of valid, write,
        if_neg fun writes => valid writes.1]
      exact .nothing

/-! ## Runs -/

def reached (db : MerkleDB) (inputs : List (ConfigCall Config × Option GoError)) :
    RegionStore Config :=
  Call.after (call codec) (new db) inputs

def history (inputs : List (ConfigCall Config × Option GoError)) :
    List (Write Bytes (Option Config)) :=
  inputs.filterMap (write codec)

/-- The configuration that was set last and not deleted since; that of the database for a region
that was not written. -/
def latest (db : MerkleDB) (log : List (Write Bytes (Option Config))) (regionID : Bytes) :
    Outcome (Option Config) :=
  match lastWrite log regionID with
  | some (some config) => .ok config
  | some none => missing
  | none => returned (configIn codec db regionID)

/-- `GetRegionConfig` always returns what it would return with an empty cache: the configuration
that was set last and not deleted since. -/
def Transparent (db : MerkleDB) (inputs : List (ConfigCall Config × Option GoError)) : Prop :=
  ∀ earlier, earlier <+: inputs → ∀ regionID, isValidRegionID regionID = true →
    let r := reached codec db earlier
    (getRegionConfig codec regionID r).1 =
        (getRegionConfig codec regionID { r with cache := ∅ }).1 ∧
      (getRegionConfig codec regionID r).1 = latest codec db (history codec earlier) regionID

/-- No configuration that is written is nil, and every write finds the other regions as the
database has them. -/
def Lossless (db : MerkleDB) (log : List (Write Bytes (Option Config))) : Prop :=
  ∀ earlier write, earlier ++ [write] <+: log →
    write.2 ≠ some none ∧ ∀ regionID, isValidRegionID regionID = true → regionID ≠ write.1 →
      latest codec db earlier regionID = returned (configIn codec db regionID)

/-- A write for one region leaves the others as the database has them. -/
theorem configIn_applyWrites_of_ne (db : MerkleDB) {regionID other : Bytes}
    (distinct : other ≠ regionID) (value : Option Bytes) :
    configIn codec (applyWrites db [(configKey regionID, value)]) other =
      configIn codec db other := by
  have apart : configKey other ≠ configKey regionID := fun same =>
    distinct (List.cons.inj (append_cancel_left same)).2
  simp only [configIn, applyWrites_cons, applyWrites_nil, Function.update_of_ne apart]

theorem reached_snoc (db : MerkleDB) (inputs : List (ConfigCall Config × Option GoError))
    (input : ConfigCall Config × Option GoError) :
    Does codec (reached codec db inputs) (write codec input)
      (reached codec db (inputs ++ [input])) := by
  have last : reached codec db (inputs ++ [input]) =
      (call codec input (reached codec db inputs)).2 := after_append _ _ _ _
  rw [last]
  exact call_does codec input (reached codec db inputs)

theorem history_snoc (inputs : List (ConfigCall Config × Option GoError))
    (input : ConfigCall Config × Option GoError) :
    history codec (inputs ++ [input]) = history codec inputs ++ (write codec input).toList := by
  rw [history, filterMap_append]
  cases written : write codec input <;> simp [history, written]

/-- What a view has for a configuration. -/
inductive Stores : Option (Option Config) → Option Bytes → Prop where
  | deleted : Stores none none
  | encoded (config : Option Config) (value : Bytes) (encoded : marshal codec config = .ok value) :
      Stores (some config) (some value)

/-- **The view has the last write only.** -/
theorem view_reached (db : MerkleDB) (inputs : List (ConfigCall Config × Option GoError)) :
    (reached codec db inputs).db = db ∧
      (history codec inputs = [] ∧ (reached codec db inputs).view = db ∨
        ∃ earlier regionID written value, history codec inputs = earlier ++ [(regionID, written)] ∧
          isValidRegionID regionID = true ∧ Stores codec written value ∧
          (reached codec db inputs).view = applyWrites db [(configKey regionID, value)]) := by
  induction inputs using List.reverseRecOn with
  | nil => exact ⟨rfl, Or.inl ⟨rfl, rfl⟩⟩
  | append_singleton inputs input ih =>
    have does := reached_snoc codec db inputs input
    rw [history_snoc]
    generalize write codec input = written at does ⊢
    generalize reached codec db (inputs ++ [input]) = next at does ⊢
    cases does with
    | nothing | load => rwa [Option.toList_none, append_nil]
    | set regionID config value valid encoded =>
      refine ⟨ih.1, Or.inr ⟨_, regionID, some config, some value, rfl, valid, ?_, ?_⟩⟩
      · exact .encoded config value encoded
      · rw [ih.1]
    | delete regionID valid =>
      refine ⟨ih.1, Or.inr ⟨_, regionID, none, none, rfl, valid, .deleted, ?_⟩⟩
      rw [ih.1]

/-- A write for another region does not count, -/
theorem latest_append (db : MerkleDB) (log : List (Write Bytes (Option Config)))
    (write : Write Bytes (Option Config)) {regionID : Bytes} (distinct : regionID ≠ write.1) :
    latest codec db (log ++ [write]) regionID = latest codec db log regionID := by
  unfold latest
  rw [lastWrite_append_singleton, if_neg fun same => distinct same.symm]

/-- and the last one for this does. -/
theorem latest_append_self (db : MerkleDB) (log : List (Write Bytes (Option Config)))
    (regionID : Bytes) (written : Option (Option Config)) :
    latest codec db (log ++ [(regionID, written)]) regionID =
      match written with
      | some config => .ok config
      | none => missing := by
  unfold latest
  rw [lastWrite_append_singleton, if_pos rfl]
  cases written with
  | none | some => rfl

/-- When the view shows the latest configurations: the last write must have lost nothing. -/
theorem shows_iff (roundTrips : ∀ config, codec.RoundTrips config) (db : MerkleDB)
    (log : List (Write Bytes (Option Config))) {regionID : Bytes}
    (valid : isValidRegionID regionID = true) {written : Option (Option Config)}
    {value : Option Bytes} (stores : Stores codec written value) :
    (∀ other, isValidRegionID other = true →
        returned (configIn codec (applyWrites db [(configKey regionID, value)]) other) =
          latest codec db (log ++ [(regionID, written)]) other) ↔
      written ≠ some none ∧ ∀ other, isValidRegionID other = true → other ≠ regionID →
        latest codec db log other = returned (configIn codec db other) := by
  constructor
  · intro shows
    refine ⟨?_, fun other valid distinct => ?_⟩
    · rintro rfl
      have shown := shows regionID valid
      rw [latest_append_self] at shown
      generalize configIn codec _ regionID = result at shown
      cases result <;> cases shown
    · have shown := shows other valid
      rw [configIn_applyWrites_of_ne codec db distinct, latest_append codec db log _ distinct]
        at shown
      exact shown.symm
  · rintro ⟨notNil, kept⟩ other valid
    by_cases same : other = regionID
    · subst same
      rw [latest_append_self]
      simp only [configIn, applyWrites_cons, applyWrites_nil, Function.update_self]
      cases stores with
      | deleted => rfl
      | encoded config value encoded =>
        cases config with
        | none => exact absurd rfl notNil
        | some config =>
          change returned ((codec.unmarshal value).mapError _) = _
          rw [roundTrips config value encoded]
          rfl
    · rw [configIn_applyWrites_of_ne codec db same, latest_append codec db log _ same]
      exact (kept other valid same).symm

/-- Where the view always did, the cache has the latest configuration. -/
theorem cache_reached (db : MerkleDB) {inputs : List (ConfigCall Config × Option GoError)}
    (shows : ∀ earlier, earlier <+: inputs → ∀ regionID, isValidRegionID regionID = true →
      returned (configIn codec (reached codec db earlier).view regionID) =
        latest codec db (history codec earlier) regionID)
    {regionID : Bytes} {config : Option Config}
    (cached : (reached codec db inputs).cache.lookup regionID = some config) :
    latest codec db (history codec inputs) regionID = .ok config := by
  induction inputs using List.reverseRecOn generalizing regionID config with
  | nil => cases cached
  | append_singleton inputs input ih =>
    have before {regionID : Bytes} {config : Option Config} :=
      @ih (fun earlier isPrefix => shows earlier (isPrefix.trans (prefix_append _ _)))
        regionID config
    have does := reached_snoc codec db inputs input
    rw [history_snoc]
    generalize write codec input = written at does ⊢
    generalize reached codec db (inputs ++ [input]) = next at does cached
    cases does with
    | nothing =>
      rw [Option.toList_none, append_nil]
      exact before cached
    | load loaded found valid read =>
      rw [Option.toList_none, append_nil]
      rcases GoMap.lookup_insert_cases cached with ⟨rfl, rfl⟩ | ⟨-, cached⟩
      · rw [← shows inputs (prefix_append _ _) regionID valid, read]
        rfl
      · exact before cached
    | set written =>
      rcases GoMap.lookup_insert_cases cached with ⟨rfl, rfl⟩ | ⟨same, cached⟩
      · exact latest_append_self codec db _ regionID _
      · exact (latest_append codec db _ _ same).trans (before cached)
    | delete written =>
      by_cases same : regionID = written
      · subst same
        rw [lookup_erase] at cached
        cases cached
      · rw [lookup_erase_ne same] at cached
        exact (latest_append codec db _ _ same).trans (before cached)

/-- **When the cache is transparent**: in every state of a run `GetRegionConfig` returns what it
would with an empty cache, the configuration that was set last and not deleted since, exactly when
no configuration that is set is nil and every write finds the other regions as the database has
them. -/
theorem configCache_transparent_iff (roundTrips : ∀ config, codec.RoundTrips config)
    (db : MerkleDB) (inputs : List (ConfigCall Config × Option GoError)) :
    Transparent codec db inputs ↔ Lossless codec db (history codec inputs) := by
  constructor
  · intro transparent earlier write isPrefix
    obtain ⟨before, ran, log⟩ := prefix_filterMap_iff.mp isPrefix
    obtain ⟨-, ⟨empty, -⟩ | ⟨earlier', regionID, written, value, last, valid, stores, view⟩⟩ :=
      view_reached codec db before
    · rw [history, ← log] at empty
      exact absurd empty (append_ne_nil_of_right_ne_nil _ (cons_ne_nil _ _))
    · obtain ⟨rfl, rfl⟩ := append_singleton_inj.mp (log.trans last)
      refine (shows_iff codec roundTrips db earlier valid stores).mp fun other valid => ?_
      obtain ⟨same, is⟩ := transparent before ran other valid
      rw [same, getRegionConfig_apply codec valid, last] at is
      rw [← view]
      exact is
  · intro lossless
    have shows : ∀ earlier, earlier <+: inputs → ∀ regionID, isValidRegionID regionID = true →
        returned (configIn codec (reached codec db earlier).view regionID) =
          latest codec db (history codec earlier) regionID := by
      intro earlier ran regionID validID
      obtain ⟨-, ⟨empty, view⟩ | ⟨log, written, value, stored, last, valid, stores, view⟩⟩ :=
        view_reached codec db earlier
      · rw [empty, view]
        rfl
      · rw [view, last]
        have kept := lossless log (written, value) (last ▸ ran.filterMap (write codec))
        exact (shows_iff codec roundTrips db log valid stores).mpr kept regionID validID
    intro earlier ran regionID valid
    have seen : (getRegionConfig codec regionID (reached codec db earlier)).1 =
        latest codec db (history codec earlier) regionID := by
      rw [getRegionConfig_apply codec valid]
      cases cached : (reached codec db earlier).cache.lookup regionID with
      | none => exact shows earlier ran regionID valid
      | some =>
        have before := fun first (starts : first <+: earlier) => shows first (starts.trans ran)
        exact (cache_reached codec db before cached).symm
    refine ⟨seen.trans ?_, seen⟩
    rw [getRegionConfig_apply codec valid]
    exact (shows earlier ran regionID valid).symm

/-! ### Configurations that are their own text -/

/-- A configuration is a text, and encoded as itself. -/
def plainCodec : Coordination.Codec Bytes where
  marshal := .ok
  unmarshal := .ok

theorem plainCodec_roundTrips (config : Bytes) : plainCodec.RoundTrips config := by
  intro data encoded
  exact congrArg Except.ok (Except.ok.inj encoded).symm

def setTwo : List (ConfigCall Bytes × Option GoError) :=
  [(.set (ascii "a") (some [1]), none), (.set (ascii "b") (some [2]), none)]

/-- The configuration of one region is set twice. -/
def setAgain : List (ConfigCall Bytes × Option GoError) :=
  [(.set (ascii "a") (some [1]), none), (.set (ascii "a") (some [2]), none)]

/-- With one region the cache is transparent. -/
theorem transparent_setAgain : Transparent plainCodec (fun _ => none) setAgain := by
  refine (configCache_transparent_iff plainCodec plainCodec_roundTrips _ _).mpr ?_
  rintro earlier write ⟨later, equal⟩
  have log : earlier ++ ([write] ++ later) =
      [(ascii "a", some (some [1])), (ascii "a", some (some [2]))] := by
    rw [← append_assoc, equal]
    rfl
  rcases earlier with _ | ⟨first, _ | ⟨second, rest⟩⟩
  · obtain ⟨rfl, -⟩ := List.cons.inj log
    exact ⟨by decide, fun regionID _ _ => rfl⟩
  · obtain ⟨rfl, rest⟩ := List.cons.inj log
    obtain ⟨rfl, -⟩ := List.cons.inj rest
    exact ⟨by decide, fun regionID _ other => latest_append plainCodec _ [] _ other⟩
  · have lengths := congrArg length log
    simp at lengths

/-- With two regions the view has lost the first, and the cache has not. -/
theorem not_transparent_setTwo :
    let r := reached plainCodec (fun _ => none) setTwo
    (getRegionConfig plainCodec (ascii "a") r).1 = .ok (some [1]) ∧
      (getRegionConfig plainCodec (ascii "a") { r with cache := ∅ }).1 = missing ∧
      ¬ Transparent plainCodec (fun _ => none) setTwo := by
  have cached : (getRegionConfig plainCodec (ascii "a")
      (reached plainCodec (fun _ => none) setTwo)).1 = .ok (some [1]) := rfl
  refine ⟨cached, rfl, fun transparent => ?_⟩
  have same := (transparent setTwo prefix_rfl (ascii "a") rfl).1
  cases cached.symm.trans same

end RegionStore

end Storage

end Aristo
