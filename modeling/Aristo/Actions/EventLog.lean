import Aristo.Actions.ShuttleEvents
import Aristo.Storage.Records

/-!
# The log of events

Every accepted `SendEventAction` stores its event under `event/<object>:<time>`, with a time of
whole seconds that the sender chooses; nothing checks that the key is free.  Two calls clash when
they name the same object and times of the same text, or spell the same key with one region ID below
the other (`key_eq_iff`).  An object that is written back never replaces an event.
-/

namespace Aristo

open GoBase Storage Actions StateManager List Records

/-! ## Keys -/

namespace Storage

/-- A key of `region` for events is spelled like one of `region'`, which is `region/rest`. -/
def Below (region id region' id' : Bytes) : Prop :=
  ∃ rest, region' = region ++ [slash] ++ rest ∧
    makeRegionKey region (ascii "event") id =
      rest ++ slash :: makeRegionKey region' (ascii "event") id'

variable {id id' region region' : Bytes}

theorem eventKey_eq_of_below (h : Below region id region' id') :
    eventKey region id = eventKey region' id' := by
  obtain ⟨rest, rfl, spelled⟩ := h
  rw [eventKey, eventKey, makeRegionalKey_nested, spelled]

theorem below_of_eventKey_eq (h : eventKey region id = eventKey region' id')
    (below : region ++ [slash] <+: region') :
    Below region id region' id' := by
  obtain ⟨rest, rfl⟩ := below
  rw [eventKey, eventKey, makeRegionalKey_nested] at h
  exact ⟨rest, rfl, makeRegionalKey_inj h⟩

/-- **When two events have one key**: the same region and ID, or keys that are spelled alike with
one region below the other. -/
theorem eventKey_eq_iff :
    eventKey region id = eventKey region' id' ↔
      (region = region' ∧ id = id') ∨ Below region id region' id' ∨
        Below region' id' region id := by
  constructor
  · intro equal
    rcases makeRegionalKey_cases equal with rfl | below | below
    · left
      exact ⟨rfl, eventKey_inj equal⟩
    · exact Or.inr (Or.inl (below_of_eventKey_eq equal below))
    · exact Or.inr (Or.inr (below_of_eventKey_eq equal.symm below))
  · rintro (⟨rfl, rfl⟩ | below | below)
    · rfl
    · exact eventKey_eq_of_below below
    · exact (eventKey_eq_of_below below).symm

end Storage

/-! ## Runs of events -/

structure Send where
  action : SendEventAction
  env : SendEnv
  timestamp : Int64

namespace Send

def apply (sm : StateManager) (send : Send) : StateManager :=
  (send.action.execute codec send.env send.timestamp sm).2

def Succeeds (sm : StateManager) (send : Send) : Prop :=
  (send.action.execute codec send.env send.timestamp sm).1.Succeeded

instance decidableSucceeds (sm : StateManager) (send : Send) : Decidable (send.Succeeds sm) :=
  Outcome.decidableSucceeded _

def key (send : Send) : Bytes :=
  eventKey send.action.regionID send.action.eventID

def stamp (send : Send) : Bytes :=
  send.action.attestations.1.timestamp.formatRFC3339

/-- Two calls name the same second of the same object, or spell the same key with one region
ID below the other. -/
def Clash (a b : Send) : Prop :=
  a.stamp = b.stamp ∧
    ((a.action.regionID = b.action.regionID ∧ a.action.idTo = b.action.idTo) ∨
      Below a.action.regionID a.action.idTo b.action.regionID b.action.idTo ∨
      Below b.action.regionID b.action.idTo a.action.regionID a.action.idTo)

theorem key_eq (send : Send) :
    send.key = eventKey send.action.regionID send.action.idTo ++ ascii ":" ++ send.stamp := by
  simp [key, stamp, SendEventAction.eventID, eventKey, makeRegionalKey, makeRegionKey]

theorem key_eq_iff {a b : Send} : a.key = b.key ↔ Clash a b := by
  rw [key_eq, key_eq, Clash, ← eventKey_eq_iff]
  constructor
  · intro equal
    obtain ⟨front, stamps⟩ := Time.append_formatRFC3339_inj equal
    exact ⟨stamps, front⟩
  · rintro ⟨stamps, front⟩
    rw [stamps, front]

end Send

def AllSucceed (sm : StateManager) : List Send → Prop
  | [] => True
  | send :: sends => send.Succeeds sm ∧ AllSucceed (send.apply sm) sends

/-- The events are stored under different keys, and the store of its region still returns
each of them. -/
structure NoneLost (sends : List Send) (sm : StateManager) : Prop where
  distinct : sends.Pairwise fun a b => a.key ≠ b.key
  kept : ∀ send ∈ sends, ∃ value, codec.marshalEvent send.action.event = .ok value ∧
    (MerkleStore.get (makeRegionKey send.action.regionID (ascii "event") send.action.eventID)
      { store := sm.storeOf send.action.regionID, db := sm.merkleDB }).1 = .ok value

/-- The database holds the event of a call. -/
def Logged (sm : StateManager) (send : Send) : Prop :=
  ∃ value, codec.marshalEvent send.action.event = .ok value ∧
    sm.merkleDB send.key = some value

variable {sm : StateManager}

theorem Send.Succeeds.effect {send : Send} (wellKeyed : WellKeyed sm)
    (succeeds : send.Succeeds sm) :
    ∃ record value stored, WellKeyed (send.apply sm) ∧
      codec.marshalEvent send.action.event = .ok value ∧
      sm.merkleDB (objectKey send.action.regionID send.action.idTo) = some stored ∧
      codec.unmarshalObject stored = .ok record ∧
      (send.apply sm).merkleDB =
        (sm.merkleDB.insert send.key value).insert
          (objectKey send.action.regionID send.action.idTo)
          (codec.marshalObject record) := by
  obtain ⟨record, value, readable, -, encoded, -, done⟩ := send_succeeded wellKeyed succeeds
  obtain ⟨stored, found, decoded⟩ := readable.stored
  have after : send.apply sm =
      afterObject codec send.action send.env record
        (afterEvent send.action send.env value sm) := congrArg Prod.snd done
  refine ⟨record, value, stored, ?_, encoded, found, decoded, ?_⟩
  · rw [after]
    exact (effect_afterInsert (effect_afterInsert (wellKeyed.afterRead _) _ _ _ _).wellKeyed
      _ _ _ _).wellKeyed
  · rw [after]
    rfl

theorem logged_self {send : Send} (wellKeyed : WellKeyed sm) (succeeds : send.Succeeds sm) :
    Logged (send.apply sm) send := by
  obtain ⟨record, value, stored, -, encoded, -, -, db⟩ := succeeds.effect wellKeyed
  have apart : send.key ≠ objectKey send.action.regionID send.action.idTo :=
    fun equal => objectKey_ne_eventKey_of_region _ _ _ equal.symm
  refine ⟨value, encoded, ?_⟩
  rw [db, KeyValue.insert_of_ne _ _ apart, KeyValue.insert_self]

/-- **A later call keeps an event** unless it has the same key: the object it writes back was
an object before, so it is not the event. -/
theorem Logged.apply {send later : Send} (wellKeyed : WellKeyed sm) (logged : Logged sm send)
    (succeeds : later.Succeeds sm) (apart : send.key ≠ later.key) :
    Logged (later.apply sm) send := by
  obtain ⟨value, encoded, held⟩ := logged
  obtain ⟨record, other, stored, -, -, found, decoded, db⟩ := succeeds.effect wellKeyed
  have notObject : send.key ≠ objectKey later.action.regionID later.action.idTo := by
    intro equal
    rw [← equal, held] at found
    cases found
    exact unmarshalObject_event encoded record decoded
  refine ⟨value, encoded, ?_⟩
  rw [db, KeyValue.insert_of_ne _ _ notObject, KeyValue.insert_of_ne _ _ apart, held]

theorem logged_run {done sends : List Send} (wellKeyed : WellKeyed sm)
    (logged : ∀ send ∈ done, Logged sm send) (succeed : AllSucceed sm sends)
    (distinct : (done ++ sends).Pairwise fun a b => a.key ≠ b.key) :
    WellKeyed (run Send.apply sm sends) ∧
      ∀ send ∈ done ++ sends, Logged (run Send.apply sm sends) send := by
  induction sends generalizing sm done with
  | nil => exact ⟨wellKeyed, by simpa using logged⟩
  | cons next sends ih =>
    obtain ⟨succeeds, rest⟩ := succeed
    have shifted : (done ++ [next]) ++ sends = done ++ next :: sends := by simp
    have apart : ∀ send ∈ done, send.key ≠ next.key := fun send mem =>
      (pairwise_append.mp distinct).2.2 send mem next mem_cons_self
    obtain ⟨-, -, -, wellKeyedNext, -⟩ := succeeds.effect wellKeyed
    have loggedNext : ∀ send ∈ done ++ [next], Logged (next.apply sm) send := by
      intro send mem
      rcases mem_append.mp mem with old | new
      · exact (logged send old).apply wellKeyed succeeds (apart send old)
      · rw [mem_singleton.mp new]
        exact logged_self wellKeyed succeeds
    rw [← shifted] at distinct ⊢
    exact ih wellKeyedNext loggedNext rest distinct

/-- **When no accepted event is lost.**  Over a run of calls that all succeed, the events are
stored under different keys and all of them can still be read, exactly when no two of the
calls clash. -/
theorem noneLost_iff (sm : StateManager) (wellKeyed : WellKeyed sm) (sends : List Send)
    (succeed : AllSucceed sm sends) :
    NoneLost sends (run Send.apply sm sends) ↔ sends.Pairwise fun a b => ¬ Send.Clash a b := by
  have apart_iff : ∀ a b : Send, a.key ≠ b.key ↔ ¬ Send.Clash a b :=
    fun a b => not_congr Send.key_eq_iff
  constructor
  · intro noneLost
    simpa only [apart_iff] using noneLost.distinct
  · intro noClash
    have distinct : sends.Pairwise fun a b => a.key ≠ b.key := by
      simpa only [apart_iff] using noClash
    have none_before : ∀ send ∈ ([] : List Send), Logged sm send :=
      fun _ mem => absurd mem not_mem_nil
    obtain ⟨wellKeyedEnd, logged⟩ := logged_run wellKeyed none_before succeed distinct
    refine ⟨distinct, fun send mem => ?_⟩
    obtain ⟨value, encoded, held⟩ := logged send mem
    refine ⟨value, encoded, ?_⟩
    show answer _ = _
    rw [(wellKeyedEnd.storeOf send.action.regionID).1]
    exact congrArg answer held

/-! ### Two events in one second -/

def managerLog : StateManager := (createO.execute codec .ok 0 managerA).2

theorem wellKeyed_managerLog : WellKeyed managerLog :=
  Step.wellKeyed_apply codec (wellKeyed_new _ _) (.create createO .ok 0)

def firstSend : Send := ⟨sendO, .ok, 1⟩

def secondSend : Send := ⟨{ sendO with parameters := [7] }, .ok, 2⟩

def laterSend : Send :=
  ⟨{ sendO with
    attestations := ({ attestationO with timestamp := Time.unixUTC 1 },
      { attestationO with timestamp := Time.unixUTC 1 }) }, .ok, 2⟩

theorem succeeds_firstSend : firstSend.Succeeds managerLog := by decide +kernel

/-- Events in two different seconds are both kept. -/
theorem noneLost_two_seconds :
    WellKeyed managerLog ∧ AllSucceed managerLog [firstSend, laterSend] ∧
      NoneLost [firstSend, laterSend] (run Send.apply managerLog [firstSend, laterSend]) := by
  have succeed : AllSucceed managerLog [firstSend, laterSend] :=
    ⟨succeeds_firstSend, by decide +kernel, trivial⟩
  have apart : firstSend.stamp ≠ laterSend.stamp := by decide +kernel
  refine ⟨wellKeyed_managerLog, succeed, ?_⟩
  refine (noneLost_iff managerLog wellKeyed_managerLog _ succeed).mpr ?_
  refine pairwise_pair.mpr fun clash => apart clash.1

/-- The second of two events in one second replaces the first. -/
theorem lost_one_second :
    AllSucceed managerLog [firstSend, secondSend] ∧
      firstSend.action.parameters ≠ secondSend.action.parameters ∧
      firstSend.key = secondSend.key ∧
      (run Send.apply managerLog [firstSend, secondSend]).merkleDB firstSend.key =
        (codec.marshalEvent secondSend.action.event).toOption ∧
      ¬ NoneLost [firstSend, secondSend] (run Send.apply managerLog [firstSend, secondSend]) := by
  have succeed : AllSucceed managerLog [firstSend, secondSend] :=
    ⟨succeeds_firstSend, by decide +kernel, trivial⟩
  have same : firstSend.key = secondSend.key := by decide +kernel
  refine ⟨succeed, by decide, same, by decide +kernel, fun noneLost => ?_⟩
  exact pairwise_pair.mp noneLost.distinct same

end Aristo
