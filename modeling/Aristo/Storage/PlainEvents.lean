import Aristo.Base.PrefixFree
import Aristo.Storage.State

/-!
# Events of the plain state

The writers of `storage/storage.go` on the global name space, where the first byte of a key says
what it is the key of, and `GetEvent`.  The key of an event is the byte 5, the time of its first
attestation as text and the ID of the object, with nothing in between.  Printed times are
prefix-free, so such a key determines time and ID (`eventKey_eq_iff`); given any other text for the
time, `GetEvent` may find an event of another ID (`getEvent_after`).
-/

namespace Aristo

open GoBase Call

namespace Storage

namespace Plain

/-! ## Keys -/

def eventKind : UInt8 := 5

def coordKind : UInt8 := 8

def eventKey (timestamp id : Bytes) : Bytes :=
  eventKind :: (timestamp ++ id)

def makeEventKey (regionID timestamp id : Bytes) : Bytes :=
  if regionID = [] then eventKey timestamp id
  else makeKey regionID eventKind (timestamp ++ slash :: id)

/-! ## Writers -/

/-- `marshalState` and `Insert`; the record is what `json.Marshal` makes of it. -/
def setRecord (key : Bytes) (record : Except GoError Json) : Call Mutable Unit := do
  let value ← Call.lift record
  Mutable.insert key value.render

def setCoordinationState (state : Except GoError Json) : Call Mutable Unit :=
  setRecord [coordKind] state

/-- A `map[string][]byte`, in the order of its keys; the nil map is `null`. -/
def bytesMap : Option (List (List Char × Bytes)) → Json
  | none => .null
  | some entries => .object (entries.map fun entry => (entry.1, .ofBytes entry.2))

def setObject (id : Bytes) (obj : Option (List (List Char × Bytes)))
    (coordState : Option (Except GoError Json)) (regionID : Bytes) : Call Mutable Unit := do
  setRecord (makeObjectKey regionID id) (.ok (bytesMap obj))
  match coordState with
  | none => return ()
  | some state => setCoordinationState state

def setInputObject (id : Bytes) : Call Mutable Unit :=
  Mutable.insert inputObjectKey id

def setRegion (id : Bytes) (region : Except GoError Json) : Call Mutable Unit :=
  setRecord (regionKey id) region

/-- The map that `QueueEvent` encodes, in the order of its keys. -/
def event (functionCall parameters : Bytes) (attestations : TEEAttestation × TEEAttestation) :
    Except GoError (List (List Char × Json)) := do
  let pair ← Records.attestations attestations
  return [
    ("attestations".toList, pair),
    ("function_call".toList, .ofString functionCall),
    ("parameters".toList, .ofBytes parameters)]

/-- `QueueEvent`; with a coordination state it ends with the call of `UpdateTaskState`. -/
def queueEvent (updateTaskState : Option (Call Mutable Unit)) (id functionCall parameters : Bytes)
    (attestations : TEEAttestation × TEEAttestation) (regionID : Bytes) : Call Mutable Unit := do
  let timestamp := attestations.1.timestamp.formatRFC3339
  setRecord (makeEventKey regionID timestamp id)
    ((event functionCall parameters attestations).map Json.object)
  match updateTaskState with
  | none => return ()
  | some update => update

def getEvent (timestamp id : Bytes) : Call Mutable (Option (List (List Char × Json))) :=
  getRecord Mutable.getValue Records.unmarshalMap (eventKey timestamp id)

/-! ## Runs on the global name space -/

/-- A call without a region.  Only `SetObject` is given a coordination state. -/
inductive GlobalCall where
  | queueEvent (id functionCall parameters : Bytes)
      (attestations : TEEAttestation × TEEAttestation)
  | setObject (id : Bytes) (obj : Option (List (List Char × Bytes)))
      (coordState : Option (Except GoError Json))
  | setInputObject (id : Bytes)
  | setRegion (id : Bytes) (region : Except GoError Json)
  | setBalance (addr : Address) (balance : UInt64)
  | setCoordinationState (state : Except GoError Json)

def GlobalCall.call (text : AddressText) : GlobalCall → Call Mutable Unit
  | queueEvent id functionCall parameters attestations =>
    Plain.queueEvent none id functionCall parameters attestations []
  | setObject id obj coordState => Plain.setObject id obj coordState []
  | setInputObject id => Plain.setInputObject id
  | setRegion id region => Plain.setRegion id region
  | setBalance addr balance => Aristo.setBalance text addr balance
  | setCoordinationState state => Plain.setCoordinationState state

/-- The event of a call of `QueueEvent` whose time and ID are as wanted. -/
def GlobalCall.eventIf (wanted : Bytes → Bytes → Bool) :
    GlobalCall → Option (List (List Char × Json))
  | queueEvent id functionCall parameters attestations =>
    if wanted attestations.1.timestamp.formatRFC3339 id then
      (event functionCall parameters attestations).toOption
    else none
  | _ => none

/-- The event of the last such call that succeeded. -/
def lastEvent (text : AddressText) (wanted : Bytes → Bytes → Bool) (calls : List GlobalCall) :
    Option (List (List Char × Json)) :=
  (Call.returned (GlobalCall.call text) (fun _ => none) calls).reverse.findSome?
    fun done => done.1.eventIf wanted

/-! ## What a call leaves under the keys of events -/

theorem setRecord_of_ok {record : Except GoError Json} {value : Json} (encoded : record = .ok value)
    (key : Bytes) (mu : Mutable) :
    setRecord key record mu = (.ok (), KeyValue.insert mu key value.render) := by
  rw [setRecord, lift_bind_of_ok encoded]
  rfl

theorem setRecord_of_error {record : Except GoError Json} {error : GoError}
    (failed : record = .error error) (key : Bytes) (mu : Mutable) :
    setRecord key record mu = (.err error, mu) := by
  rw [setRecord, lift_bind_of_error failed]

/-- A write leaves other keys alone. -/
theorem setRecord_of_ne {key other : Bytes} (h : other ≠ key) (record : Except GoError Json)
    (mu : Mutable) : (setRecord key record mu).2 other = mu other := by
  cases encoded : record with
  | error => rw [setRecord_of_error rfl]
  | ok =>
    rw [setRecord_of_ok rfl]
    exact KeyValue.insert_of_ne mu _ h

section

variable (id : Bytes) (obj : Option (List (List Char × Bytes)))
    (coordState : Option (Except GoError Json))

/-- An object is written before the coordination state, -/
theorem setObject_apply (regionID : Bytes) (mu : Mutable) :
    setObject id obj coordState regionID mu = coordState.elim (pure ()) setCoordinationState
      (KeyValue.insert mu (makeObjectKey regionID id) (bytesMap obj).render) := by
  have continues : setObject id obj coordState regionID mu = _ :=
    bind_of_ok (setRecord_of_ok rfl (makeObjectKey regionID id) mu)
  rw [continues]
  cases coordState with
  | none | some => rfl

end

variable {attestations : TEEAttestation × TEEAttestation} {functionCall parameters : Bytes}

/-- and an event before its task, -/
theorem queueEvent_of_ok {members : List (List Char × Json)}
    (encoded : event functionCall parameters attestations = .ok members)
    (update : Option (Call Mutable Unit)) (id regionID : Bytes) (mu : Mutable) :
    queueEvent update id functionCall parameters attestations regionID mu =
      update.getD (pure ()) (KeyValue.insert mu
        (makeEventKey regionID attestations.1.timestamp.formatRFC3339 id)
        (Json.object members).render) := by
  have value : (event functionCall parameters attestations).map Json.object
      = .ok (Json.object members) := by
    rw [encoded]
    rfl
  have continues : queueEvent update id functionCall parameters attestations regionID mu = _ :=
    bind_of_ok (setRecord_of_ok value _ mu)
  rw [continues]
  cases update with
  | none | some => rfl

/-- unless it cannot be encoded. -/
theorem queueEvent_of_error {error : GoError}
    (failed : event functionCall parameters attestations = .error error)
    (update : Option (Call Mutable Unit)) (id regionID : Bytes) (mu : Mutable) :
    queueEvent update id functionCall parameters attestations regionID mu = (.err error, mu) := by
  have failure : (event functionCall parameters attestations).map Json.object = .error error := by
    rw [failed]
    rfl
  exact bind_of_err (setRecord_of_error failure _ mu)

/-- **What one call leaves under a key of events**: the event, if it has this key. -/
theorem call_apply_event (text : AddressText) (c : GlobalCall) (mu : Mutable) (rest : Bytes) :
    (c.call text mu).2 (eventKind :: rest) =
      ((c.eventIf fun time id => time ++ id = rest).map fun members =>
        (Json.object members).render).or (mu (eventKind :: rest)) := by
  cases c with
  | setObject id obj coordState =>
    have apart : eventKind :: rest ≠ makeObjectKey [] id := fun same => nomatch same
    have apart' : eventKind :: rest ≠ [coordKind] := fun same => nomatch same
    have first := KeyValue.insert_of_ne mu (bytesMap obj).render apart
    rw [GlobalCall.call, setObject_apply]
    cases coordState with
    | none => exact first
    | some state => exact (setRecord_of_ne apart' state _).trans first
  | setInputObject id =>
    have apart : eventKind :: rest ≠ inputObjectKey := fun same => nomatch same
    exact KeyValue.insert_of_ne mu id apart
  | setBalance addr balance =>
    have apart : eventKind :: rest ≠ balanceKey text addr := fun same => nomatch same
    exact KeyValue.insert_of_ne mu (putUint64 balance) apart
  | setRegion | setCoordinationState =>
    refine setRecord_of_ne ?_ _ mu
    exact fun same => nomatch same
  | queueEvent id functionCall parameters attestations =>
    rw [GlobalCall.call, GlobalCall.eventIf]
    cases encoded : event functionCall parameters attestations with
    | error error =>
      have none : (Except.error error : Except GoError (List (List Char × Json))).toOption
          = none := rfl
      rw [queueEvent_of_error encoded, none, ite_self]
      rfl
    | ok =>
      rw [queueEvent_of_ok encoded]
      generalize attestations.1.timestamp.formatRFC3339 = printed
      by_cases here : printed ++ id = rest
      · rw [if_pos (decide_eq_true here), ← here]
        exact KeyValue.insert_self mu _ _
      · have apart : eventKind :: rest ≠ eventKey printed id :=
          fun same => here (List.cons.inj same).2.symm
        rw [if_neg (fun yes => here (of_decide_eq_true yes))]
        exact KeyValue.insert_of_ne mu _ apart

/-- One more call. -/
theorem lastEvent_concat (text : AddressText) (wanted : Bytes → Bytes → Bool)
    (calls : List GlobalCall) (c : GlobalCall) :
    lastEvent text wanted (calls ++ [c]) = (c.eventIf wanted).or (lastEvent text wanted calls) := by
  rw [lastEvent, returned_append, List.reverse_append, lastEvent]
  rcases called : c.call text (Call.after (GlobalCall.call text) (fun _ => none) calls) with
    ⟨outcome, after⟩
  by_cases succeeded : outcome.Succeeded
  · obtain ⟨value, rfl⟩ := Outcome.succeeded_iff.mp succeeded
    rw [returned_cons_of_ok called]
    cases found : c.eventIf wanted with
    | none | some => simp [Call.returned, found]
  · rw [returned_cons_of_not called succeeded]
    -- a call that failed has queued nothing
    have none : c.eventIf wanted = none := by
      cases c with
      | setObject | setInputObject | setRegion | setBalance | setCoordinationState => rfl
      | queueEvent id functionCall parameters attestations =>
        rw [GlobalCall.eventIf]
        cases encoded : event functionCall parameters attestations with
        | ok =>
          rw [GlobalCall.call, queueEvent_of_ok encoded] at called
          cases called
          exact absurd trivial succeeded
        | error => exact ite_self none
    simp [Call.returned, none]

/-- **A whole run**: under a key of events is the last event that was queued under it. -/
theorem after_apply_event (text : AddressText) (calls : List GlobalCall) (rest : Bytes) :
    Call.after (GlobalCall.call text) (fun _ => none) calls (eventKind :: rest) =
      (lastEvent text (fun time id => time ++ id = rest) calls).map fun members =>
        (Json.object members).render := by
  induction calls using List.reverseRecOn with
  | nil => rfl
  | append_singleton calls c ih =>
    rw [after_append, lastEvent_concat]
    show (c.call text _).2 (eventKind :: rest) = _
    rw [call_apply_event, ih]
    cases c.eventIf fun time id => time ++ id = rest with
    | none | some => rfl

/-- A key that is not there is no error. -/
theorem findValue_getValue (key : Bytes) (mu : Mutable) :
    findValue Mutable.getValue key mu = (.ok (mu key), mu) := by
  cases stored : mu key with
  | none =>
    simp [findValue, Call.attempt, bind_apply, Mutable.getValue, stored, errNotFound,
      GoError.new, GoError.is]
  | some =>
    simp [findValue, Call.attempt, bind_apply, Mutable.getValue, stored]

/-- After any run, `GetEvent` returns the last event whose time and ID are together what its
arguments are together. -/
theorem getEvent_after_eq (text : AddressText) (calls : List GlobalCall) (timestamp id : Bytes) :
    (getEvent timestamp id (Call.after (GlobalCall.call text) (fun _ => none) calls)).1 =
      .ok (lastEvent text (fun time id' => time ++ id' = timestamp ++ id) calls) := by
  have stored := after_apply_event text calls (timestamp ++ id)
  rw [getEvent, getRecord, bind_of_ok (findValue_getValue _ _), eventKey, stored]
  cases lastEvent text (fun time id' => time ++ id' = timestamp ++ id) calls with
  | none => rfl
  | some members =>
    show (Call.lift (Records.unmarshalMap (Json.object members).render) _).1 = _
    rw [Records.unmarshalMap, Json.parse_render]
    rfl

/-! ## Times that are printed -/

/-- **The key of an event determines its time and its ID.** -/
theorem eventKey_eq_iff {time time' : Time} {id id' : Bytes} :
    eventKey time.formatRFC3339 id = eventKey time'.formatRFC3339 id' ↔
      time.formatRFC3339 = time'.formatRFC3339 ∧ id = id' := by
  constructor
  · intro same
    exact Time.prefixFree_formatRFC3339 _ ⟨time, rfl⟩ _ ⟨time', rfl⟩ id id' (List.cons.inj same).2
  · rintro ⟨times, rfl⟩
    rw [times]

/-- **`GetEvent` after any run** returns, for any two texts, the last event whose printed time,
followed by its ID, is the one text followed by the other; for a time that is printed, the last
event with that time and that ID. -/
theorem getEvent_after (text : AddressText) (calls : List GlobalCall) :
    (∀ timestamp id,
      (getEvent timestamp id (Call.after (GlobalCall.call text) (fun _ => none) calls)).1 =
        .ok (lastEvent text (fun time id' => time ++ id' = timestamp ++ id) calls)) ∧
    ∀ (time : Time) id,
      (getEvent time.formatRFC3339 id
          (Call.after (GlobalCall.call text) (fun _ => none) calls)).1 =
        .ok (lastEvent text (fun time' id' => time' = time.formatRFC3339 ∧ id' = id) calls) := by
  refine ⟨getEvent_after_eq text calls, fun time id => ?_⟩
  have same (time' : Time) (id' : Bytes) :
      time'.formatRFC3339 ++ id' = time.formatRFC3339 ++ id ↔
        time'.formatRFC3339 = time.formatRFC3339 ∧ id' = id :=
    ⟨fun same => eventKey_eq_iff.mp (congrArg (eventKind :: ·) same),
      fun same => (List.cons.inj (eventKey_eq_iff.mpr same)).2⟩
  have each (c : GlobalCall) :
      c.eventIf (fun time' id' => time' ++ id' = time.formatRFC3339 ++ id) =
        c.eventIf fun time' id' => time' = time.formatRFC3339 ∧ id' = id := by
    cases c with
    | setObject | setInputObject | setRegion | setBalance | setCoordinationState => rfl
    | queueEvent => simp only [GlobalCall.eventIf, same]
  rw [getEvent_after_eq]
  simp only [lastEvent, each]

def queueA : List GlobalCall :=
  [.queueEvent (ascii "a") (ascii "run") [1]
    (⟨[1], [2], Time.unixUTC 0, [], [], []⟩, ⟨[3], [4], Time.unixUTC 0, [], [], []⟩)]

/-- Asked for the ID that starts with the time, and for no time, `GetEvent` returns the event of
`a`, although nothing was queued with this ID. -/
theorem getEvent_finds_another_id :
    let mu := Call.after (GlobalCall.call hexText) (fun _ => none) queueA
    let id := ascii "1970-01-01T00:00:00Za"
    (∃ members, (getEvent [] id mu).1 = .ok (some members)) ∧
      lastEvent hexText (fun time id' => time = [] ∧ id' = id) queueA = none ∧
      ¬ (getEvent [] id mu).1 =
        .ok (lastEvent hexText (fun time id' => time = [] ∧ id' = id) queueA) := by
  intro mu id
  have queued :
      (lastEvent hexText (fun time id' => time ++ id' = [] ++ id) queueA).isSome = true := by
    decide +kernel
  have none : (lastEvent hexText (fun time id' => time = [] ∧ id' = id) queueA).isNone = true := by
    decide +kernel
  obtain ⟨members, found⟩ := Option.isSome_iff_exists.mp queued
  have returned : (getEvent [] id mu).1 = .ok (some members) := by
    rw [← found]
    exact getEvent_after_eq hexText queueA [] id
  refine ⟨⟨members, returned⟩, Option.isNone_iff_eq_none.mp none, ?_⟩
  rw [returned, Option.isNone_iff_eq_none.mp none]
  intro same
  cases same

end Plain

end Storage

end Aristo
