import Aristo.Base.Json
import Aristo.Storage.Objects

/-!
# Records in JSON

`marshalState` and `unmarshalState` of `storage/storage.go` at the types they are used with: the map
of an object, an event with its attestations, and the map of a region.  Objects and events are kept
in one database, and neither is ever taken for the other: the text of an event is no
`map[string][]byte` (`unmarshalObject_event`).

A nil `[]byte` is written here as an empty one, and the texts of the errors of `encoding/json` are
not modelled, except for times.
-/

namespace Aristo

open GoBase

namespace Records

def errJSON : GoError := .plain (ascii "json: cannot unmarshal")

def errTime (reason : String) : GoError :=
  .plain (ascii "json: error calling MarshalJSON for type time.Time: Time.MarshalJSON: " ++
    ascii reason)

def time (t : Time) : Except GoError Json := do
  refuse (t.year < 0 ∨ 9999 < t.year) (errTime "year outside of range [0,9999]")
  refuse (24 ≤ t.loc.offset.natAbs / 3600) (errTime "timezone hour outside of range [0,23]")
  return .ofString t.formatRFC3339Nano

def attestation (a : TEEAttestation) : Except GoError Json := do
  let timestamp ← time a.timestamp
  return .object [
    ("enclave_id".toList, .ofBytes a.enclaveID),
    ("measurement".toList, .ofBytes a.measurement),
    ("timestamp".toList, timestamp),
    ("data".toList, .ofBytes a.data),
    ("signature".toList, .ofBytes a.signature),
    ("region_proof".toList, .ofBytes a.regionProof)]

def attestations (pair : TEEAttestation × TEEAttestation) : Except GoError Json := do
  let first ← attestation pair.1
  let second ← attestation pair.2
  return .array [first, second]

def event (e : Event) : Except GoError Json := do
  let pair ← attestations e.attestations
  return .object [
    ("function_call".toList, .ofString e.functionCall),
    ("parameters".toList, .ofBytes e.parameters),
    ("attestations".toList, pair),
    ("timestamp".toList, .ofString e.timestamp),
    ("status".toList, .ofString e.status)]

/-- The map that `SetObject` encodes; its keys are in order. -/
def object (record : ObjectRecord) : Json :=
  .object [
    ("code".toList, .ofBytes record.code),
    ("status".toList, .ofBytes record.status),
    ("storage".toList, .ofBytes record.storage)]

/-- The map that `CreateRegionAction` encodes; its keys are in order. -/
def regionConfig (tees : List Bytes) (pair : TEEAttestation × TEEAttestation) :
    Except GoError Json := do
  let attestations ← attestations pair
  let created := Json.ofString pair.1.timestamp.formatRFC3339
  return .object [
    ("attestations".toList, attestations),
    ("created_at".toList, created),
    ("last_updated".toList, created),
    ("tees".toList, .array (tees.map Json.ofBytes))]

def unmarshalBytesMap (value : Bytes) : Except GoError (Option (List (List Char × Bytes))) :=
  match (Json.parse value).bind Json.toBytesMap with
  | some map => .ok map
  | none => .error errJSON

/-- The entries of the map of an object; a nil map has none. -/
def record (map : Option (List (List Char × Bytes))) : ObjectRecord where
  code := ((map.bind (Json.entry · "code")).getD [])
  storage := ((map.bind (Json.entry · "storage")).getD [])
  status := ((map.bind (Json.entry · "status")).getD [])

def unmarshalMap (value : Bytes) : Except GoError (Option (List (List Char × Json))) :=
  match (Json.parse value).bind Json.toMap with
  | some map => .ok map
  | none => .error errJSON

theorem unmarshalBytesMap_error {value : Bytes} {error : GoError}
    (h : unmarshalBytesMap value = .error error) : error = errJSON := by
  unfold unmarshalBytesMap at h
  cases decoded : (Json.parse value).bind Json.toBytesMap with
  | some =>
    rw [decoded] at h
    cases h
  | none =>
    rw [decoded] at h
    exact (Except.error.inj h).symm

theorem unmarshalMap_error {value : Bytes} {error : GoError}
    (h : unmarshalMap value = .error error) : error = errJSON := by
  unfold unmarshalMap at h
  cases decoded : (Json.parse value).bind Json.toMap with
  | some =>
    rw [decoded] at h
    cases h
  | none =>
    rw [decoded] at h
    exact (Except.error.inj h).symm

theorem unmarshalBytesMap_object (r : ObjectRecord) :
    unmarshalBytesMap (object r).render =
      .ok (some [("code".toList, r.code), ("status".toList, r.status),
        ("storage".toList, r.storage)]) := by
  rw [unmarshalBytesMap, Json.parse_render]
  simp [object, Json.toBytesMap]

def codec : StateCodec (List (List Char × Json)) where
  marshalObject r := (object r).render
  unmarshalObject value := (unmarshalBytesMap value).map record
  marshalEvent e := (event e).map Json.render
  unmarshalRegion := unmarshalMap
  unmarshal_marshalObject r := by
    rw [unmarshalBytesMap_object]
    rfl

theorem attestation_isObject {a : TEEAttestation} {value : Json} (h : attestation a = .ok value) :
    ∃ members, value = .object members := by
  obtain ⟨timestamp, -, equal⟩ := except_bind_eq_ok.mp h
  cases equal
  exact ⟨_, rfl⟩

theorem attestations_isArray {pair : TEEAttestation × TEEAttestation} {value : Json}
    (h : attestations pair = .ok value) :
    ∃ first second, value = .array [.object first, .object second] := by
  obtain ⟨first, encodedFirst, rest⟩ := except_bind_eq_ok.mp h
  obtain ⟨second, encodedSecond, equal⟩ := except_bind_eq_ok.mp rest
  obtain ⟨members, rfl⟩ := attestation_isObject encodedFirst
  obtain ⟨members', rfl⟩ := attestation_isObject encodedSecond
  cases equal
  exact ⟨members, members', rfl⟩

/-- **An event is not an object.**  Its attestations are an array of structs, which is no
`[]byte`. -/
theorem unmarshalObject_event {e : Event} {value : Bytes} (h : codec.marshalEvent e = .ok value)
    (r : ObjectRecord) : codec.unmarshalObject value ≠ .ok r := by
  have split : (event e >>= fun json => .ok json.render) = .ok value := by
    rw [← h]
    show _ = (event e).map Json.render
    cases event e with
    | error | ok => rfl
  obtain ⟨json, encoded, rendered⟩ := except_bind_eq_ok.mp split
  obtain ⟨pair, encodedPair, built⟩ := except_bind_eq_ok.mp encoded
  obtain ⟨first, second, rfl⟩ := attestations_isArray encodedPair
  cases built
  cases rendered
  have noMap : Json.toBytesMap (.object [
      ("function_call".toList, .ofString e.functionCall),
      ("parameters".toList, .ofBytes e.parameters),
      ("attestations".toList, .array [.object first, .object second]),
      ("timestamp".toList, .ofString e.timestamp),
      ("status".toList, .ofString e.status)]) = none :=
    Json.toBytesMap_eq_none
      (show ("attestations".toList, Json.array [.object first, .object second]) ∈ _ by simp) rfl
  show (unmarshalBytesMap _).map record ≠ _
  rw [unmarshalBytesMap, Json.parse_render, Option.bind_some, noMap]
  exact nofun

end Records

end Aristo
