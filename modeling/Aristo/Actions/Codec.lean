import Aristo.Actions.Runs
import Aristo.Core.Attestation

/-!
# Decoding of actions

The `Unmarshal` methods of the object and region actions, and the functions that apply them to the
zero value of the action.  No action has a `Marshal` method, so the question is which values can
come from the wire at all (`exists_decode_iff`): byte strings are read with a limit of zero, and
some fields are not read.

`verifyAttestationPair_roundTrip_iff` compares the verdict on a pair of attestations before and
after the wire, which takes the enclave IDs away.
-/

namespace Aristo

open GoBase Actions List TEEAttestation

/-! ## The code -/

/-- `CreateObjectAction.Unmarshal`; the error it returns is the packer's. -/
def CreateObjectAction.unmarshal (P : Packer) (_ : CreateObjectAction) :
    Unpack CreateObjectAction := do
  let id ← P.unpackString false
  let code ← P.unpackBytes 0 false
  let storage ← P.unpackBytes 0 false
  let regionID ← P.unpackString false
  return { id, code, storage, regionID }

def SendEventAction.unmarshal (P : Packer) (s : SendEventAction) : Unpack SendEventAction := do
  let idTo ← P.unpackString false
  let functionCall ← P.unpackString false
  let parameters ← P.unpackBytes 0 false
  let regionID ← P.unpackString false
  return { s with idTo, functionCall, parameters, regionID }

def SetInputObjectAction.unmarshal (P : Packer) (s : SetInputObjectAction) :
    Unpack SetInputObjectAction := do
  let id ← P.unpackString false
  return { s with id }

/-- `CreateRegionAction.Unmarshal`: the TEEs are read into a local slice. -/
def CreateRegionAction.unmarshal (P : Packer) (r : CreateRegionAction) :
    Unpack CreateRegionAction := do
  let regionID ← P.unpackString false
  let addCount ← P.unpackInt false
  let _localTEEs ← unpackRepeated (P.unpackBytes 32 true) addCount.toNat
  let first ← TEEAttestation.unmarshal P
  let second ← TEEAttestation.unmarshal P
  return { r with regionID, attestations := (first, second) }

def UpdateRegionAction.unmarshal (P : Packer) (_ : UpdateRegionAction) :
    Unpack UpdateRegionAction := do
  let regionID ← P.unpackString false
  let sgxEndpoint ← P.unpackString false
  let sevEndpoint ← P.unpackString false
  let first ← TEEAttestation.unmarshal P
  let second ← TEEAttestation.unmarshal P
  return { regionID, sgxEndpoint, sevEndpoint, attestations := (first, second) }

/-- The body that the functions below share: read from all of `data`, report the packer's error. -/
def decode {α : Type} (unmarshal : Unpack α) (data : Bytes) : Except GoError α :=
  match unmarshal ⟨data, none⟩ with
  | (_, ⟨_, some error⟩) => .error error
  | (value, ⟨_, none⟩) => .ok value

def unmarshalCreateObject (P : Packer) : Bytes → Except GoError CreateObjectAction :=
  decode (CreateObjectAction.unmarshal P
    { id := [], code := [], storage := [], regionID := [] })

def unmarshalSendEvent (P : Packer) : Bytes → Except GoError SendEventAction :=
  decode (SendEventAction.unmarshal P
    { idTo := [], functionCall := [], parameters := [], regionID := [],
      attestations := (zero, zero) })

def unmarshalSetInputObject (P : Packer) : Bytes → Except GoError SetInputObjectAction :=
  decode (SetInputObjectAction.unmarshal P { id := [], regionID := [] })

def unmarshalCreateRegion (P : Packer) : Bytes → Except GoError CreateRegionAction :=
  decode (CreateRegionAction.unmarshal P
    { regionID := [], tees := [], attestations := (zero, zero) })

def unmarshalUpdateRegion (P : Packer) : Bytes → Except GoError UpdateRegionAction :=
  decode (UpdateRegionAction.unmarshal P
    { regionID := [], sgxEndpoint := [], sevEndpoint := [],
      attestations := (zero, zero) })

/-! ## What a decoder reaches -/

/-- A decoder succeeds when the reads do; bytes may be left. -/
theorem decode_eq_ok_iff {α : Type} {u : Unpack α} {data : Bytes} {value : α} :
    decode u data = .ok value ↔ ∃ rest, Yields u data value rest := by
  unfold decode
  constructor
  · intro decoded
    split at decoded
    · cases decoded
    · rename_i result rest read
      cases decoded
      exact ⟨rest, read⟩
  · rintro ⟨rest, read⟩
    rw [show u ⟨data, none⟩ = _ from read]

inductive DecodedAction where
  | createObject (action : CreateObjectAction)
  | sendEvent (action : SendEventAction)
  | setInputObject (action : SetInputObjectAction)
  | createRegion (action : CreateRegionAction)
  | updateRegion (action : UpdateRegionAction)

namespace DecodedAction

/-- The decoder of the action's type returns the action on `data`. -/
def DecodedFrom (P : Packer) (data : Bytes) : DecodedAction → Prop
  | createObject action => unmarshalCreateObject P data = .ok action
  | sendEvent action => unmarshalSendEvent P data = .ok action
  | setInputObject action => unmarshalSetInputObject P data = .ok action
  | createRegion action => unmarshalCreateRegion P data = .ok action
  | updateRegion action => unmarshalUpdateRegion P data = .ok action

/-- Two attestations whose timestamps are whole UTC seconds. -/
def WholeSeconds (attestations : TEEAttestation × TEEAttestation) : Prop :=
  attestations.1.WholeSeconds ∧ attestations.2.WholeSeconds

/-- Strings within the packer's limits, timestamps of whole UTC seconds. -/
def WithinLimits : DecodedAction → Prop
  | createObject action =>
    action.id.length ≤ maxStringLen ∧ action.regionID.length ≤ maxStringLen
  | sendEvent action =>
    action.idTo.length ≤ maxStringLen ∧ action.functionCall.length ≤ maxStringLen ∧
      action.regionID.length ≤ maxStringLen ∧ WholeSeconds action.attestations
  | setInputObject action =>
    action.id.length ≤ maxStringLen ∧ action.regionID.length ≤ maxStringLen
  | createRegion action =>
    action.regionID.length ≤ maxStringLen ∧ WholeSeconds action.attestations
  | updateRegion action =>
    action.regionID.length ≤ maxStringLen ∧ action.sgxEndpoint.length ≤ maxStringLen ∧
      action.sevEndpoint.length ≤ maxStringLen ∧ WholeSeconds action.attestations

/-- The fields that the decoder does not fill have their zero value, and those that it reads with
a limit of zero are empty. -/
def LostFieldsZero : DecodedAction → Prop
  | createObject action => action.code = [] ∧ action.storage = []
  | sendEvent action =>
    action.parameters = [] ∧ action.attestations = (zero, zero)
  | setInputObject action => action.regionID = []
  | createRegion action =>
    action.tees = [] ∧ action.attestations.1.Bare ∧ action.attestations.2.Bare
  | updateRegion action => action.attestations.1.Bare ∧ action.attestations.2.Bare

end DecodedAction

section

variable (P : Packer)

/-- A string is read within the packer's limit. -/
theorem yields_string_iff {data text rest : Bytes} :
    Yields (P.unpackString false) data text rest ↔
      text.length ≤ maxStringLen ∧ data = encodeString text ++ rest := by
  rw [(P.reads_string false).yields_iff]
  simp

/-- Both byte strings of an object have to be empty, -/
theorem yields_createObject_iff {receiver action : CreateObjectAction} {data rest : Bytes} :
    Yields (CreateObjectAction.unmarshal P receiver) data action rest ↔
      (action.id.length ≤ maxStringLen ∧ action.regionID.length ≤ maxStringLen) ∧
        (action.code = [] ∧ action.storage = []) ∧
        data = encodeString action.id ++ (encodeBytes [] ++ (encodeBytes [] ++
          (encodeString action.regionID ++ rest))) := by
  simp only [CreateObjectAction.unmarshal, yields_bind_iff, yields_string_iff,
    P.yields_bytes_zero_iff, yields_pure_iff]
  constructor
  · rintro ⟨id, _, ⟨idFits, rfl⟩, _, _, ⟨rfl, rfl⟩, _, _, ⟨rfl, rfl⟩, regionID, _,
      ⟨regionFits, rfl⟩, rfl, rfl⟩
    exact ⟨⟨idFits, regionFits⟩, ⟨rfl, rfl⟩, rfl⟩
  · rintro ⟨⟨idFits, regionFits⟩, ⟨code, storage⟩, rfl⟩
    refine ⟨_, _, ⟨idFits, rfl⟩, _, _, ⟨rfl, rfl⟩, _, _, ⟨rfl, rfl⟩, _, _, ⟨regionFits, rfl⟩, ?_,
      rfl⟩
    cases action
    simp_all

/-- as have the parameters of an event, of which no attestation is read. -/
theorem yields_sendEvent_iff {receiver action : SendEventAction} {data rest : Bytes} :
    Yields (SendEventAction.unmarshal P receiver) data action rest ↔
      (action.idTo.length ≤ maxStringLen ∧ action.functionCall.length ≤ maxStringLen ∧
        action.regionID.length ≤ maxStringLen) ∧
        (action.parameters = [] ∧ action.attestations = receiver.attestations) ∧
        data = encodeString action.idTo ++ (encodeString action.functionCall ++ (encodeBytes [] ++
          (encodeString action.regionID ++ rest))) := by
  simp only [SendEventAction.unmarshal, yields_bind_iff, yields_string_iff,
    P.yields_bytes_zero_iff, yields_pure_iff]
  constructor
  · rintro ⟨idTo, _, ⟨idFits, rfl⟩, functionCall, _, ⟨callFits, rfl⟩, _, _, ⟨rfl, rfl⟩, regionID, _,
      ⟨regionFits, rfl⟩, rfl, rfl⟩
    exact ⟨⟨idFits, callFits, regionFits⟩, ⟨rfl, rfl⟩, rfl⟩
  · rintro ⟨⟨idFits, callFits, regionFits⟩, ⟨parameters, attestations⟩, rfl⟩
    refine ⟨_, _, ⟨idFits, rfl⟩, _, _, ⟨callFits, rfl⟩, _, _, ⟨rfl, rfl⟩, _, _, ⟨regionFits, rfl⟩,
      ?_, rfl⟩
    rw [← parameters, ← attestations]

/-- The region of an input object is not read. -/
theorem yields_setInputObject_iff {receiver action : SetInputObjectAction} {data rest : Bytes} :
    Yields (SetInputObjectAction.unmarshal P receiver) data action rest ↔
      action.id.length ≤ maxStringLen ∧ action.regionID = receiver.regionID ∧
        data = encodeString action.id ++ rest := by
  simp only [SetInputObjectAction.unmarshal, yields_bind_iff, yields_string_iff, yields_pure_iff]
  constructor
  · rintro ⟨id, _, ⟨fits, rfl⟩, rfl, rfl⟩
    exact ⟨fits, rfl, rfl⟩
  · rintro ⟨fits, kept, rfl⟩
    refine ⟨_, _, ⟨fits, rfl⟩, ?_, rfl⟩
    rw [← kept]

instance sticky_tee : Sticky (P.unpackBytes 32 true) :=
  (P.reads_bytes 32 true (by decide)).sticky

/-- What `CreateRegionAction.Unmarshal` reads has the TEEs of the receiver, whatever TEEs were on
the wire. -/
theorem yields_createRegion {receiver action : CreateRegionAction} {data rest : Bytes}
    (read : Yields (CreateRegionAction.unmarshal P receiver) data action rest) :
    action.tees = receiver.tees ∧ action.attestations.1.Bare ∧ action.attestations.2.Bare := by
  simp only [CreateRegionAction.unmarshal, yields_bind_iff, yields_unmarshal_iff,
    yields_pure_iff] at read
  obtain ⟨_, _, _, _, _, _, _, _, _, first, _, ⟨⟨bare, -⟩, -⟩, second, _, ⟨⟨bare', -⟩, -⟩, rfl,
    -⟩ := read
  exact ⟨rfl, bare, bare'⟩

/-- A region with attestations without bytes is read from an encoding without TEEs. -/
theorem yields_createRegion_of_bare {receiver action : CreateRegionAction}
    (fits : action.regionID.length ≤ maxStringLen) (kept : action.tees = receiver.tees)
    (first : action.attestations.1.Bare ∧ action.attestations.1.WholeSeconds)
    (second : action.attestations.2.Bare ∧ action.attestations.2.WholeSeconds) :
    Yields (CreateRegionAction.unmarshal P receiver)
      (encodeString action.regionID ++ (toBE 4 0 ++
        (action.attestations.1.encode ++ (action.attestations.2.encode ++ [])))) action [] := by
  simp only [CreateRegionAction.unmarshal, yields_bind_iff, yields_string_iff,
    yields_unmarshal_iff, yields_pure_iff]
  have none (rest : Bytes) : Yields (P.unpackInt false) (toBE 4 0 ++ rest) 0 rest :=
    ((P.reads_int false).yields_iff _ _ _).mpr ⟨Bool.noConfusion, rfl⟩
  refine ⟨_, _, ⟨fits, rfl⟩, 0, _, none _, [], _, rfl, _, _, ⟨first, rfl⟩, _, _,
    ⟨second, rfl⟩, ?_, rfl⟩
  rw [← kept]

/-- Of the attestations of a region only the timestamps are left. -/
theorem yields_updateRegion_iff {receiver action : UpdateRegionAction} {data rest : Bytes} :
    Yields (UpdateRegionAction.unmarshal P receiver) data action rest ↔
      (action.regionID.length ≤ maxStringLen ∧ action.sgxEndpoint.length ≤ maxStringLen ∧
        action.sevEndpoint.length ≤ maxStringLen ∧ DecodedAction.WholeSeconds action.attestations) ∧
        (action.attestations.1.Bare ∧ action.attestations.2.Bare) ∧
        data = encodeString action.regionID ++ (encodeString action.sgxEndpoint ++
          (encodeString action.sevEndpoint ++
            (action.attestations.1.encode ++ (action.attestations.2.encode ++ rest)))) := by
  simp only [UpdateRegionAction.unmarshal, yields_bind_iff, yields_string_iff,
    yields_unmarshal_iff, yields_pure_iff]
  constructor
  · rintro ⟨regionID, _, ⟨regionFits, rfl⟩, sgx, _, ⟨sgxFits, rfl⟩, sev, _, ⟨sevFits, rfl⟩, first,
      _, ⟨⟨bare, whole⟩, rfl⟩, second, _, ⟨⟨bare', whole'⟩, rfl⟩, rfl, rfl⟩
    exact ⟨⟨regionFits, sgxFits, sevFits, whole, whole'⟩, ⟨bare, bare'⟩, rfl⟩
  · rintro ⟨⟨regionFits, sgxFits, sevFits, whole, whole'⟩, ⟨bare, bare'⟩, rfl⟩
    exact ⟨_, _, ⟨regionFits, rfl⟩, _, _, ⟨sgxFits, rfl⟩, _, _, ⟨sevFits, rfl⟩, _, _,
      ⟨⟨bare, whole⟩, rfl⟩, _, _, ⟨⟨bare', whole'⟩, rfl⟩, rfl, rfl⟩

/-- What a decoder does not fill is lost. -/
theorem DecodedAction.lostFieldsZero_of_decoded {data : Bytes} (action : DecodedAction)
    (decoded : action.DecodedFrom P data) : action.LostFieldsZero := by
  cases action <;> obtain ⟨rest, read⟩ := decode_eq_ok_iff.mp decoded
  case createObject => exact ((yields_createObject_iff P).mp read).2.1
  case sendEvent => exact ((yields_sendEvent_iff P).mp read).2.1
  case setInputObject => exact ((yields_setInputObject_iff P).mp read).2.1
  case createRegion => exact yields_createRegion P read
  case updateRegion => exact ((yields_updateRegion_iff P).mp read).2.1

/-- **Which actions can come from the wire**: those with the zero value in the fields that their
decoder does not read, and without a byte in those that it reads with a limit of zero. -/
theorem exists_decode_iff (action : DecodedAction) (fits : action.WithinLimits) :
    (∃ data, action.DecodedFrom P data) ↔ action.LostFieldsZero := by
  refine ⟨fun ⟨_, decoded⟩ => action.lostFieldsZero_of_decoded P decoded, fun lost => ?_⟩
  cases action with
  | createObject action =>
    exact ⟨_, decode_eq_ok_iff.mpr ⟨[], (yields_createObject_iff P).mpr ⟨fits, lost, rfl⟩⟩⟩
  | sendEvent action =>
    obtain ⟨idFits, callFits, regionFits, -⟩ := fits
    exact ⟨_, decode_eq_ok_iff.mpr
      ⟨[], (yields_sendEvent_iff P).mpr ⟨⟨idFits, callFits, regionFits⟩, lost, rfl⟩⟩⟩
  | setInputObject action =>
    exact ⟨_, decode_eq_ok_iff.mpr ⟨[], (yields_setInputObject_iff P).mpr ⟨fits.1, lost, rfl⟩⟩⟩
  | createRegion action =>
    obtain ⟨regionFits, whole, whole'⟩ := fits
    obtain ⟨tees, bare, bare'⟩ := lost
    exact ⟨_, decode_eq_ok_iff.mpr ⟨[], yields_createRegion_of_bare P regionFits tees
      ⟨bare, whole⟩ ⟨bare', whole'⟩⟩⟩
  | updateRegion action =>
    exact ⟨_, decode_eq_ok_iff.mpr ⟨[], (yields_updateRegion_iff P).mpr ⟨fits, lost, rfl⟩⟩⟩

end

/-- A region update with two stamped attestations. -/
theorem exists_decode_update :
    ∃ data, unmarshalUpdateRegion wirePacker data = .ok
      { regionID := [1], sgxEndpoint := [2], sevEndpoint := [3],
        attestations := (zero, ⟨[], [], Time.unixUTC 6, [], [], []⟩) } := by
  have stamped : (⟨[], [], Time.unixUTC 6, [], [], []⟩ : TEEAttestation).WholeSeconds :=
    wholeSeconds_of_range (by decide) (by decide) rfl
  have zero : zero.WholeSeconds :=
    TEEAttestation.wholeSeconds_of_range (by decide) (by decide) rfl
  refine (exists_decode_iff wirePacker (.updateRegion ⟨[1], [2], [3], (TEEAttestation.zero, _)⟩)
    ⟨by decide, by decide, by decide, zero, stamped⟩).mpr ?_
  exact ⟨by decide, by decide⟩

/-- An object with code, an event with an attestation, an input object of a region, a region with a
TEE and an update with an enclave ID are decoded from no bytes. -/
theorem not_exists_decode :
    (¬ ∃ data, unmarshalCreateObject wirePacker data = .ok
      { id := [1], code := [2], storage := [], regionID := [3] }) ∧
    (¬ ∃ data, unmarshalSendEvent wirePacker data = .ok
      { idTo := [1], functionCall := [2], parameters := [], regionID := [3],
        attestations := (⟨[4], [5], Time.unixUTC 6, [7], [8], [9]⟩, zero) }) ∧
    (¬ ∃ data, unmarshalSetInputObject wirePacker data = .ok { id := [1], regionID := [3] }) ∧
    (¬ ∃ data, unmarshalCreateRegion wirePacker data = .ok
      { regionID := [3], tees := [[1]],
        attestations := (zero, zero) }) ∧
    ¬ ∃ data, unmarshalUpdateRegion wirePacker data = .ok
      { regionID := [3], sgxEndpoint := [], sevEndpoint := [],
        attestations := (⟨[4], [], Time.unixUTC 6, [], [], []⟩, zero) } := by
  have lost := @DecodedAction.lostFieldsZero_of_decoded wirePacker
  refine ⟨fun ⟨_, decoded⟩ => ?_, fun ⟨_, decoded⟩ => ?_, fun ⟨_, decoded⟩ => ?_,
    fun ⟨_, decoded⟩ => ?_, fun ⟨_, decoded⟩ => ?_⟩
  · exact cons_ne_nil 2 [] (lost (.createObject _) decoded).1
  · have unread := (lost (.sendEvent _) decoded).2
    exact absurd (congrArg (fun pair => pair.1.enclaveID) unread) (cons_ne_nil 4 [])
  · exact cons_ne_nil 3 [] (lost (.setInputObject _) decoded)
  · exact cons_ne_nil [1] [] (lost (.createRegion _) decoded).1
  · exact cons_ne_nil 4 [] (lost (.updateRegion _) decoded).1.1

/-! ## The verdict on a pair of attestations -/

namespace Actions

/-- The checks of a pair of attestations, in order. -/
theorem verifyAttestationPair_eq (first second : TEEAttestation) :
    verifyAttestationPair (first, second) =
      if first.enclaveID = [] ∨ second.enclaveID = [] then .error errMissingAttestation
      else if first.timestamp ≠ second.timestamp ∨ first.data ≠ second.data then
        .error errAttestationMismatch
      else if (first.measurement = [] ∨ second.measurement = []) ∨
          (first.signature = [] ∨ second.signature = []) then .error errMissingAttestation
      else .ok () := by
  by_cases unnamed : first.enclaveID = [] ∨ second.enclaveID = []
  · simp [verifyAttestationPair, refuse, unnamed, bind, Except.bind]
  · simp only [verifyAttestationPair, refuse, unnamed, if_false, bind, Except.bind]
    split_ifs <;> simp_all

/-- An enclave ID is missing, or the pair agrees and a measurement or a signature is missing. -/
def PartMissing (first second : TEEAttestation) : Prop :=
  (first.enclaveID = [] ∨ second.enclaveID = []) ∨
    (first.timestamp = second.timestamp ∧ first.data = second.data) ∧
      ((first.measurement = [] ∨ second.measurement = []) ∨
        (first.signature = [] ∨ second.signature = []))

theorem verifyAttestationPair_eq_missing_iff (first second : TEEAttestation) :
    verifyAttestationPair (first, second) = .error errMissingAttestation ↔
      PartMissing first second := by
  have other : errAttestationMismatch ≠ errMissingAttestation := by decide
  rw [verifyAttestationPair_eq, PartMissing]
  split_ifs with unnamed differs missing
  · exact iff_of_true rfl (Or.inl unnamed)
  · refine iff_of_false (fun same => other (Except.error.inj same)) ?_
    rintro (absent | ⟨⟨stamps, data⟩, -⟩)
    · exact unnamed absent
    · exact differs.elim (fun apart => apart stamps) fun apart => apart data
  · exact iff_of_true rfl (Or.inr ⟨by simpa [not_or] using differs, missing⟩)
  · refine iff_of_false not_false ?_
    rintro (absent | ⟨-, absent⟩)
    · exact unnamed absent
    · exact missing absent

/-- **When the wire keeps the verdict**: the pair that comes back has no enclave IDs and is always
refused as missing, so the pair must have been refused as missing before. -/
theorem verifyAttestationPair_roundTrip_iff (P : Packer) (room : ℕ)
    (first second : TEEAttestation) :
    verifyAttestationPair
        (roundTrip P room first, roundTrip P room second) =
      verifyAttestationPair (first, second) ↔ PartMissing first second := by
  have after : verifyAttestationPair
      (roundTrip P room first, roundTrip P room second) =
        .error errMissingAttestation :=
    (verifyAttestationPair_eq_missing_iff _ _).mpr
      (Or.inl (Or.inl (roundTrip_enclaveID P room first)))
  rw [after, eq_comm, verifyAttestationPair_eq_missing_iff]

/-- Two equal attestations are accepted, and refused after the wire. -/
theorem verifyAttestationPair_roundTrip_equal :
    let attestation : TEEAttestation := ⟨[1], [2], Time.unixUTC 5, [3], [4], [6]⟩
    verifyAttestationPair (attestation, attestation) = .ok () ∧
      verifyAttestationPair (roundTrip wirePacker 64 attestation,
          roundTrip wirePacker 64 attestation) = .error errMissingAttestation := by
  decide +kernel

end Actions

end Aristo
